/-
The lifecycle calls on a trade: ensuring its lifecycle fields, rebuilding them after a
restart, and moving the trade to a lifecycle state the table allows.

One reading of the clock serves a whole call: a later reading would only be used when
the fields of the first were blank.

The lifecycle history of a trade is a legal path: each call that returns keeps or
extends the path of states, and a call that raises leaves the trade as it was.
-/

import Algotradify.Core.TradeState
import Mathlib.Data.List.Chain

namespace Algotradify.Core.TradeState

open Py

variable {now : String} {trade snapshot after : PyDict} {state : Option TradeLifecycleState}
variable {reason timestamp : Option String} {forceHistory : Bool} {events : List HistoryEvent}
variable {current : TradeLifecycleState}

/-- `ALLOWED_LIFECYCLE_TRANSITIONS`. -/
def allowedLifecycleTransitions : TradeLifecycleState → List TradeLifecycleState
  | .ideaCreated => [.scored, .advisory, .closed]
  | .scored => [.ranked, .advisory, .executionPending, .closed]
  | .ranked => [.advisory, .executionPending, .closed]
  | .advisory => [.executionPending, .closed]
  | .executionPending => [.partiallyFilled, .active, .closed]
  | .partiallyFilled => [.active, .exitPending, .closed]
  | .active => [.exitPending, .closed]
  | .exitPending => [.closed]
  | .closed => [.reconciled]
  | .reconciled => []

/-- `_TERMINAL_LIFECYCLE_STATES`. -/
def terminalLifecycleStates : List TradeLifecycleState := [.reconciled]

/-- The text of a `TradeLifecycleTransitionError`. -/
def lifecycleTransitionError (currentState newState : TradeLifecycleState)
    (reason : Option String) : PyError :=
  let detail := "invalid_trade_lifecycle_transition:" ++ currentState.value ++ "->" ++
    newState.value
  match normalizeReason (ofOptionString reason) with
  | some reason => .runtimeError (detail ++ " reason=" ++ reason)
  | none => .runtimeError detail

def ensureTradeLifecycle (now : String) (trade : PyDict) (reason timestamp : Option String) :
    Except PyError PyDict := do
  let explicitState := hasValue (trade.get "trade_lifecycle_state")
  let history := coerceHistory (trade.get "trade_lifecycle_history")
  let snapshot ← buildTradeLifecycleSnapshot now trade none reason timestamp
    (!explicitState || history.isEmpty)
  pure (trade.update snapshot)

def rehydrateTradeLifecycle (now : String) (trade : PyDict) (reason timestamp : Option String) :
    Except PyError PyDict := do
  let inferredState ← inferTradeLifecycleState trade
  let history := coerceHistory (trade.get "trade_lifecycle_history")
  let snapshot ← buildTradeLifecycleSnapshot now trade (some inferredState) reason timestamp
    history.isEmpty
  pure (trade.update snapshot)

def transitionTradeLifecycle (now : String) (trade : PyDict) (newState : PyValue)
    (reason timestamp : Option String) : Except PyError PyDict := do
  let ensured ← ensureTradeLifecycle now trade (some "lifecycle_initialized") timestamp
  let currentState ← TradeLifecycleState.coerce (ensured.get "trade_lifecycle_state")
  let targetState ← TradeLifecycleState.coerce newState
  if currentState ≠ targetState ∧ currentState ∈ terminalLifecycleStates then
    .error (lifecycleTransitionError currentState targetState reason)
  else if currentState ≠ targetState ∧
      targetState ∉ allowedLifecycleTransitions currentState then
    .error (lifecycleTransitionError currentState targetState reason)
  else do
    let snapshot ← buildTradeLifecycleSnapshot now ensured (some targetState) reason timestamp true
    pure (ensured.update snapshot)

/-! ### What a snapshot writes -/

theorem coerce_lifecycle_value (state : TradeLifecycleState) :
    TradeLifecycleState.coerce (.str state.value) = .ok state := by
  cases state <;> rfl

theorem hasValue_lifecycle_value (state : TradeLifecycleState) :
    hasValue (.str state.value) = true := by
  cases state <;> rfl

private theorem coerceHistoryItem_toDict (event : HistoryEvent) :
    ∃ read, coerceHistoryItem (.dict event.toDict) = some read ∧ read.state = event.state := by
  have written : PyDict.get event.toDict "state" = .str event.state.value := rfl
  have coerced : TradeLifecycleState.coerce (.str (lower (text (.str event.state.value)))) =
      .ok event.state := by
    cases event.state <;> rfl
  unfold coerceHistoryItem
  dsimp only
  rw [written, coerced]
  exact ⟨_, rfl, rfl⟩

theorem coerceHistory_states (events : List HistoryEvent) :
    (coerceHistory (.list (events.map fun event => .dict event.toDict))).map HistoryEvent.state =
      events.map HistoryEvent.state := by
  unfold coerceHistory
  dsimp only
  induction events with
  | nil => rfl
  | cons event rest ih =>
      obtain ⟨read, coerced, same⟩ := coerceHistoryItem_toDict event
      rw [List.map_cons, List.filterMap_cons_some coerced, List.map_cons, List.map_cons, same, ih]

private theorem get_update_snapshot (trade : PyDict) (state reason ts history : PyValue)
    (extra : Option PyValue) :
    let changes : PyDict :=
      [("trade_lifecycle_state", state), ("trade_lifecycle_reason", reason),
        ("trade_lifecycle_ts", ts), ("trade_lifecycle_history", history)] ++
      extra.toList.map fun value => ("trade_state_v1", value)
    (trade.update changes).get "trade_lifecycle_state" = state ∧
      (trade.update changes).get "trade_lifecycle_history" = history := by
  cases extra <;> simp [PyDict.update, PyDict.get_set_of_ne]

def lifecycleKeys : List String :=
  ["trade_lifecycle_state", "trade_lifecycle_reason", "trade_lifecycle_ts",
    "trade_lifecycle_history", "trade_state_v1"]

theorem snapshot_frame
    (built : buildTradeLifecycleSnapshot now trade state reason timestamp forceHistory =
      .ok snapshot) {key : String} (other : key ∉ lifecycleKeys) :
    (trade.update snapshot).get key = trade.get key := by
  obtain ⟨resolved, _, made⟩ := bind_eq_ok.mp built
  cases made
  apply PyDict.get_update_of_notMem
  intro member
  apply other
  split at member
  · exact member
  · exact List.mem_append_left ["trade_state_v1"] member

theorem snapshot_writes
    (built : buildTradeLifecycleSnapshot now trade state reason timestamp forceHistory =
      .ok snapshot) :
    ∃ event, resolvedState trade state = .ok event.state ∧
      (trade.update snapshot).get "trade_lifecycle_state" = .str event.state.value ∧
      (trade.update snapshot).get "trade_lifecycle_history" =
        .list ((extendHistory (coerceHistory (trade.get "trade_lifecycle_history")) event
          forceHistory).map fun event => .dict event.toDict) := by
  obtain ⟨resolved, read, made⟩ := bind_eq_ok.mp built
  cases made
  refine ⟨
    { state := resolved
      reason := some (((normalizeReason (ofOptionString reason)).or
        (normalizeReason (trade.get "trade_lifecycle_reason"))).getD "lifecycle_initialized")
      timestamp := some (((orNone (text (ofOptionString timestamp))).or
        (orNone (text (trade.get "trade_lifecycle_ts")))).getD now) }, read, ?_⟩
  by_cases legacy : hasLegacyStateFields trade
  · rw [if_pos legacy]
    exact get_update_snapshot trade _ _ _ _ (some _)
  · rw [if_neg legacy]
    exact get_update_snapshot trade _ _ _ _ none

open Transition

/-! ### Legal histories -/

/-- The next state of a history is the same or one the table allows. -/
def Follows (earlier later : TradeLifecycleState) : Prop :=
  earlier = later ∨ later ∈ allowedLifecycleTransitions earlier

structure LegalHistory (trade : PyDict) (events : List HistoryEvent)
    (current : TradeLifecycleState) : Prop where
  state : trade.get "trade_lifecycle_state" = .str current.value
  history : trade.get "trade_lifecycle_history" =
    .list (events.map fun event => .dict event.toDict)
  last : (events.map HistoryEvent.state).getLast? = some current
  chain : (events.map HistoryEvent.state).IsChain Follows

def LegalPath (events : List HistoryEvent) (current : TradeLifecycleState) : Prop :=
  (events.map HistoryEvent.state).getLast? = some current ∧
    (events.map HistoryEvent.state).IsChain Follows

theorem LegalPath.ne_nil (path : LegalPath events current) : events ≠ [] := by
  intro empty
  have last := path.1
  rw [empty] at last
  cases last

theorem LegalHistory.path (legal : LegalHistory trade events current) :
    LegalPath (coerceHistory (trade.get "trade_lifecycle_history")) current := by
  unfold LegalPath
  rw [legal.history, coerceHistory_states]
  exact ⟨legal.last, legal.chain⟩

theorem LegalHistory.ne_nil (legal : LegalHistory trade events current) : events ≠ [] :=
  LegalPath.ne_nil ⟨legal.last, legal.chain⟩

theorem LegalHistory.explicit (legal : LegalHistory trade events current) :
    hasValue (trade.get "trade_lifecycle_state") = true := by
  rw [legal.state]
  exact hasValue_lifecycle_value current

theorem LegalHistory.inferred (legal : LegalHistory trade events current) :
    inferTradeLifecycleState trade = .ok current := by
  unfold inferTradeLifecycleState
  rw [if_pos legal.explicit, legal.state]
  exact coerce_lifecycle_value current

theorem LegalHistory.resolved (legal : LegalHistory trade events current) :
    resolvedState trade none = .ok current := by
  unfold resolvedState
  dsimp only
  rw [legal.state]
  cases current <;> rfl

/-! ### One snapshot -/

theorem extendHistory_path {event : HistoryEvent}
    (follows : events = [] ∨ ∃ current, LegalPath events current ∧ Follows current event.state ∧
      (forceHistory = false → current = event.state)) :
    LegalPath (extendHistory events event forceHistory) event.state := by
  have start : LegalPath [event] event.state := ⟨rfl, List.isChain_singleton _⟩
  rcases follows with rfl | ⟨current, path, next, kept⟩
  · cases forceHistory <;> exact start
  · cases forceHistory with
    | false =>
        rw [kept rfl] at path
        unfold extendHistory
        rw [if_neg (by decide), if_neg path.ne_nil]
        exact path
    | true =>
        unfold extendHistory
        rw [if_pos rfl]
        by_cases repeated : events.getLast? = some event
        · rw [if_pos repeated]
          refine ⟨?_, path.2⟩
          rw [List.getLast?_map, repeated]
          rfl
        · rw [if_neg repeated]
          unfold LegalPath
          rw [List.map_append, List.map_singleton]
          refine ⟨List.getLast?_concat, List.isChain_append.mpr
            ⟨path.2, List.isChain_singleton _, ?_⟩⟩
          intro before isLast after isFirst
          cases path.1.symm.trans isLast
          cases isFirst
          exact next

theorem snapshot_legal {resolved : TradeLifecycleState}
    (built : buildTradeLifecycleSnapshot now trade state reason timestamp forceHistory =
      .ok snapshot) (read : resolvedState trade state = .ok resolved)
    (follows : coerceHistory (trade.get "trade_lifecycle_history") = [] ∨
      ∃ current, LegalPath (coerceHistory (trade.get "trade_lifecycle_history")) current ∧
        Follows current resolved ∧ (forceHistory = false → current = resolved)) :
    ∃ events, LegalHistory (trade.update snapshot) events resolved := by
  obtain ⟨event, own, stateWritten, historyWritten⟩ := snapshot_writes built
  cases read.symm.trans own
  have path := extendHistory_path follows
  exact ⟨_, stateWritten, historyWritten, path.1, path.2⟩

/-! ### The three calls -/

def Bare (trade : PyDict) : Prop :=
  ∀ key ∈ ["trade_lifecycle_state", "trade_lifecycle_reason", "trade_lifecycle_ts",
    "trade_lifecycle_history"], trade.contains key = false

theorem Bare.history (bare : Bare trade) :
    coerceHistory (trade.get "trade_lifecycle_history") = [] := by
  have absent := bare "trade_lifecycle_history" (by decide)
  have missing : trade.lookup "trade_lifecycle_history" = none :=
    Option.isSome_eq_false_iff.mp absent |> Option.isNone_iff_eq_none.mp
  unfold PyDict.get
  rw [missing]
  rfl

theorem ensure_legal (returned : ensureTradeLifecycle now trade reason timestamp = .ok after)
    (held : Bare trade ∨ ∃ events current, LegalHistory trade events current) :
    ∃ events current, LegalHistory after events current ∧
      ∀ earlier state, LegalHistory trade earlier state → current = state := by
  obtain ⟨snapshot, built, done⟩ := bind_eq_ok.mp returned
  cases done
  obtain ⟨event, own, _⟩ := snapshot_writes built
  rcases held with bare | ⟨events, current, legal⟩
  · obtain ⟨events, written⟩ := snapshot_legal built own (.inl bare.history)
    refine ⟨events, event.state, written, ?_⟩
    intro earlier state legal
    exact absurd bare.history legal.path.ne_nil
  · cases legal.resolved.symm.trans own
    obtain ⟨later, written⟩ := snapshot_legal built own
      (.inr ⟨_, legal.path, .inl rfl, fun _ => rfl⟩)
    refine ⟨later, _, written, ?_⟩
    intro earlier state other
    exact Except.ok.inj (own.symm.trans other.resolved)

theorem rehydrate_legal (returned : rehydrateTradeLifecycle now trade reason timestamp = .ok after)
    (held : Bare trade ∨ ∃ events current, LegalHistory trade events current) :
    ∃ events current, LegalHistory after events current ∧
      ∀ earlier state, LegalHistory trade earlier state → current = state := by
  obtain ⟨inferred, read, returned⟩ := bind_eq_ok.mp returned
  obtain ⟨snapshot, built, done⟩ := bind_eq_ok.mp returned
  cases done
  have same : ∀ earlier state, LegalHistory trade earlier state → inferred = state :=
    fun _ _ legal => Except.ok.inj (read.symm.trans legal.inferred)
  rcases held with bare | ⟨events, current, legal⟩
  · obtain ⟨later, written⟩ := snapshot_legal built rfl (.inl bare.history)
    exact ⟨later, inferred, written, same⟩
  · obtain ⟨later, written⟩ := snapshot_legal built rfl
      (.inr ⟨_, legal.path, .inl (same _ _ legal).symm, fun _ => (same _ _ legal).symm⟩)
    exact ⟨later, inferred, written, same⟩

theorem transition_legal {newState : PyValue}
    (returned : transitionTradeLifecycle now trade newState reason timestamp = .ok after)
    (held : Bare trade ∨ ∃ events current, LegalHistory trade events current) :
    ∃ events current, LegalHistory after events current ∧
      TradeLifecycleState.coerce newState = .ok current ∧
      ∀ earlier state, LegalHistory trade earlier state → Follows state current := by
  obtain ⟨ensured, ensuring, returned⟩ := bind_eq_ok.mp returned
  obtain ⟨history, current, legal, same⟩ := ensure_legal ensuring held
  obtain ⟨read, coerced, returned⟩ := bind_eq_ok.mp returned
  rw [legal.state] at coerced
  cases (coerce_lifecycle_value current).symm.trans coerced
  obtain ⟨target, asked, returned⟩ := bind_eq_ok.mp returned
  split at returned
  · cases returned
  split at returned
  · cases returned
  rename_i allowed
  obtain ⟨snapshot, built, done⟩ := bind_eq_ok.mp returned
  cases done
  have follows : Follows current target := by
    by_cases equal : current = target
    · exact .inl equal
    · exact .inr (not_not.mp fun refused => allowed ⟨equal, refused⟩)
  obtain ⟨events, written⟩ := snapshot_legal built rfl
    (.inr ⟨current, legal.path, follows, fun forced => nomatch forced⟩)
  refine ⟨events, target, written, asked, ?_⟩
  intro earlier state other
  rw [← same earlier state other]
  exact follows

/-! ### Runs -/

inductive LifecycleOperation where
  | transition (newState : PyValue)
  | ensure
  | rehydrate

structure LifecycleCall where
  operation : LifecycleOperation
  reason : Option String
  timestamp : Option String
  now : String

def LifecycleCall.run (call : LifecycleCall) (trade : PyDict) : Except PyError PyDict :=
  match call.operation with
  | .transition newState =>
      transitionTradeLifecycle call.now trade newState call.reason call.timestamp
  | .ensure => ensureTradeLifecycle call.now trade call.reason call.timestamp
  | .rehydrate => rehydrateTradeLifecycle call.now trade call.reason call.timestamp

abbrev LifecycleEntry := LifecycleCall × Except PyError PyDict

/-- A call that returns replaces the trade, one that raises leaves it as it is. -/
def LifecycleStep (before : PyDict) (entry : LifecycleEntry) (after : PyDict) : Prop :=
  entry.2 = entry.1.run before ∧ after = entry.2.toOption.getD before

def Returned (entry : LifecycleEntry) : Prop :=
  ∃ trade, entry.2 = .ok trade

theorem LifecycleStep.cases {before : PyDict} {entry : LifecycleEntry}
    (stepped : LifecycleStep before entry after)
    (held : Bare before ∨ ∃ events current, LegalHistory before events current) :
    (¬Returned entry ∧ after = before) ∨
      Returned entry ∧ ∃ events current, LegalHistory after events current ∧
        ∀ earlier state, LegalHistory before earlier state → Follows state current := by
  obtain ⟨call, outcome⟩ := entry
  obtain ⟨ran, left⟩ := stepped
  dsimp only at ran left
  cases outcome with
  | error raised =>
      refine .inl ⟨?_, left⟩
      rintro ⟨trade, impossible⟩
      cases impossible
  | ok trade =>
      cases left
      refine .inr ⟨⟨trade, rfl⟩, ?_⟩
      unfold LifecycleCall.run at ran
      split at ran
      · obtain ⟨events, current, legal, _, follows⟩ := transition_legal ran.symm held
        exact ⟨events, current, legal, follows⟩
      · obtain ⟨events, current, legal, same⟩ := ensure_legal ran.symm held
        exact ⟨events, current, legal, fun earlier state other => .inl (same earlier state other).symm⟩
      · obtain ⟨events, current, legal, same⟩ := rehydrate_legal ran.symm held
        exact ⟨events, current, legal, fun earlier state other => .inl (same earlier state other).symm⟩

theorem run_held {start finish : PyDict} {entries : List LifecycleEntry} (bare : Bare start)
    (run : Run LifecycleStep start entries finish) :
    ((∀ entry ∈ entries, ¬Returned entry) ∧ finish = start) ∨
      (∃ entry ∈ entries, Returned entry) ∧
        ∃ events current, LegalHistory finish events current := by
  induction run with
  | nil => exact .inl ⟨fun _ member => absurd member List.not_mem_nil, rfl⟩
  | @snoc entries before after entry _run stepped ih =>
      have held : Bare before ∨ ∃ events current, LegalHistory before events current := by
        rcases ih with ⟨_, same⟩ | ⟨_, legal⟩
        · rw [same]
          exact .inl bare
        · exact .inr legal
      rcases stepped.cases held with ⟨raised, rfl⟩ | ⟨returned, events, current, legal, _⟩
      · rcases ih with ⟨none, same⟩ | ⟨⟨earlier, member, returned⟩, legal⟩
        · refine .inl ⟨?_, same⟩
          intro other member
          rcases List.mem_append.mp member with before | last
          · exact none other before
          · rw [List.mem_singleton.mp last]
            exact raised
        · exact .inr ⟨⟨earlier, List.mem_append_left _ member, returned⟩, legal⟩
      · exact .inr ⟨⟨entry, List.mem_append_right _ List.mem_cons_self, returned⟩,
          events, current, legal⟩

private theorem follows_reconciled {next : TradeLifecycleState} (follows : Follows .reconciled next) :
    next = .reconciled := by
  rcases follows with same | allowed
  · exact same.symm
  · exact absurd allowed List.not_mem_nil

theorem reconciled_stays {before : PyDict} {entries : List LifecycleEntry}
    (legal : LegalHistory before events .reconciled) (run : Run LifecycleStep before entries after) :
    ∃ events, LegalHistory after events .reconciled := by
  refine run.invariant (motive := fun trade => ∃ events, LegalHistory trade events .reconciled)
    ⟨events, legal⟩ ?_
  rintro middle entry next ⟨events, legal⟩ stepped
  rcases stepped.cases (.inr ⟨events, _, legal⟩) with ⟨_, rfl⟩ | ⟨_, later, current, written, follows⟩
  · exact ⟨events, legal⟩
  · rw [follows_reconciled (follows events .reconciled legal)] at written
    exact ⟨later, written⟩

theorem Bare.stateless (bare : Bare trade) (state : TradeLifecycleState) :
    trade.get "trade_lifecycle_state" ≠ .str state.value := by
  have absent := bare "trade_lifecycle_state" (by decide)
  have missing : trade.lookup "trade_lifecycle_state" = none :=
    Option.isNone_iff_eq_none.mp (Option.isSome_eq_false_iff.mp absent)
  unfold PyDict.get
  rw [missing]
  exact nofun

/-- From the first call that returns on, the history of a trade is a legal path that ends
in its state; calls that raise change nothing, and the reconciled state stays. -/
theorem lifecycle_history_legal {start finish : PyDict} {entries : List LifecycleEntry}
    (bare : Bare start) (run : Run LifecycleStep start entries finish) :
    ((∃ entry ∈ entries, Returned entry) →
      ∃ events current, events ≠ [] ∧ LegalHistory finish events current) ∧
    ((∀ entry ∈ entries, ¬Returned entry) → finish = start) ∧
    (∀ earlier entry later before after, entries = earlier ++ entry :: later →
      Run LifecycleStep start earlier before → LifecycleStep before entry after →
      ¬Returned entry → after = before) ∧
    ∀ earlier later middle, entries = earlier ++ later → Run LifecycleStep start earlier middle →
      Run LifecycleStep middle later finish →
      middle.get "trade_lifecycle_state" = .str TradeLifecycleState.reconciled.value →
      finish.get "trade_lifecycle_state" = .str TradeLifecycleState.reconciled.value := by
  refine ⟨?_, ?_, ?_, ?_⟩
  · rintro ⟨entry, member, returned⟩
    rcases run_held bare run with ⟨none, _⟩ | ⟨_, events, current, legal⟩
    · exact absurd returned (none entry member)
    · exact ⟨events, current, legal.ne_nil, legal⟩
  · intro none
    rcases run_held bare run with ⟨_, same⟩ | ⟨⟨entry, member, returned⟩, _⟩
    · exact same
    · exact absurd returned (none entry member)
  · intro earlier entry later before after _cut initial stepped raised
    have held : Bare before ∨ ∃ events current, LegalHistory before events current := by
      rcases run_held bare initial with ⟨_, same⟩ | ⟨_, legal⟩
      · rw [same]
        exact .inl bare
      · exact .inr legal
    rcases stepped.cases held with ⟨_, same⟩ | ⟨returned, _⟩
    · exact same
    · exact absurd returned raised
  · intro earlier later middle _cut initial rest reconciled
    rcases run_held bare initial with ⟨_, rfl⟩ | ⟨_, events, current, legal⟩
    · exact absurd reconciled (bare.stateless _)
    · have same : current = .reconciled := by
        have texts := PyValue.str.inj (legal.state.symm.trans reconciled)
        revert texts
        cases current <;> decide
      rw [same] at legal
      obtain ⟨_, kept⟩ := reconciled_stays legal rest
      exact kept.state

private def scoredTrade : PyDict :=
  [("trade_id", .str "t1"), ("trade_score", .float (.finite (7 / 10)))]

private def lifecycleCall (operation : LifecycleOperation) : LifecycleCall :=
  ⟨operation, some "desk", none, "2026-03-02T09:15:00+00:00"⟩

/-- A scored trade that is ensured and ranked has a history of both states. -/
theorem lifecycle_history_legal_ranked :
    ∃ finish events current, Run LifecycleStep scoredTrade
      [(lifecycleCall .ensure, (lifecycleCall .ensure).run scoredTrade)] finish ∧
      events ≠ [] ∧ LegalHistory finish events current := by
  have bare : Bare scoredTrade := by
    intro key member
    revert key
    decide
  have run : Run LifecycleStep scoredTrade
      [(lifecycleCall .ensure, (lifecycleCall .ensure).run scoredTrade)] _ :=
    .snoc .nil ⟨rfl, rfl⟩
  have returned : ((lifecycleCall .ensure).run scoredTrade).toOption.isSome = true := by
    decide
  obtain ⟨trade, ensured⟩ := exists_ok returned
  obtain ⟨events, current, some, legal⟩ := (lifecycle_history_legal bare run).1
    ⟨_, List.mem_cons_self, trade, ensured⟩
  exact ⟨_, events, current, run, some, legal⟩

/-- A first transition that is refused leaves the trade without any history. -/
theorem refused_first_transition :
    ¬∀ start finish entries, Bare start → Run LifecycleStep start entries finish →
      ∃ events current, LegalHistory finish events current := by
  intro legal
  have bare : Bare scoredTrade := by
    intro key member
    revert key
    decide
  have run : Run LifecycleStep scoredTrade
      [(lifecycleCall (.transition (.str "active")),
        (lifecycleCall (.transition (.str "active"))).run scoredTrade)] scoredTrade := by
    have refused : ((lifecycleCall (.transition (.str "active"))).run scoredTrade).toOption.isNone =
        true := by
      decide
    refine .snoc .nil ⟨rfl, ?_⟩
    dsimp only
    rw [Option.isNone_iff_eq_none.mp refused]
    rfl
  obtain ⟨events, current, found⟩ := legal _ _ _ bare run
  exact bare.stateless current found.state

end Algotradify.Core.TradeState
