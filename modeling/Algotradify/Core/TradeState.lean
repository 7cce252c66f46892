/-
The trade state machine: the states of a trade record, the lifecycle states behind
them, the two tables between both, and the calls that move a trade.

A trade is a dictionary. The clock and the configured mode are parameters.

Runs of transitions of one trade, and the state that is read back after each.

The target state is written and then overwritten by the alias of its lifecycle
state. Two targets share a lifecycle state with another state, and two more are
closed, whose alias is filled.
-/

import Algotradify.Core.EntrySemantics
import Algotradify.Transition.Run

namespace Algotradify.Core.TradeState

open Py EntrySemantics

variable {after before : PyDict} {configMode : String}

/-! ### States -/

inductive TradeStateV1 where
  | new
  | candidate
  | approved
  | submitted
  | filled
  | rejected
  | cancelled
deriving DecidableEq, Repr

namespace TradeStateV1

def value : TradeStateV1 → String
  | .new => "NEW"
  | .candidate => "CANDIDATE"
  | .approved => "APPROVED"
  | .submitted => "SUBMITTED"
  | .filled => "FILLED"
  | .rejected => "REJECTED"
  | .cancelled => "CANCELLED"

def all : List TradeStateV1 :=
  [.new, .candidate, .approved, .submitted, .filled, .rejected, .cancelled]

def coerce (value : PyValue) : Except PyError TradeStateV1 :=
  let text := upper (strip (printValue (value.or (.str ""))))
  if text = "" then .ok .new
  else
    match all.find? fun state => state.value = text with
    | some state => .ok state
    | none => .error (.valueError ("invalid_trade_state:" ++ printValue value))

end TradeStateV1

inductive TradeLifecycleState where
  | ideaCreated
  | scored
  | ranked
  | advisory
  | executionPending
  | partiallyFilled
  | active
  | exitPending
  | closed
  | reconciled
deriving DecidableEq, Repr

namespace TradeLifecycleState

def value : TradeLifecycleState → String
  | .ideaCreated => "idea_created"
  | .scored => "scored"
  | .ranked => "ranked"
  | .advisory => "advisory"
  | .executionPending => "execution_pending"
  | .partiallyFilled => "partially_filled"
  | .active => "active"
  | .exitPending => "exit_pending"
  | .closed => "closed"
  | .reconciled => "reconciled"

def all : List TradeLifecycleState :=
  [.ideaCreated, .scored, .ranked, .advisory, .executionPending, .partiallyFilled, .active,
    .exitPending, .closed, .reconciled]

def coerce (value : PyValue) : Except PyError TradeLifecycleState :=
  let text := lower (strip (printValue (value.or (.str ""))))
  if text = "" then .ok .ideaCreated
  else
    match all.find? fun state => state.value = text with
    | some state => .ok state
    | none => .error (.valueError ("invalid_trade_lifecycle_state:" ++ printValue value))

end TradeLifecycleState

/-- `ALLOWED_TRANSITIONS`. -/
def allowedTransitions : TradeStateV1 → List TradeStateV1
  | .new => [.candidate, .rejected, .cancelled]
  | .candidate => [.approved, .rejected, .cancelled]
  | .approved => [.submitted, .rejected, .cancelled]
  | .submitted => [.filled, .rejected, .cancelled]
  | .filled => []
  | .rejected => []
  | .cancelled => []

/-- `_LEGACY_TO_LIFECYCLE`. -/
def legacyToLifecycle : TradeStateV1 → TradeLifecycleState
  | .new => .ideaCreated
  | .candidate => .scored
  | .approved => .executionPending
  | .submitted => .executionPending
  | .filled => .active
  | .rejected => .closed
  | .cancelled => .closed

/-- `_LIFECYCLE_TO_LEGACY`. -/
def legacyAliasForLifecycle : TradeLifecycleState → TradeStateV1
  | .ideaCreated => .new
  | .scored => .candidate
  | .ranked => .candidate
  | .advisory => .candidate
  | .executionPending => .approved
  | .partiallyFilled => .submitted
  | .active => .filled
  | .exitPending => .filled
  | .closed => .filled
  | .reconciled => .filled

/-! ### Reading a trade -/

/-- `_as_float`. -/
def asFloat (value : PyValue) : Option PyFloat :=
  (toFloat value).toOption

/-- `_text`. -/
def text (value : PyValue) : String :=
  strip (printValue (value.or (.str "")))

def hasValue (value : PyValue) : Bool :=
  !value.isNone && !(["", "None", "null"].contains (strip (printValue value)))

def isTruthy (value : PyValue) : Bool :=
  match value with
  | .bool flag => flag
  | other => ["1", "true", "yes", "y", "on"].contains (lower (text other))

def orNone (text : String) : Option String :=
  if text = "" then none else some text

def normalizeReason (reason : PyValue) : Option String :=
  orNone (text reason)

structure HistoryEvent where
  state : TradeLifecycleState
  reason : Option String
  timestamp : Option String
deriving DecidableEq, Repr

def HistoryEvent.toDict (event : HistoryEvent) : PyDict :=
  [("state", .str event.state.value), ("reason", ofOptionString event.reason),
    ("timestamp", ofOptionString event.timestamp)]

def coerceHistoryItem (item : PyValue) : Option HistoryEvent :=
  match item with
  | .dict entries =>
      match TradeLifecycleState.coerce (.str (lower (text (PyDict.get entries "state")))) with
      | .ok state => some
          { state := state
            reason := normalizeReason (PyDict.get entries "reason")
            timestamp := orNone (text (PyDict.get entries "timestamp")) }
      | .error _ => none
  | _ => none

def coerceHistory (value : PyValue) : List HistoryEvent :=
  match value with
  | .list items => items.filterMap coerceHistoryItem
  | _ => []

def legacyStateKeys : List String := ["trade_state_v1", "trade_status", "status", "state"]

def hasLegacyStateFields (trade : PyDict) : Bool :=
  legacyStateKeys.any fun key => trade.contains key

def inferCurrentState (trade : PyDict) : Except PyError TradeStateV1 :=
  match (legacyStateKeys.map trade.get).find? fun value =>
      !value.isNone && strip (printValue value) != "" with
  | some value => TradeStateV1.coerce value
  | none => .ok .new

def validateApprovedPreconditions (trade : PyDict) : Except PyError Unit :=
  let missing := match asFloat (trade.get "expected_entry") with
    | none => true
    | some expectedEntry => expectedEntry.le (.finite 0)
  if missing then .error (.valueError "approved_requires_expected_entry")
  else if text (trade.get "snapshot_id") = "" then
    .error (.valueError "approved_requires_snapshot_id")
  else .ok ()

/-- `0.0 < filled < total`, for two numbers that are both there. -/
def isPartlyFilled (trade : PyDict) : Bool :=
  match (asFloat (trade.get "filled_qty")).or (asFloat (trade.get "filled_quantity")),
      (asFloat (trade.get "qty")).or (asFloat (trade.get "qty_units")) with
  | some filled, some total => PyFloat.lt (.finite 0) filled && filled.lt total
  | _, _ => false

/-- What the action and entry fields of a trade without a decisive state say. -/
def inferFromActions (trade : PyDict) (legacyState : Option TradeStateV1) : TradeLifecycleState :=
  let finalAction := upper (text (trade.get "final_action"))
  let permission := upper (text (trade.get "permission"))
  let readiness := upper (text (trade.get "readiness"))
  let executionStatus := lower (text (trade.get "execution_status"))
  if finalAction = "EXECUTE" ∨ permission = "EXECUTE" ∨ executionStatus = "executable" then
    .executionPending
  else if ["ADVISORY_ONLY", "QUEUE_ONLY", "BLOCK"].contains finalAction then .advisory
  else if ["ADVISORY_ONLY", "QUEUE_ONLY", "BLOCKED"].contains readiness ||
      ["advisory_only", "queue_only", "blocked"].contains executionStatus then .advisory
  else if (asFloat (trade.get "execution_entry")).isNone &&
      (asFloat (trade.get "display_entry")).isSome then .advisory
  else if !(trade.get "opportunity_rank").isNone then .ranked
  else if ["trade_score", "opportunity_score", "confidence", "builder_confidence"].any
      fun key => !(trade.get key).isNone then .scored
  else if legacyState = some .candidate then .scored
  else .ideaCreated

def inferTradeLifecycleState (trade : PyDict) : Except PyError TradeLifecycleState :=
  let statusUpper := upper (text (trade.get "status"))
  let legacyState := (TradeStateV1.coerce (trade.get "trade_state_v1")).toOption
  if hasValue (trade.get "trade_lifecycle_state") then
    TradeLifecycleState.coerce (trade.get "trade_lifecycle_state")
  else if isTruthy (trade.get "reconciled") || hasValue (trade.get "reconciled_at") then
    .ok .reconciled
  else if upper (text (trade.get "reconciliation_status")) = "RECONCILED" then .ok .reconciled
  else if ["exit_price", "exit_time", "actual", "outcome_label"].any
      fun key => hasValue (trade.get key) then .ok .closed
  else if statusUpper = "EXIT_PENDING" ||
      ["PENDING", "OPEN"].contains (upper (text (trade.get "exit_order_status"))) then
    .ok .exitPending
  else if isPartlyFilled trade then .ok .partiallyFilled
  else if ["ACTIVE", "OPEN", "FILLED"].contains statusUpper then .ok .active
  else if ["fill_price", "fill_entry", "activated_ts"].any
      fun key => hasValue (trade.get key) then .ok .active
  else if legacyState = some .approved ∨ legacyState = some .submitted then .ok .executionPending
  else if legacyState = some .filled then .ok .active
  else if legacyState = some .rejected ∨ legacyState = some .cancelled then .ok .closed
  else .ok (inferFromActions trade legacyState)

/-! ### Writing a trade -/

def setState (trade : PyDict) (newState : TradeStateV1) : PyDict :=
  trade.set "trade_state_v1" (.str newState.value)

/-- The history after an event; a forced event repeats none that is last already. -/
def extendHistory (history : List HistoryEvent) (event : HistoryEvent) (forceHistory : Bool) :
    List HistoryEvent :=
  if forceHistory then
    if history.getLast? = some event then history else history ++ [event]
  else if history = [] then [event]
  else history

def resolvedState (trade : PyDict) (state : Option TradeLifecycleState) :
    Except PyError TradeLifecycleState :=
  match state with
  | some state => .ok state
  | none =>
      let explicitState := lower (text (trade.get "trade_lifecycle_state"))
      if explicitState ≠ "" then TradeLifecycleState.coerce (.str explicitState)
      else inferTradeLifecycleState trade

/-- The legacy alias is written back for a trade with any legacy state field. -/
def buildTradeLifecycleSnapshot (now : String) (trade : PyDict) (state : Option TradeLifecycleState)
    (reason timestamp : Option String) (forceHistory : Bool) : Except PyError PyDict := do
  let existingReason := normalizeReason (trade.get "trade_lifecycle_reason")
  let existingTs := orNone (text (trade.get "trade_lifecycle_ts"))
  let history := coerceHistory (trade.get "trade_lifecycle_history")
  let resolvedState ← resolvedState trade state
  let resolvedReason :=
    ((normalizeReason (ofOptionString reason)).or existingReason).getD "lifecycle_initialized"
  let resolvedTs := ((orNone (text (ofOptionString timestamp))).or existingTs).getD now
  let event : HistoryEvent :=
    { state := resolvedState, reason := some resolvedReason, timestamp := some resolvedTs }
  let snapshot : PyDict :=
    [("trade_lifecycle_state", .str resolvedState.value),
      ("trade_lifecycle_reason", .str resolvedReason),
      ("trade_lifecycle_ts", .str resolvedTs),
      ("trade_lifecycle_history",
        .list ((extendHistory history event forceHistory).map fun event => .dict event.toDict))]
  pure (if hasLegacyStateFields trade then
      snapshot ++ [("trade_state_v1", .str (legacyAliasForLifecycle resolvedState).value)]
    else snapshot)

def recordTradeLifecycleObservation (now : String) (trade : PyDict)
    (observedState : TradeLifecycleState) (reason timestamp : Option String) :
    Except PyError PyDict := do
  let snapshot ← buildTradeLifecycleSnapshot now trade (some observedState) reason timestamp true
  pure (trade.update snapshot)

/-! ### Moving a trade -/

def withEntryFields (configMode : String) (trade : PyDict) (targetState : TradeStateV1) : PyDict :=
  let expected :=
    if targetState = .approved ∧ asFloat (trade.get "expected_entry") = none then
      match deriveExpectedEntry trade with
      | some price => trade.set "expected_entry" (.float price)
      | none => trade
    else trade
  let filled :=
    if targetState = .filled ∧ asFloat (expected.get "fill_entry") = none then
      match deriveFillEntry expected with
      | some price => expected.set "fill_entry" (.float price)
      | none => expected
    else expected
  match resolveEntryPrice configMode filled with
  | some price => filled.set "entry_price" (.float price)
  | none => filled

def moveTo (now : String) (trade : PyDict) (targetState : TradeStateV1) : Except PyError PyDict :=
  recordTradeLifecycleObservation now (setState trade targetState) (legacyToLifecycle targetState)
    (some ("legacy_state:" ++ lower targetState.value)) none

def transitionTradeState (configMode now : String) (trade : PyDict) (newState : PyValue) :
    Except PyError PyDict := do
  let targetState ← TradeStateV1.coerce newState
  let trade := withEntryFields configMode trade targetState
  let currentState ← inferCurrentState trade
  if currentState = targetState then moveTo now trade targetState
  else if targetState ∉ allowedTransitions currentState then
    .error (.runtimeError ("invalid_trade_transition:" ++ currentState.value ++ "->" ++
      targetState.value))
  else if targetState = .approved then do
    validateApprovedPreconditions trade
    moveTo now trade targetState
  else moveTo now trade targetState

open Transition

/-! ### The alias of a state -/

def keptStates : List TradeStateV1 := [.new, .candidate, .approved, .filled]

def terminalStates : List TradeStateV1 := [.filled, .rejected, .cancelled]

def aliasOf (target : TradeStateV1) : TradeStateV1 :=
  legacyAliasForLifecycle (legacyToLifecycle target)

theorem aliasOf_eq_self_iff (target : TradeStateV1) :
    aliasOf target = target ↔ target ∈ keptStates := by
  cases target <;> decide

theorem mem_terminalStates_iff (state : TradeStateV1) :
    state ∈ terminalStates ↔ allowedTransitions state = [] := by
  cases state <;> decide

theorem coerce_value (state : TradeStateV1) :
    TradeStateV1.coerce (.str state.value) = .ok state := by
  cases state <;> decide

/-! ### Reading the state of a trade -/

theorem inferCurrentState_congr {first second : PyDict}
    (same : ∀ key ∈ legacyStateKeys, first.get key = second.get key) :
    inferCurrentState first = inferCurrentState second := by
  unfold inferCurrentState
  rw [List.map_congr_left same]

theorem inferCurrentState_of_written {trade : PyDict} {state : TradeStateV1}
    (written : trade.get "trade_state_v1" = .str state.value) :
    inferCurrentState trade = .ok state := by
  have visible : (!(PyValue.str state.value).isNone &&
      strip (printValue (.str state.value)) != "") = true := by
    cases state <;> decide
  unfold inferCurrentState legacyStateKeys
  rw [List.map_cons, List.find?_cons_of_pos (by rw [written]; exact visible), written]
  exact coerce_value state

private theorem get_set_legacy (trade : PyDict) {key : String} (value : PyValue)
    (other : key ∉ legacyStateKeys) :
    ∀ legacy ∈ legacyStateKeys, (trade.set key value).get legacy = trade.get legacy := by
  intro legacy member
  apply PyDict.get_set_of_ne
  rintro rfl
  exact other member

theorem inferCurrentState_withEntryFields (configMode : String) (trade : PyDict)
    (target : TradeStateV1) :
    inferCurrentState (withEntryFields configMode trade target) = inferCurrentState trade := by
  have set_expected := fun (trade : PyDict) value => inferCurrentState_congr
    (get_set_legacy trade value (show "expected_entry" ∉ legacyStateKeys by decide))
  have set_fill := fun (trade : PyDict) value => inferCurrentState_congr
    (get_set_legacy trade value (show "fill_entry" ∉ legacyStateKeys by decide))
  have set_price := fun (trade : PyDict) value => inferCurrentState_congr
    (get_set_legacy trade value (show "entry_price" ∉ legacyStateKeys by decide))
  unfold withEntryFields
  extract_lets expected filled
  have expected_reads : inferCurrentState expected = inferCurrentState trade := by
    change inferCurrentState (if _ then _ else _) = _
    split
    · split
      · exact set_expected trade _
      · rfl
    · rfl
  have filled_reads : inferCurrentState filled = inferCurrentState expected := by
    change inferCurrentState (if _ then _ else _) = _
    split
    · split
      · exact set_fill expected _
      · rfl
    · rfl
  rw [← expected_reads, ← filled_reads]
  split
  · exact set_price filled _
  · rfl

/-! ### What a call does -/

theorem moveTo_reads {now : String} {trade : PyDict} {target : TradeStateV1}
    (moved : moveTo now trade target = .ok after) :
    inferCurrentState after = .ok (aliasOf target) := by
  have legacy : hasLegacyStateFields (setState trade target) = true := by
    unfold hasLegacyStateFields legacyStateKeys setState
    rw [List.any_cons, PyDict.contains_set_self, Bool.true_or]
  obtain ⟨snapshot, built, done⟩ := bind_eq_ok.mp moved
  cases done
  obtain ⟨_, resolved, made⟩ := bind_eq_ok.mp built
  cases resolved
  cases made
  rw [if_pos legacy]
  exact inferCurrentState_of_written (PyDict.get_update_snoc _ _ _ _)

theorem transition_outcome {now : String} {newState : PyValue}
    (returned : transitionTradeState configMode now before newState = .ok after) :
    ∃ target current, TradeStateV1.coerce newState = .ok target ∧
      inferCurrentState before = .ok current ∧
      (current = target ∨ target ∈ allowedTransitions current) ∧
      inferCurrentState after = .ok (aliasOf target) := by
  obtain ⟨target, coerced, returned⟩ := bind_eq_ok.mp returned
  obtain ⟨current, read, returned⟩ := bind_eq_ok.mp returned
  rw [inferCurrentState_withEntryFields] at read
  refine ⟨target, current, coerced, read, ?_⟩
  by_cases same : current = target
  · rw [if_pos same] at returned
    exact ⟨.inl same, moveTo_reads returned⟩
  rw [if_neg same] at returned
  by_cases refused : target ∉ allowedTransitions current
  · rw [if_pos refused] at returned
    cases returned
  rw [if_neg refused] at returned
  refine ⟨.inr (not_not.mp refused), ?_⟩
  by_cases approving : target = .approved
  · rw [if_pos approving] at returned
    obtain ⟨_, _valid, returned⟩ := bind_eq_ok.mp returned
    exact moveTo_reads returned
  · rw [if_neg approving] at returned
    exact moveTo_reads returned

/-! ### Runs -/

structure TransitionCall where
  newState : PyValue
  now : String

def TransitionStep (configMode : String) (before : PyDict) (call : TransitionCall)
    (after : PyDict) : Prop :=
  transitionTradeState configMode call.now before call.newState = .ok after

def Kept (call : TransitionCall) : Prop :=
  ∃ target, TradeStateV1.coerce call.newState = .ok target ∧ target ∈ keptStates

/-- What a run of transitions is to do with the state that is read back. -/
structure Moves (configMode : String) (start : PyDict) (calls : List TransitionCall) : Prop where
  readBack : ∀ earlier call later before after,
    calls = earlier ++ call :: later → Run (TransitionStep configMode) start earlier before →
    TransitionStep configMode before call after →
    ∃ target, TradeStateV1.coerce call.newState = .ok target ∧
      inferCurrentState after = .ok target
  allowed : ∀ earlier call later before after,
    calls = earlier ++ call :: later → Run (TransitionStep configMode) start earlier before →
    TransitionStep configMode before call after →
    ∃ current next, inferCurrentState before = .ok current ∧ inferCurrentState after = .ok next ∧
      (current = next ∨ next ∈ allowedTransitions current)
  absorbing : ∀ earlier middle later before after state,
    calls = earlier ++ middle ++ later → Run (TransitionStep configMode) start earlier before →
    Run (TransitionStep configMode) before middle after →
    inferCurrentState before = .ok state → state ∈ terminalStates →
    inferCurrentState after = .ok state

theorem kept_moves {call : TransitionCall} (kept : Kept call)
    (stepped : TransitionStep configMode before call after) :
    ∃ target current, TradeStateV1.coerce call.newState = .ok target ∧
      inferCurrentState before = .ok current ∧ inferCurrentState after = .ok target ∧
      (current = target ∨ target ∈ allowedTransitions current) := by
  obtain ⟨target, coerced, member⟩ := kept
  obtain ⟨asked, current, sameTarget, read, permitted, left⟩ := transition_outcome stepped
  cases coerced.symm.trans sameTarget
  rw [(aliasOf_eq_self_iff target).mpr member] at left
  exact ⟨target, current, coerced, read, left, permitted⟩

theorem kept_terminal {calls : List TransitionCall} {state : TradeStateV1}
    (kept : ∀ call ∈ calls, Kept call) (run : Run (TransitionStep configMode) before calls after)
    (read : inferCurrentState before = .ok state) (terminal : state ∈ terminalStates) :
    inferCurrentState after = .ok state := by
  induction run with
  | nil => exact read
  | @snoc labels middle last call _run stepped ih =>
      have reached := ih fun call member => kept call (List.mem_append_left _ member)
      have keptLast := kept call (List.mem_append_right _ (List.mem_singleton_self _))
      obtain ⟨target, current, _coerced, before, left, permitted⟩ := kept_moves keptLast stepped
      cases before.symm.trans reached
      rcases permitted with rfl | next
      · exact left
      · rw [(mem_terminalStates_iff state).mp terminal] at next
        cases next

/-- The trade moves as it is asked to exactly when no call of the run asks for a
state whose alias is another one. -/
theorem transitions_move {configMode : String} {start finish : PyDict}
    {calls : List TransitionCall} (run : Run (TransitionStep configMode) start calls finish) :
    Moves configMode start calls ↔ ∀ call ∈ calls, Kept call := by
  constructor
  · intro moves call member
    obtain ⟨earlier, later, cut⟩ := List.append_of_mem member
    obtain ⟨before, initial, rest⟩ := run.split cut
    obtain ⟨after, stepped, _later⟩ := rest.cons_inv
    obtain ⟨target, coerced, read⟩ := moves.readBack _ _ _ _ _ cut initial stepped
    obtain ⟨asked, _, sameTarget, _, _, left⟩ := transition_outcome stepped
    cases coerced.symm.trans sameTarget
    have same : aliasOf target = target := Except.ok.inj (left.symm.trans read)
    exact ⟨target, coerced, (aliasOf_eq_self_iff target).mp same⟩
  · intro kept
    refine ⟨?_, ?_, ?_⟩
    · intro earlier call later before after cut _initial stepped
      obtain ⟨target, _, coerced, _, read, _⟩ := kept_moves (kept call (by simp [cut])) stepped
      exact ⟨target, coerced, read⟩
    · intro earlier call later before after cut _initial stepped
      obtain ⟨target, current, _, before, read, permitted⟩ :=
        kept_moves (kept call (by simp [cut])) stepped
      exact ⟨current, target, before, read, permitted⟩
    · intro earlier middle later before after state cut _initial middleRun read terminal
      refine kept_terminal ?_ middleRun read terminal
      intro call member
      exact kept call (by simp [cut, member])

private def newTrade : PyDict :=
  [("trade_id", .str "t1"), ("expected_entry", .float (.finite 100)), ("snapshot_id", .str "s1")]

private def approvingCalls : List TransitionCall :=
  [⟨.str "CANDIDATE", "2026-03-02T09:15:00+00:00"⟩,
    ⟨.str "APPROVED", "2026-03-02T09:16:00+00:00"⟩]

/-- A new trade that becomes a candidate and is approved moves as it is asked to. -/
theorem transitions_move_approved : Moves "PAPER" newTrade approvingCalls := by
  have returned : (approvingCalls.foldlM (fun trade call =>
      transitionTradeState "PAPER" call.now trade call.newState) newTrade).toOption.isSome = true := by
    decide
  obtain ⟨finish, folded⟩ := exists_ok returned
  have run := (Run.foldlM_eq_ok_iff _ _ _ _).mp folded
  refine (transitions_move run).mpr ?_
  intro call member
  rcases List.mem_pair.mp member with rfl | rfl
  · exact ⟨.candidate, by decide, by decide⟩
  · exact ⟨.approved, by decide, by decide⟩

private def rejectingCall : TransitionCall :=
  ⟨.str "REJECTED", "2026-03-02T09:15:00+00:00"⟩

/-- The call that rejects a new trade returns a trade that reads as filled. -/
theorem rejected_reads_filled :
    ∃ after, TransitionStep "PAPER" newTrade rejectingCall after ∧
      inferCurrentState after = .ok .filled ∧ ¬ Moves "PAPER" newTrade [rejectingCall] := by
  have returned : (transitionTradeState "PAPER" rejectingCall.now newTrade
      rejectingCall.newState).toOption.isSome = true := by
    decide
  have coerced : TradeStateV1.coerce rejectingCall.newState = .ok .rejected := by decide
  obtain ⟨after, stepped⟩ := exists_ok returned
  obtain ⟨target, _, asked, _, _, read⟩ := transition_outcome stepped
  cases asked.symm.trans coerced
  refine ⟨after, stepped, read, ?_⟩
  intro moves
  obtain ⟨target, asked, readBack⟩ := moves.readBack [] _ [] _ _ rfl .nil stepped
  cases asked.symm.trans coerced
  cases read.symm.trans readBack

end Algotradify.Core.TradeState
