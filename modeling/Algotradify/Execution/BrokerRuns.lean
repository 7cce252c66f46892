/-
Runs of an engine: placements with any broker function, failures that are registered by
others, retries of other operations, resets, and other callers of the order database.

Two things are asked of the broker over a run: that it accepts one order for a key, and
that it is asked for none while the kill switch is on.
-/

import Algotradify.Execution.EngineEffects

namespace Algotradify.Execution

open Py Sql Orders Transition

/-! ### Moves of an engine -/

inductive Move where
  | place (env : Environment) (request : PlaceRequest)
  | fail (failure : FailureType) (now : PyFloat)
  | retry (operation : ℕ → Attempt) (clock : ℕ → PyFloat)
  | reset
  | orders (call : Call)

/-- The attempts of a placement at the broker, and the state that a move leaves. -/
def Engine.next (config : EngineConfig) (engine : Engine) : Move → List Attempt × Engine
  | .place env request =>
      let placing := placeOrder config env request engine
      (placing.attempts, placing.engine)
  | .fail failure now =>
      ([], { engine with failures := (registerFailure config.failure failure now engine.failures).1 })
  | .retry operation clock =>
      ([], { engine with
        failures :=
          (executeWithNetworkRetry config.failure operation clock engine.failures).failures })
  | .reset => ([], { engine with failures := resetFailures engine.failures })
  | .orders call => ([], { engine with orders := (perform engine.orders call).2 })

abbrev Entry := Move × List Attempt

def EngineStep (config : EngineConfig) : Engine → Entry → Engine → Prop :=
  Observed fun engine move => some (engine.next config move)

/-! ### The attempts of a placement -/

section Attempts

variable {config : EngineConfig} {env : Environment} {request : PlaceRequest} {engine : Engine}
variable {sent : SentOrder}

theorem settleError_attempts (raised : Raised) (attempts : List Attempt) :
    (settleError env sent raised engine attempts).attempts = attempts := by
  unfold settleError
  split
  · rfl
  · split
    · rfl
    · split
      · rfl
      · rfl

theorem settleReject_attempts (response : PyValue) (attempts : List Attempt) :
    (settleReject config env request sent response engine attempts).attempts = attempts := by
  unfold settleReject
  split
  · rfl
  · dsimp only
    split
    · rfl
    · split
      · rfl
      · rfl

theorem settleAccept_attempts (response : PyValue) (attempts : List Attempt) :
    (settleAccept env request sent response engine attempts).attempts = attempts := by
  unfold settleAccept
  split
  · rfl
  · split
    · rfl
    · rfl

theorem submitOrder_attempts :
    (submitOrder config env request sent).attempts = (sent.submission config env).attempts := by
  unfold submitOrder
  dsimp only
  split
  · exact settleError_attempts _ _
  · split
    · exact settleReject_attempts _ _
    · exact settleAccept_attempts _ _

theorem attempts_eq_nil_iff :
    (placeOrder config env request engine).attempts = [] ↔
      ¬PassesChecks config env request engine := by
  rw [← reaches_iff]
  unfold placeOrder
  cases reached : beforeSubmit config env request engine with
  | inl stopped =>
      refine iff_of_true rfl ?_
      rintro ⟨_, impossible⟩
      cases impossible
  | inr sent =>
      refine iff_of_false (fun none => ?_) fun impossible => impossible ⟨sent, rfl⟩
      change (submitOrder config env request sent).attempts = [] at none
      obtain ⟨last, attempts, _⟩ := executeWithNetworkRetry_ends config.failure sent.submit
        env.failureClock sent.engine.failures
      change (sent.submission config env).attempts = _ at attempts
      rw [submitOrder_attempts, attempts, List.map_eq_nil_iff, List.range_eq_nil] at none
      exact Nat.succ_ne_zero last none

end Attempts

/-! ### What every move keeps -/

/-- Stored orders stay with their keys, and a triggered kill switch stays on. -/
structure Continues (before after : Engine) : Prop where
  rows : ∀ orderId row, before.orders.orderStates.select orderId = some row → ∃ later,
    after.orders.orderStates.select orderId = some later ∧
      later.idempotencyKey = row.idempotencyKey
  latch : before.failures.killSwitchTriggered = true → after.failures.killSwitchTriggered = true

section Continuing

variable {config : EngineConfig} {env : Environment} {request : PlaceRequest}
variable {engine after : Engine}

theorem Continues.of_same (orders : after.orders = engine.orders)
    (failures : after.failures = engine.failures) : Continues engine after := by
  refine ⟨fun orderId row selected => ⟨row, ?_, rfl⟩, fun triggered => ?_⟩
  · rw [orders]
    exact selected
  · rw [failures]
    exact triggered

theorem Continues.trans {middle : Engine} (first : Continues engine middle)
    (second : Continues middle after) : Continues engine after := by
  refine ⟨fun orderId row selected => ?_, fun triggered => second.latch (first.latch triggered)⟩
  obtain ⟨between, found, sameKey⟩ := first.rows orderId row selected
  obtain ⟨later, last, lastKey⟩ := second.rows orderId between found
  exact ⟨later, last, lastKey.trans sameKey⟩

theorem Continues.of_failures {failures : FailureState}
    (latch : engine.failures.killSwitchTriggered = true → failures.killSwitchTriggered = true) :
    Continues engine { engine with failures := failures } :=
  ⟨fun _ row selected => ⟨row, selected, rfl⟩, latch⟩

theorem continues_of_effect {context : CallContext} {operation : Operation} {reply : Reply}
    {db : Database} (effect : Effect context engine.orders operation reply db) :
    Continues engine { engine with orders := db } := by
  refine ⟨fun orderId row selected => ?_, fun triggered => triggered⟩
  have written : ∀ {own : String} {current written : OrderRow} {event : EventRow},
      engine.orders.orderStates.select own = some current →
      written.idempotencyKey = current.idempotencyKey → ∃ later,
        (engine.orders.write own written event).orderStates.select orderId = some later ∧
          later.idempotencyKey = row.idempotencyKey := by
    intro own current written event stored sameKey
    by_cases same : orderId = own
    · subst same
      cases selected.symm.trans stored
      exact ⟨written, Table.select_put_self _ _ _, sameKey⟩
    · exact ⟨row, (Table.select_put_of_ne _ _ same).trans selected, rfl⟩
  cases effect with
  | found => exact ⟨row, selected, rfl⟩
  | @created request _ _ freshId _ =>
      refine ⟨row, ?_, rfl⟩
      refine (Table.select_put_of_ne _ _ ?_).trans selected
      rintro rfl
      cases selected.symm.trans freshId
  | moved _ stored _ made => exact written stored (transitionRow made).1.idempotencyKey
  | unchanged => exact ⟨row, selected, rfl⟩
  | filled stored _ made => exact written stored (fillRow made).1.idempotencyKey

theorem EngineEffect.continues (effect : EngineEffect config request engine after) :
    Continues engine after := by
  cases effect with
  | failures latch => exact .of_failures latch
  | decisions decisions => exact .of_same rfl rfl
  | intent row => exact .of_same rfl rfl
  | created keyed effect => exact continues_of_effect effect
  | moved effect => exact continues_of_effect effect

theorem Effects.continues (effects : Effects config request engine after) :
    Continues engine after := by
  induction effects with
  | refl => exact .of_same rfl rfl
  | tail earlier effect ih => exact ih.trans effect.continues

theorem placeOrder_continues :
    Continues engine (placeOrder config env request engine).engine :=
  placeOrder_effects.continues

end Continuing

/-! ### The kill switch -/

/-- Where the kill switch is on, a placement is stopped by one of its own checks. -/
def QuietStep (config : EngineConfig) (before : Engine) (entry : Entry) (after : Engine) : Prop :=
  EngineStep config before entry after ∧
    (before.failures.killSwitchTriggered = true → ∀ env request, entry.1 = .place env request →
      ¬PassesChecks config env request before)

theorem EngineStep.latch {config : EngineConfig} {before after : Engine} {entry : Entry}
    (stepped : EngineStep config before entry after) (kept : entry.1 ≠ .reset)
    (triggered : before.failures.killSwitchTriggered = true) :
    after.failures.killSwitchTriggered = true := by
  obtain ⟨move, attempts⟩ := entry
  have made := Option.some.inj stepped
  cases move with
  | place env request =>
      obtain ⟨rfl, rfl⟩ := Prod.mk.inj made
      exact placeOrder_continues.latch triggered
  | fail failure now =>
      cases made
      exact registerFailure_latches config.failure failure now triggered
  | retry operation clock =>
      cases made
      exact retryLoop_latches config.failure operation clock _ 0 triggered
  | reset => exact absurd rfl kept
  | orders call =>
      cases made
      exact triggered

/-- In every run from a state where the kill switch is on whose placements meanwhile are all
stopped by their own checks: until a reset, the switch stays on and the broker function is
not called. -/
theorem kill_switch_latches {config : EngineConfig} {entries : List Entry}
    {triggered finish : Engine} (on : triggered.failures.killSwitchTriggered = true)
    (run : Run (QuietStep config) triggered entries finish)
    (noReset : ∀ entry ∈ entries, entry.1 ≠ .reset) :
    finish.failures.killSwitchTriggered = true ∧ ∀ entry ∈ entries, entry.2 = [] := by
  induction run with
  | nil => exact ⟨on, fun _ impossible => nomatch impossible⟩
  | @snoc earlier before after entry run stepped ih =>
      obtain ⟨still, quiet⟩ := ih fun other member =>
        noReset other (List.mem_append_left _ member)
      obtain ⟨made, stops⟩ := stepped
      have kept := noReset entry (List.mem_append_right _ List.mem_cons_self)
      refine ⟨EngineStep.latch made kept still, fun other member => ?_⟩
      rcases List.mem_append.mp member with before | last
      · exact quiet other before
      · rw [List.mem_singleton.mp last]
        obtain ⟨move, attempts⟩ := entry
        have answered := Option.some.inj made
        cases move with
        | place env request =>
            simp only [Engine.next, Prod.mk.injEq] at answered
            change attempts = []
            rw [← answered.1, attempts_eq_nil_iff]
            exact stops still env request rfl
        | fail => cases answered; rfl
        | retry => cases answered; rfl
        | reset => cases answered; rfl
        | orders => cases answered; rfl

def Engine.through (config : EngineConfig) (engine : Engine) (moves : List Move) : Engine :=
  moves.foldl (fun engine move => (engine.next config move).2) engine

/-- Two orders whose broker cannot be reached, with four failed attempts in a minute. -/
def outage : List Move :=
  [.place (calmAt 1) (buyRequest "s1" "NIFTY" unreachable),
    .place (calmAt 10) (buyRequest "s2" "SENSEX" unreachable)]

/-- After the outage, an order without a broker function is deferred. -/
theorem kill_switch_latches_deferred :
    let triggered := Engine.start.through plainConfig outage
    let deferred : Move := .place (calmAt 20) { buyRequest "s3" "BANKNIFTY" accepting with
      submitOrderFn := none }
    let answer := triggered.next plainConfig deferred
    triggered.failures.killSwitchTriggered = true ∧
      answer.2.failures.killSwitchTriggered = true ∧ answer.1 = [] := by
  intro triggered deferred answer
  have on : triggered.failures.killSwitchTriggered = true := by decide +kernel
  have stepped : QuietStep plainConfig triggered (deferred, answer.1) answer.2 := by
    refine ⟨rfl, fun _ env request same passes => ?_⟩
    have noBroker := passes.broker
    obtain ⟨rfl, rfl⟩ := Move.place.inj same
    cases noBroker
  obtain ⟨still, quiet⟩ := kill_switch_latches on (.snoc .nil stepped) fun entry member => by
    rw [List.mem_singleton.mp member]
    exact Move.noConfusion
  exact ⟨on, still, quiet _ List.mem_cons_self⟩

/-- After the outage, an order for another instrument goes to the broker all the same. -/
theorem submitted_after_kill_switch :
    let triggered := Engine.start.through plainConfig outage
    let answer := triggered.next plainConfig
      (.place (calmAt 20) (buyRequest "s3" "BANKNIFTY" accepting))
    triggered.failures.killSwitchTriggered = true ∧
      triggered.failures.killSwitchReason = some "NETWORK_FAILURE_WINDOW_EXCEEDED" ∧
      answer.1.length = 1 ∧ answer.1.countP Attempt.accepted = 1 := by
  decide +kernel

/-! ### Acceptances -/

/-- How many orders the broker has accepted for a key in one entry. -/
def acceptances (config : EngineConfig) (key : String) : Entry → ℕ
  | (.place _ request, attempts) =>
      if (buildIdempotencyKey config.digest request).toOption = some key then
        attempts.countP Attempt.accepted
      else 0
  | _ => 0

def AcceptsOnce (config : FailureConfig) (submit : ℕ → Attempt) (clock : ℕ → PyFloat)
    (failures : FailureState) : Prop :=
  ∀ first second, first < second → Due config submit clock failures second →
    (submit first).accepted = true → (submit second).accepted = false

def OnceStep (config : EngineConfig) (before : Engine) (entry : Entry) (after : Engine) : Prop :=
  EngineStep config before entry after ∧
    ∀ env request submit, entry.1 = .place env request → request.submitOrderFn = some submit →
      PassesChecks config env request before →
        AcceptsOnce config.failure submit env.failureClock before.failures

theorem countP_le_one {items : List ℕ} {holds : ℕ → Bool} (increasing : items.Pairwise (· < ·))
    (once : ∀ first ∈ items, ∀ second ∈ items, first < second → holds first = true →
      holds second = false) : items.countP holds ≤ 1 := by
  induction items with
  | nil => exact Nat.zero_le 1
  | cons head rest ih =>
      rw [List.pairwise_cons] at increasing
      have later := ih increasing.2 fun first member second other =>
        once first (List.mem_cons_of_mem _ member) second (List.mem_cons_of_mem _ other)
      cases here : holds head with
      | false =>
          rw [List.countP_cons_of_neg (by rw [here]; exact Bool.false_ne_true)]
          exact later
      | true =>
          have none : rest.countP holds = 0 := by
            rw [List.countP_eq_zero]
            intro second member accepts
            rw [once head List.mem_cons_self second (List.mem_cons_of_mem _ member)
              (increasing.1 second member) here] at accepts
            cases accepts
          rw [List.countP_cons_of_pos here, none]

theorem accepted_le_one_iff {config : EngineConfig} {env : Environment} {request : PlaceRequest}
    {engine : Engine} {sent : SentOrder}
    (reached : beforeSubmit config env request engine = .inr sent) :
    (placeOrder config env request engine).attempts.countP Attempt.accepted ≤ 1 ↔
      AcceptsOnce config.failure sent.submit env.failureClock engine.failures := by
  have spec := beforeSubmit_sent reached
  have made : (placeOrder config env request engine).attempts =
      (sent.submission config env).attempts := by
    unfold placeOrder
    rw [reached]
    exact submitOrder_attempts
  obtain ⟨last, attempts, due, ending⟩ := executeWithNetworkRetry_ends config.failure sent.submit
    env.failureClock sent.engine.failures
  change (sent.submission config env).attempts = _ at attempts
  rw [made, attempts, List.countP_map, ← spec.failures]
  constructor
  · intro few first second before dueSecond accepts
    by_contra again
    rw [Bool.not_eq_false] at again
    have within : second ≤ last := ending.final.le dueSecond
    have upTo : (List.range (second + 1)).countP (Attempt.accepted ∘ sent.submit) ≤ 1 :=
      ((List.range_sublist.mpr (Nat.succ_le_succ within)).countP_le).trans few
    have one : 0 < (List.range second).countP (Attempt.accepted ∘ sent.submit) :=
      List.countP_pos_iff.mpr ⟨first, List.mem_range.mpr before, accepts⟩
    have here : (Attempt.accepted ∘ sent.submit) second = true := again
    rw [List.range_succ, List.countP_append, List.countP_singleton, if_pos here] at upTo
    omega
  · intro once
    refine countP_le_one List.pairwise_lt_range fun first _ second member before accepts => ?_
    exact once first second before
      (due.earlier (Nat.lt_succ_iff.mp (List.mem_range.mp member))) accepts

def Stored (engine : Engine) (key : String) : Prop :=
  ∃ orderId row, engine.orders.orderStates.select orderId = some row ∧
    row.idempotencyKey = strip key

theorem Stored.continues {before after : Engine} {key : String} (stored : Stored before key)
    (continues : Continues before after) : Stored after key := by
  obtain ⟨orderId, row, selected, own⟩ := stored
  obtain ⟨later, found, same⟩ := continues.rows orderId row selected
  exact ⟨orderId, later, found, same.trans own⟩

theorem EngineStep.continues_rows {config : EngineConfig} {before after : Engine} {entry : Entry}
    (stepped : EngineStep config before entry after) {key : String} (stored : Stored before key) :
    Stored after key := by
  obtain ⟨move, attempts⟩ := entry
  have made := Option.some.inj stepped
  cases move with
  | place env request =>
      obtain ⟨rfl, rfl⟩ := Prod.mk.inj made
      exact stored.continues placeOrder_continues
  | fail failure now =>
      cases made
      exact stored
  | retry operation clock =>
      cases made
      exact stored
  | reset =>
      cases made
      exact stored
  | orders call =>
      cases made
      rcases step_cases (show Step before.orders (call, (perform before.orders call).1)
          (perform before.orders call).2 from rfl) with ⟨_, _, effect⟩ | ⟨_, _, same⟩
      · exact stored.continues (continues_of_effect effect)
      · change Stored { before with orders := (perform before.orders call).2 } key
        rw [same]
        exact stored

theorem sent_stores {config : EngineConfig} {env : Environment} {request : PlaceRequest}
    {engine : Engine} {sent : SentOrder}
    (reached : beforeSubmit config env request engine = .inr sent) :
    ¬Stored engine sent.idempotencyKey ∧
      Stored (placeOrder config env request engine).engine sent.idempotencyKey := by
  have spec := beforeSubmit_sent reached
  constructor
  · rintro ⟨orderId, row, selected, same⟩
    exact spec.fresh orderId row selected same
  · obtain ⟨row, selected, _, same⟩ := spec.row
    have stored : Stored sent.engine sent.idempotencyKey := ⟨_, row, selected, same⟩
    unfold placeOrder
    rw [reached]
    exact stored.continues (submitOrder_effects spec.client).continues

theorem acceptances_place {config : EngineConfig} {env : Environment} {request : PlaceRequest}
    {engine : Engine} (key : String)
    (once : ∀ submit, request.submitOrderFn = some submit → PassesChecks config env request engine →
      AcceptsOnce config.failure submit env.failureClock engine.failures) :
    let placing := placeOrder config env request engine
    acceptances config key (.place env request, placing.attempts) = 0 ∨
      acceptances config key (.place env request, placing.attempts) ≤ 1 ∧
        ¬Stored engine key ∧ Stored placing.engine key := by
  intro placing
  simp only [acceptances]
  by_cases own : (buildIdempotencyKey config.digest request).toOption = some key
  swap
  · rw [if_neg own]
    exact Or.inl rfl
  rw [if_pos own]
  by_cases passes : PassesChecks config env request engine
  swap
  · have none : placing.attempts = [] := attempts_eq_nil_iff.mpr passes
    rw [none]
    exact Or.inl rfl
  obtain ⟨sent, reached⟩ := beforeSubmit_reaches passes
  have spec := beforeSubmit_sent reached
  have sameKey : sent.idempotencyKey = key := by
    rw [spec.key] at own
    exact Option.some.inj own
  obtain ⟨fresh, stored⟩ := sent_stores reached
  rw [sameKey] at fresh stored
  exact Or.inr ⟨(accepted_le_one_iff reached).mpr (once sent.submit spec.submit passes), fresh,
    stored⟩

theorem acceptances_step {config : EngineConfig} {before after : Engine} {entry : Entry}
    (key : String) (stepped : OnceStep config before entry after) :
    acceptances config key entry = 0 ∨
      acceptances config key entry ≤ 1 ∧ ¬Stored before key ∧ Stored after key := by
  obtain ⟨made, once⟩ := stepped
  obtain ⟨move, attempts⟩ := entry
  have answered := Option.some.inj made
  cases move with
  | place env request =>
      obtain ⟨rfl, rfl⟩ := Prod.mk.inj answered
      exact acceptances_place key fun submit => once env request submit rfl
  | fail => exact Or.inl rfl
  | retry => exact Or.inl rfl
  | reset => exact Or.inl rfl
  | orders => exact Or.inl rfl

/-- In every run whose broker functions accept once, the broker accepts at most one order for
a key. -/
theorem one_acceptance_per_key {config : EngineConfig} {entries : List Entry} {engine : Engine}
    (run : Run (OnceStep config) .start entries engine) (key : String) :
    (entries.map (acceptances config key)).sum ≤ 1 := by
  have both := run.history_invariant
    (motive := fun entries engine => (entries.map (acceptances config key)).sum ≤ 1 ∧
      ((entries.map (acceptances config key)).sum = 0 ∨ Stored engine key)) ?_ ?_
  · exact both.1
  · exact ⟨Nat.zero_le 1, Or.inl rfl⟩
  · intro earlier before entry after accepted stepped
    obtain ⟨few, known⟩ := accepted
    rw [List.map_append, List.sum_append, List.map_singleton, List.sum_singleton]
    rcases acceptances_step key stepped with nothing | ⟨one, fresh, stored⟩
    · rw [nothing, Nat.add_zero]
      refine ⟨few, known.imp_right fun stored => EngineStep.continues_rows stepped.1 stored⟩
    · rcases known with nothing | stale
      · rw [nothing, Nat.zero_add]
        exact ⟨one, Or.inr stored⟩
      · exact absurd stale fresh

/-- The first attempt fails before the broker accepts, and the second is accepted. -/
def secondTry : ℕ → Attempt
  | 0 => .raises false ⟨"ConnectionError", false, "timed out"⟩
  | _ + 1 => .returns true (.dict [("status", .str "OPEN")])

def lostAnswer : ℕ → Attempt
  | 0 => .raises true ⟨"ConnectionError", false, "timed out"⟩
  | _ + 1 => .returns true (.dict [("status", .str "OPEN")])

theorem secondTry_acceptsOnce (config : FailureConfig) (clock : ℕ → PyFloat)
    (failures : FailureState) : AcceptsOnce config secondTry clock failures := by
  intro first second before due accepts
  have raised := (due.2 first before).1
  cases first with
  | zero => cases accepts
  | succ first => cases raised

/-- An order that is placed twice, and first accepted at the second attempt. -/
theorem one_acceptance_per_key_retried :
    let move : Move := .place (calmAt 1) (buyRequest "s1" "NIFTY" secondTry)
    let first := Engine.start.next plainConfig move
    let second := first.2.next plainConfig move
    acceptances plainConfig "hs1NIFTYBUY1" (move, first.1) = 1 ∧
      ([(move, first.1), (move, second.1)].map (acceptances plainConfig "hs1NIFTYBUY1")).sum ≤ 1 := by
  intro move first second
  have sound : ∀ before, OnceStep plainConfig before (move, (before.next plainConfig move).1)
      (before.next plainConfig move).2 := by
    intro before
    refine ⟨rfl, fun env request submit same given _ => ?_⟩
    obtain ⟨rfl, rfl⟩ := Move.place.inj same
    cases given
    exact secondTry_acceptsOnce _ _ _
  have run : Run (OnceStep plainConfig) .start [(move, first.1), (move, second.1)] second.2 :=
    .snoc (.snoc .nil (sound .start)) (sound first.2)
  exact ⟨by decide +kernel, one_acceptance_per_key run "hs1NIFTYBUY1"⟩

/-- A lost answer lets the broker accept two orders for one key in one placement. -/
theorem lost_answer_accepted_twice :
    let move : Move := .place (calmAt 1) (buyRequest "s1" "NIFTY" lostAnswer)
    let answer := Engine.start.next plainConfig move
    EngineStep plainConfig .start (move, answer.1) answer.2 ∧
      acceptances plainConfig "hs1NIFTYBUY1" (move, answer.1) = 2 := by
  exact ⟨rfl, by decide +kernel⟩

end Algotradify.Execution
