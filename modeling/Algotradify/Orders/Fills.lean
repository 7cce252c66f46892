/-
Fill quantities over runs of the order state machine.

The machine records the quantity that a call reports, whatever the order's own
quantity and the earlier reports are; a closed order may still get a report. What it
keeps is the order itself and, once closed, the way it was closed.
-/

import Algotradify.Orders.Effects

namespace Algotradify.Orders

open Py Sql Transition

variable {db after : Database} {orderId : String} {row : OrderRow}

/-! ### What a step does to a row -/

def Call.reported (call : Call) (orderId : String) : Option PyFloat :=
  match call.operation with
  | .create request => if strip request.orderId = orderId then request.filledQty else none
  | .transition request => if strip request.orderId = orderId then request.filledQty else none
  | .setFilled request => if strip request.orderId = orderId then some request.filledQty else none

/-- A closed order keeps everything but its fill quantity and its update time. -/
structure Frozen (current later : OrderRow) : Prop extends SameOrder current later where
  state : later.state = current.state
  brokerOrderId : later.brokerOrderId = current.brokerOrderId
  avgFillPrice : later.avgFillPrice = current.avgFillPrice

structure Keeps (current later : OrderRow) : Prop where
  same : SameOrder current later
  frozen : current.state ∈ terminalStates → Frozen current later

theorem SameOrder.refl (row : OrderRow) : SameOrder row row :=
  ⟨rfl, rfl, rfl, rfl, rfl⟩

theorem SameOrder.trans {first second third : OrderRow} (left : SameOrder first second)
    (right : SameOrder second third) : SameOrder first third :=
  ⟨right.idempotencyKey.trans left.idempotencyKey, right.instrument.trans left.instrument,
    right.side.trans left.side, right.quantity.trans left.quantity,
    right.createdAt.trans left.createdAt⟩

theorem Keeps.refl (row : OrderRow) : Keeps row row :=
  ⟨.refl row, fun _ => ⟨.refl row, rfl, rfl, rfl⟩⟩

theorem Keeps.trans {first second third : OrderRow} (left : Keeps first second)
    (right : Keeps second third) : Keeps first third := by
  refine ⟨left.same.trans right.same, ?_⟩
  intro closed
  have before := left.frozen closed
  have after := right.frozen (by rw [before.state]; exact closed)
  exact ⟨left.same.trans right.same, after.state.trans before.state,
    after.brokerOrderId.trans before.brokerOrderId, after.avgFillPrice.trans before.avgFillPrice⟩

theorem not_terminal_of_allowed {state next : OrderState} (allowed : next ∈ validTransitions state) :
    state ∉ terminalStates := by
  intro closed
  cases state <;> simp_all [validTransitions, terminalStates]

theorem clampQuantity_nonneg {quantity : PyFloat} (number : clampQuantity quantity ≠ .nan) :
    (PyFloat.finite 0).le (clampQuantity quantity) = true := by
  unfold clampQuantity at number ⊢
  split
  · exact (PyFloat.finite_le 0 0).mpr (le_refl 0)
  · rename_i notNegative
    rw [if_neg notNegative] at number
    exact PyFloat.le_of_not_lt PyFloat.noConfusion number notNegative

theorem clampQuantity_of_nonneg {quantity : PyFloat}
    (nonneg : (PyFloat.finite 0).le quantity = true) : clampQuantity quantity = quantity := by
  unfold clampQuantity
  rw [PyFloat.not_lt_of_le nonneg]
  rfl

theorem reported_transition (context : CallContext) (request : TransitionRequest) :
    Call.reported ⟨context, .transition request⟩ (strip request.orderId) = request.filledQty :=
  if_pos rfl

theorem reported_setFilled (context : CallContext) (request : FillRequest) :
    Call.reported ⟨context, .setFilled request⟩ (strip request.orderId) = some request.filledQty :=
  if_pos rfl

def NonNegativeFills (db : Database) : Prop :=
  ∀ orderId row, db.orderStates.select orderId = some row →
    (PyFloat.finite 0).le row.filledQty.value = true

structure RowStep (call : Call) (orderId : String) (row later : OrderRow) : Prop where
  keeps : Keeps row later
  fill : later.filledQty = row.filledQty ∨ ∃ quantity, call.reported orderId = some quantity ∧
    later.filledQty.value = clampQuantity quantity

theorem RowStep.refl (call : Call) (orderId : String) (row : OrderRow) :
    RowStep call orderId row row :=
  ⟨.refl row, .inl rfl⟩

theorem step_keeps {entry : Entry} (nonNegative : NonNegativeFills db)
    (stepped : Step db entry after) (stored : db.orderStates.select orderId = some row) :
    ∃ later, after.orderStates.select orderId = some later ∧
      RowStep entry.1 orderId row later := by
  rcases step_cases stepped with ⟨reply, _returned, effect⟩ | ⟨raised, _raised, rfl⟩
  swap
  · exact ⟨row, stored, .refl _ _ _⟩
  obtain ⟨⟨context, operation⟩, outcome⟩ := entry
  cases effect with
  | found _selected _sameKey _noConflict => exact ⟨row, stored, .refl _ _ _⟩
  | unchanged _selected _same => exact ⟨row, stored, .refl _ _ _⟩
  | @created request written made freshId freshKey =>
      have elsewhere : orderId ≠ strip request.orderId := by
        rintro rfl
        rw [stored] at freshId
        cases freshId
      exact ⟨row, (Table.select_put_of_ne _ _ elsewhere).trans stored, .refl _ _ _⟩
  | @moved request next current written _asked selected allowed made =>
      by_cases here : orderId = strip request.orderId
      · subst here
        cases stored.symm.trans selected
        obtain ⟨same, _state, filled⟩ := transitionRow made
        refine ⟨written, Table.select_put_self _ _ _, ⟨same, ?_⟩, ?_⟩
        · intro closed
          exact absurd closed (not_terminal_of_allowed allowed)
        · unfold TransitionRequest.quantity at filled
          have reported := reported_transition context request
          cases given : request.filledQty with
          | none =>
              rw [given, Option.getD_none,
                clampQuantity_of_nonneg (nonNegative _ _ selected)] at filled
              exact .inl (SqlReal.eq_of_value filled)
          | some quantity =>
              rw [given] at filled reported
              exact .inr ⟨quantity, reported, filled⟩
      · exact ⟨row, (Table.select_put_of_ne _ _ here).trans stored, .refl _ _ _⟩
  | @filled request current written selected _different made =>
      by_cases here : orderId = strip request.orderId
      · subst here
        cases stored.symm.trans selected
        obtain ⟨same, state, broker, price, filled⟩ := fillRow made
        refine ⟨written, Table.select_put_self _ _ _, ⟨same, ?_⟩, ?_⟩
        · intro _closed
          exact ⟨same, state, broker, price⟩
        · exact .inr ⟨request.filledQty, reported_setFilled context request, filled⟩
      · exact ⟨row, (Table.select_put_of_ne _ _ here).trans stored, .refl _ _ _⟩

/-! ### Fills stay at or above zero -/

theorem NonNegativeFills.put {event : EventRow} (nonNegative : NonNegativeFills db)
    (own : ∃ quantity, row.filledQty.value = clampQuantity quantity) :
    NonNegativeFills (db.write orderId row event) := by
  intro other stored selected
  change (db.orderStates.put orderId row).select other = _ at selected
  rw [Table.select_put] at selected
  split at selected
  · cases selected
    obtain ⟨quantity, clamped⟩ := own
    have number := row.filledQty.isNumber
    rw [clamped] at number ⊢
    exact clampQuantity_nonneg number
  · exact nonNegative other stored selected

theorem step_nonNegative {entry : Entry} (nonNegative : NonNegativeFills db)
    (stepped : Step db entry after) : NonNegativeFills after := by
  rcases step_cases stepped with ⟨reply, _returned, effect⟩ | ⟨raised, _raised, rfl⟩
  swap
  · exact nonNegative
  obtain ⟨⟨context, operation⟩, outcome⟩ := entry
  cases effect with
  | found _selected _sameKey _noConflict => exact nonNegative
  | unchanged _selected _same => exact nonNegative
  | created made _freshId _freshKey => exact nonNegative.put ⟨_, (createRow made).2.2⟩
  | moved _asked _selected _allowed made => exact nonNegative.put ⟨_, (transitionRow made).2.2⟩
  | filled _selected _different made => exact nonNegative.put ⟨_, (fillRow made).2.2.2.2⟩

theorem run_nonNegative {entries : List Entry} (run : Run Step Database.empty entries db) :
    NonNegativeFills db := by
  refine run.invariant ?_ fun _ _ _ => step_nonNegative
  intro orderId row selected
  cases selected

/-! ### Whole runs -/

theorem run_keeps {entries : List Entry} {before : Database} (run : Run Step before entries after)
    (nonNegative : NonNegativeFills before) (stored : before.orderStates.select orderId = some row) :
    ∃ later, after.orderStates.select orderId = some later ∧ Keeps row later := by
  induction run with
  | nil => exact ⟨row, stored, .refl row⟩
  | @snoc labels middle after entry run stepped ih =>
      obtain ⟨reached, selected, keeps⟩ := ih
      have fills := run.invariant nonNegative fun _ _ _ => step_nonNegative
      obtain ⟨later, found, moved⟩ := step_keeps fills stepped selected
      exact ⟨later, found, keeps.trans moved.keeps⟩

/-- Over every run fill quantities are never negative and change only to what a call
reports; an order keeps what identifies it, and a closed one also how it was closed. -/
theorem fills_follow_reports {entries : List Entry} {db : Database}
    (run : Run Step Database.empty entries db) :
    NonNegativeFills db ∧
    (∀ earlier entry later before after orderId row, entries = earlier ++ entry :: later →
      Run Step Database.empty earlier before → Step before entry after →
      before.orderStates.select orderId = some row →
      ∃ next, after.orderStates.select orderId = some next ∧ RowStep entry.1 orderId row next) ∧
    ∀ earlier later before orderId row, entries = earlier ++ later →
      Run Step Database.empty earlier before → before.orderStates.select orderId = some row →
      ∃ last, db.orderStates.select orderId = some last ∧ Keeps row last := by
  refine ⟨run_nonNegative run, ?_, ?_⟩
  · intro earlier entry later before after orderId row _cut initial stepped stored
    exact step_keeps (run_nonNegative initial) stepped stored
  · intro earlier later before orderId row cut initial stored
    obtain ⟨middle, sameInitial, rest⟩ := run.split cut
    cases run_unique initial sameInitial
    exact run_keeps rest (run_nonNegative initial) stored

private def fillClock (epoch : ℚ) : CallContext :=
  ⟨.finite epoch, none⟩

private def reportedFills : List Call :=
  [⟨fillClock 1, .create { orderId := "o1", idempotencyKey := "k1", quantity := some (.finite 10) }⟩,
    ⟨fillClock 2, .transition { orderId := "o1", nextState := "SENT" }⟩,
    ⟨fillClock 3, .setFilled { orderId := "o1", filledQty := .finite 25 }⟩,
    ⟨fillClock 4, .setFilled { orderId := "o1", filledQty := .finite 5 }⟩,
    ⟨fillClock 5, .transition { orderId := "o1", nextState := "FILLED" }⟩,
    ⟨fillClock 6, .setFilled { orderId := "o1", filledQty := .finite 7 }⟩]

private def recordedFills (calls : List Call) : Option (List (OrderState × PyFloat)) :=
  (trace (fun db call => some (perform db call)) Database.empty calls).map fun result =>
    result.2.orderStates.map fun entry => (entry.2.state, entry.2.filledQty.value)

/-- An order of ten is reported filled with twenty five, then with five, counts as
filled with five, and its closed record then changes to seven. -/
theorem fills_unbounded :
    recordedFills (reportedFills.take 3) = some [(.sent, .finite 25)] ∧
    recordedFills (reportedFills.take 4) = some [(.sent, .finite 5)] ∧
    recordedFills (reportedFills.take 5) = some [(.filled, .finite 5)] ∧
    recordedFills reportedFills = some [(.filled, .finite 7)] := by
  decide +kernel

/-- The same calls keep the order itself and never report below zero. -/
theorem fills_follow_reports_closed :
    ∃ entries db, Run Step Database.empty entries db ∧ entries.length = 6 ∧
      NonNegativeFills db := by
  have traced : (trace (fun db call => some (perform db call)) Database.empty reportedFills).map
      (fun result => result.1.length) = some 6 := by
    decide
  obtain ⟨⟨entries, db⟩, ran, counted⟩ := Option.map_eq_some_iff.mp traced
  have run := run_of_trace ran
  exact ⟨entries, db, run, counted, (fills_follow_reports run).1⟩

end Algotradify.Orders
