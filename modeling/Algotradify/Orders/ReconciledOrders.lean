/-
What the reconciliation of one order does: it moves the order along legal transitions to
the state and the fill of its broker row, it touches no other order, and an order it has
moved is left alone by every later pass over the same snapshot.
-/

import Mathlib.Tactic.NormNum
import Algotradify.Orders.Reconciliation
import Algotradify.Orders.EventLog

namespace Algotradify.Orders.Reconciliation

open Py Sql Transition

variable {target : OrderState} {path : List OrderState} {operation : Operation}

/-! ### Paths -/

/-- The search finds the direct transition, or the one through `SENT` from a new order. -/
theorem findTransitionPath_eq (current target : OrderState) :
    findTransitionPath current target =
      if current = target then .ok []
      else if target ∈ validTransitions current then .ok [target]
      else if current = .new ∧ target ∈ validTransitions .sent then .ok [.sent, target]
      else .error (.transitionError current target) := by
  cases current <;> cases target <;> rfl

def LegalPath : OrderState → List OrderState → Prop
  | _, [] => True
  | state, next :: rest => next ∈ validTransitions state ∧ LegalPath next rest

theorem legalPath_of_found {current : OrderState} (different : current ≠ target)
    (found : findTransitionPath current target = .ok path) :
    LegalPath current path ∧ path.getLast? = some target := by
  rw [findTransitionPath_eq, if_neg different] at found
  split at found
  · next direct =>
    cases found
    exact ⟨⟨direct, trivial⟩, rfl⟩
  split at found
  · next through =>
    cases found
    obtain ⟨rfl, second⟩ := through
    exact ⟨⟨by decide, second, trivial⟩, rfl⟩
  · cases found

theorem rejected_reachable {state : OrderState} (isOpen : state ∉ terminalStates) :
    findTransitionPath state .rejected = .ok [.rejected] := by
  cases state with
  | new => rfl
  | sent => rfl
  | acknowledged => rfl
  | partiallyFilled => rfl
  | filled => exact absurd (by decide) isOpen
  | rejected => exact absurd (by decide) isOpen
  | cancelled => exact absurd (by decide) isOpen
  | expired => exact absurd (by decide) isOpen

theorem coerceState_value (state : OrderState) : coerceState state.value = .ok state := by
  cases state <;> rfl

/-! ### Calls -/

def Healthy (context : CallContext) : Prop :=
  context.failure = none ∧ context.clock ≠ .nan

structure Touched (orderId : String) (before after : Database) : Prop where
  run : ∃ entries, Run Step before entries after
  others : ∀ other, other ≠ orderId →
    after.orderStates.select other = before.orderStates.select other

theorem Touched.refl (orderId : String) (db : Database) : Touched orderId db db :=
  ⟨⟨[], .nil⟩, fun _ _ => rfl⟩

theorem Touched.trans {orderId : String} {first second third : Database}
    (left : Touched orderId first second) (right : Touched orderId second third) :
    Touched orderId first third := by
  obtain ⟨entries, run⟩ := left.run
  obtain ⟨later, rest⟩ := right.run
  refine ⟨⟨entries ++ later, run.append rest⟩, fun other different => ?_⟩
  rw [right.others other different, left.others other different]

/-- The order is stored under its own id, with a fill that is not negative. -/
structure Reads (db : Database) (orderId : String) (row : OrderRow) : Prop where
  selected : db.orderStates.select orderId = some row
  stripped : strip orderId = orderId
  nonNegative : (PyFloat.finite 0).le row.filledQty.value = true

section Calls

variable {contexts : ℕ → CallContext} {session after : Session} {orderId : String}
variable {row : OrderRow} {record : OrderRecord}

theorem call_cases {outcome : Except OrderError OrderRecord}
    (called : session.call contexts operation = (outcome, after)) :
    after.errors = session.errors ∧
      (∃ entry, Step session.db entry after.db) ∧
      ((∃ record flag, outcome = .ok record ∧
          Effect (contexts session.calls) session.db operation (record, flag) after.db) ∨
        ∃ raised, outcome = .error raised ∧ after.db = session.db ∧
          operation.run (contexts session.calls) session.db = .error raised) := by
  cases called
  refine ⟨rfl, ⟨(⟨contexts session.calls, operation⟩,
    (perform session.db ⟨contexts session.calls, operation⟩).1), rfl⟩, ?_⟩
  unfold perform
  cases ran : operation.run (contexts session.calls) session.db with
  | ok result =>
      obtain ⟨⟨record, flag⟩, left⟩ := result
      exact Or.inl ⟨record, flag, rfl, run_effect ran⟩
  | error raised => exact Or.inr ⟨raised, rfl, rfl, rfl⟩

theorem call_transition_ok {request : TransitionRequest} {next : OrderState}
    (reads : Reads session.db orderId row) (own : request.orderId = orderId)
    (asked : request.nextState = next.value)
    (nonNegative : ∀ quantity, request.filledQty = some quantity →
      (PyFloat.finite 0).le quantity = true)
    (called : session.call contexts (.transition request) = (.ok record, after)) :
    ∃ written, Reads after.db orderId written ∧ record = rowToRecord orderId written ∧
      written.state = next ∧
      written.brokerOrderId = request.brokerOrderId.or row.brokerOrderId ∧
      written.filledQty.value = request.filledQty.getD row.filledQty.value ∧
      Touched orderId session.db after.db ∧ after.errors = session.errors := by
  obtain ⟨errors, ⟨entry, stepped⟩, left⟩ := call_cases called
  obtain ⟨_, flag, same, effect⟩ | ⟨raised, impossible, _⟩ := left
  swap
  · cases impossible
  cases same
  have stripped : strip request.orderId = orderId := by rw [own, reads.stripped]
  have fill : clampQuantity (request.filledQty.getD row.filledQty.value) =
      request.filledQty.getD row.filledQty.value := by
    apply clampQuantity_of_nonneg
    cases given : request.filledQty with
    | none => exact reads.nonNegative
    | some quantity => exact nonNegative quantity given
  generalize left : after.db = leftDb at effect stepped ⊢
  cases effect with
  | @moved _ found current written coerced selected allowed made =>
      rw [stripped] at selected
      cases reads.selected.symm.trans selected
      rw [asked, coerceState_value] at coerced
      cases coerced
      have broker : written.brokerOrderId = request.brokerOrderId.or row.brokerOrderId := by
        obtain ⟨_, _, made⟩ := bind_eq_ok.mp made
        obtain ⟨_, _, made⟩ := bind_eq_ok.mp made
        cases made
        rfl
      obtain ⟨_, state, quantity⟩ := transitionRow made
      change written.filledQty.value =
        clampQuantity (request.filledQty.getD row.filledQty.value) at quantity
      rw [stripped] at stepped ⊢
      refine ⟨written, ⟨Table.select_put_self _ _ _, reads.stripped, ?_⟩, rfl, state, broker,
        quantity.trans fill, ⟨⟨_, .snoc .nil stepped⟩, ?_⟩, errors⟩
      · rw [quantity]
        apply clampQuantity_nonneg
        rw [← quantity]
        exact written.filledQty.isNumber
      · intro other different
        exact Table.select_put_of_ne _ _ different

theorem call_transition_returns {request : TransitionRequest} {next : OrderState}
    (reads : Reads session.db orderId row) (present : orderId ≠ "")
    (own : request.orderId = orderId) (asked : request.nextState = next.value)
    (noTime : request.nowEpoch = none) (legal : next ∈ validTransitions row.state)
    (nonNegative : ∀ quantity, request.filledQty = some quantity →
      (PyFloat.finite 0).le quantity = true)
    (healthy : Healthy (contexts session.calls)) :
    ∃ record after, session.call contexts (.transition request) = (.ok record, after) := by
  have quantityNumber : request.quantity row ≠ .nan := by
    unfold TransitionRequest.quantity
    cases given : request.filledQty with
    | none =>
        rw [Option.getD_none, clampQuantity_of_nonneg reads.nonNegative]
        exact row.filledQty.isNumber
    | some quantity =>
        rw [Option.getD_some, clampQuantity_of_nonneg (nonNegative quantity given)]
        intro isNan
        have atLeast := nonNegative quantity given
        rw [isNan] at atLeast
        exact Bool.noConfusion atLeast
  obtain ⟨time, boundTime, _⟩ := SqlReal.exists_bind healthy.2
  obtain ⟨fill, boundFill, _⟩ := SqlReal.exists_bind quantityNumber
  have ran : ∃ result,
      Orders.transition (contexts session.calls) request session.db = .ok result := by
    unfold Orders.transition
    simp only [own, reads.stripped, if_neg present, asked, coerceState_value, beginImmediate,
      healthy.1, reads.selected]
    refine exists_ok_bind rfl ?_
    refine exists_ok_bind rfl ?_
    have valid : validateTransition row.state next = .ok () := by
      unfold validateTransition isTransitionValid
      rw [if_pos (List.contains_iff_mem.mpr legal)]
    refine exists_ok_bind valid ?_
    have made : ∃ written, request.row (contexts session.calls) next row = .ok written := by
      unfold TransitionRequest.row requireReal
      rw [noTime, Option.getD_none, boundTime, boundFill]
      exact ⟨_, rfl⟩
    obtain ⟨written, made⟩ := made
    refine exists_ok_bind made ?_
    exact ⟨_, writeOrder_eq _ _ reads.selected⟩
  obtain ⟨result, ran⟩ := ran
  unfold Session.call perform Operation.run
  simp only [ran, Except.map]
  exact ⟨_, _, rfl⟩

theorem call_setFilled_ok {request : FillRequest} (reads : Reads session.db orderId row)
    (own : request.orderId = orderId)
    (nonNegative : (PyFloat.finite 0).le request.filledQty = true)
    (different : differs row.filledQty.value request.filledQty = true)
    (called : session.call contexts (.setFilled request) = (.ok record, after)) :
    ∃ written, Reads after.db orderId written ∧ record = rowToRecord orderId written ∧
      written.state = row.state ∧ written.brokerOrderId = row.brokerOrderId ∧
      written.filledQty.value = request.filledQty ∧
      Touched orderId session.db after.db ∧ after.errors = session.errors := by
  obtain ⟨errors, ⟨entry, stepped⟩, left⟩ := call_cases called
  obtain ⟨_, flag, same, effect⟩ | ⟨raised, impossible, _⟩ := left
  swap
  · cases impossible
  cases same
  have stripped : strip request.orderId = orderId := by rw [own, reads.stripped]
  have clamped := clampQuantity_of_nonneg nonNegative
  generalize left : after.db = leftDb at effect stepped ⊢
  cases effect with
  | @unchanged _ current selected near =>
      rw [stripped] at selected
      cases reads.selected.symm.trans selected
      unfold sameQuantity at near
      unfold differs at different
      rw [clamped, PyFloat.not_lt_of_le (PyFloat.le_of_lt different)] at near
      cases near
  | @filled _ current written selected _ made =>
      rw [stripped] at selected
      cases reads.selected.symm.trans selected
      obtain ⟨_, state, broker, _, quantity⟩ := fillRow made
      rw [clamped] at quantity
      rw [stripped] at stepped ⊢
      refine ⟨written, ⟨Table.select_put_self _ _ _, reads.stripped, ?_⟩, rfl, state, broker,
        quantity, ⟨⟨_, .snoc .nil stepped⟩, ?_⟩, errors⟩
      · rw [quantity]
        exact nonNegative
      · intro other different
        exact Table.select_put_of_ne _ _ different

theorem call_setFilled_returns {request : FillRequest} (reads : Reads session.db orderId row)
    (present : orderId ≠ "") (own : request.orderId = orderId)
    (noTime : request.nowEpoch = none)
    (nonNegative : (PyFloat.finite 0).le request.filledQty = true)
    (healthy : Healthy (contexts session.calls)) :
    ∃ record after, session.call contexts (.setFilled request) = (.ok record, after) := by
  have clamped := clampQuantity_of_nonneg nonNegative
  have number : clampQuantity request.filledQty ≠ .nan := by
    rw [clamped]
    intro isNan
    rw [isNan] at nonNegative
    exact Bool.noConfusion nonNegative
  obtain ⟨time, boundTime, _⟩ := SqlReal.exists_bind healthy.2
  obtain ⟨fill, boundFill, _⟩ := SqlReal.exists_bind number
  have ran : ∃ result,
      setFilledQuantity (contexts session.calls) request session.db = .ok result := by
    unfold setFilledQuantity
    simp only [own, reads.stripped, if_neg present, beginImmediate, healthy.1, reads.selected]
    refine exists_ok_bind rfl ?_
    split
    · exact ⟨_, rfl⟩
    · have made : request.row (contexts session.calls) row =
          .ok { row with filledQty := fill, updatedAt := time } := by
        unfold FillRequest.row requireReal
        rw [noTime, Option.getD_none, boundTime, boundFill]
        rfl
      refine exists_ok_bind made ?_
      exact ⟨_, writeOrder_eq _ _ reads.selected⟩
  obtain ⟨result, ran⟩ := ran
  unfold Session.call perform Operation.run
  simp only [ran, Except.map]
  exact ⟨_, _, rfl⟩

theorem call_error {raised : OrderError}
    (called : session.call contexts operation = (.error raised, after)) :
    after.db = session.db ∧ after.errors = session.errors := by
  obtain ⟨errors, _, left⟩ := call_cases called
  obtain ⟨_, _, impossible, _⟩ | ⟨_, _, same, _⟩ := left
  · cases impossible
  · exact ⟨same, errors⟩

end Calls

/-! ### Moves -/

/-- What the moves of one order leave: the order as it reads now, and everything else. -/
structure Moved (orderId : String) (before after : Session) (written : OrderRow) : Prop where
  reads : Reads after.db orderId written
  touched : Touched orderId before.db after.db
  errors : after.errors = before.errors

theorem Moved.trans {orderId : String} {first second third : Session} {middle written : OrderRow}
    (left : Moved orderId first second middle) (right : Moved orderId second third written) :
    Moved orderId first third written :=
  ⟨right.reads, left.touched.trans right.touched, right.errors.trans left.errors⟩

def Failed (orderId : String) (before after : Session) : Prop :=
  ∃ written, Moved orderId before after written

section Moves

variable {contexts : ℕ → CallContext} {session after : Session} {orderId reason : String}
variable {row : OrderRow} {record : OrderRecord} {broker : Option String}
variable {fill : Option PyFloat}

theorem Moved.refl (reads : Reads session.db orderId row) : Moved orderId session session row :=
  ⟨reads, .refl orderId session.db, rfl⟩

theorem Failed.of_call {raised : OrderError} (reads : Reads session.db orderId row)
    (called : session.call contexts operation = (.error raised, after)) :
    Failed orderId session after := by
  obtain ⟨same, errors⟩ := call_error called
  refine ⟨row, ⟨?_, ?_, errors⟩⟩
  · rw [same]
    exact reads
  · rw [same]
    exact .refl orderId session.db

theorem followPath_ok (reads : Reads session.db orderId row) (last : path.getLast? = some target)
    (nonNegative : ∀ quantity, fill = some quantity → (PyFloat.finite 0).le quantity = true)
    (followed : followPath contexts reason broker fill path (rowToRecord orderId row) session =
      (.ok record, after)) :
    ∃ written, Moved orderId session after written ∧ record = rowToRecord orderId written ∧
      written.state = target ∧ written.brokerOrderId = broker.or row.brokerOrderId ∧
      written.filledQty.value = fill.getD row.filledQty.value := by
  induction path generalizing session row with
  | nil => cases last
  | cons step rest ih =>
      cases rest with
      | nil =>
          cases last
          obtain ⟨written, left, same, state, own, quantity, touched, errors⟩ :=
            call_transition_ok reads rfl rfl nonNegative followed
          exact ⟨written, ⟨left, touched, errors⟩, same, state, own, quantity⟩
      | cons second rest =>
          rw [List.getLast?_cons_cons] at last
          unfold followPath at followed
          split at followed
          · next _ next middle called =>
            obtain ⟨between, left, same, _, own, quantity, touched, errors⟩ :=
              call_transition_ok reads rfl rfl (by intro _ impossible; cases impossible) called
            subst same
            obtain ⟨written, moved, same, state, ownLast, quantityLast⟩ := ih left last followed
            refine ⟨written, .trans ⟨left, touched, errors⟩ moved, same, state, ?_, ?_⟩
            · rw [ownLast, own, Option.none_or]
            · rw [quantityLast, quantity, Option.getD_none]
          · cases followed

theorem followPath_error {raised : OrderError} (reads : Reads session.db orderId row)
    (followed : followPath contexts reason broker fill path (rowToRecord orderId row) session =
      (.error raised, after)) : Failed orderId session after := by
  induction path generalizing session row with
  | nil => cases followed
  | cons step rest ih =>
      cases rest with
      | nil => exact .of_call reads followed
      | cons second rest =>
          unfold followPath at followed
          split at followed
          · next _ next middle called =>
            obtain ⟨between, left, same, _, _, _, touched, errors⟩ :=
              call_transition_ok reads rfl rfl (by intro _ impossible; cases impossible) called
            subst same
            obtain ⟨written, moved⟩ := ih left followed
            exact ⟨written, .trans ⟨left, touched, errors⟩ moved⟩
          · next _ own middle called =>
            cases followed
            exact .of_call reads called

theorem followPath_returns (reads : Reads session.db orderId row) (present : orderId ≠ "")
    (legal : LegalPath row.state path)
    (nonNegative : ∀ quantity, fill = some quantity → (PyFloat.finite 0).le quantity = true)
    (healthy : ∀ index, Healthy (contexts index)) :
    ∃ record after, followPath contexts reason broker fill path (rowToRecord orderId row)
      session = (.ok record, after) := by
  induction path generalizing session row with
  | nil => exact ⟨_, _, rfl⟩
  | cons step rest ih =>
      cases rest with
      | nil =>
          exact call_transition_returns reads present rfl rfl rfl legal.1 nonNegative (healthy _)
      | cons second rest =>
          obtain ⟨next, middle, called⟩ := @call_transition_returns contexts session orderId row
            { orderId := orderId
              nextState := step.value
              reason := some (reason ++ ":bridge_" ++ lower step.value) }
            step reads present rfl rfl rfl legal.1 (by intro _ impossible; cases impossible)
            (healthy _)
          obtain ⟨between, left, same, state, _⟩ :=
            call_transition_ok reads rfl rfl (by intro _ impossible; cases impossible) called
          subst same
          have onward : LegalPath between.state (second :: rest) := by
            rw [state]
            exact legal.2
          obtain ⟨record, after, followed⟩ := ih left onward
          refine ⟨record, after, ?_⟩
          unfold followPath
          have own : (rowToRecord orderId row).orderId = orderId := rfl
          simp only [own, called]
          exact followed

/-- The order is at the target, with the fill that was given to within the tolerance. -/
structure Arrived (row written : OrderRow) (target : OrderState) (broker : Option String)
    (fill : Option PyFloat) : Prop where
  state : written.state = target
  broker : written.brokerOrderId = row.brokerOrderId ∨
    written.brokerOrderId = broker.or row.brokerOrderId
  filled : written.filledQty = row.filledQty ∨ ∃ quantity, fill = some quantity ∧
    written.filledQty.value = quantity
  moved : ∀ quantity, fill = some quantity → row.state ≠ target →
    written.filledQty.value = quantity

theorem moveToState_ok (reads : Reads session.db orderId row)
    (nonNegative : ∀ quantity, fill = some quantity → (PyFloat.finite 0).le quantity = true)
    (moved : moveToState contexts (rowToRecord orderId row) target reason broker fill session =
      (.ok record, after)) :
    ∃ written, Moved orderId session after written ∧ record = rowToRecord orderId written ∧
      Arrived row written target broker fill := by
  unfold moveToState at moved
  split at moved
  · next already =>
    change row.state = target at already
    split at moved
    · next quantity =>
      split at moved
      · next different =>
        obtain ⟨written, left, same, state, own, filled, touched, errors⟩ :=
          call_setFilled_ok reads rfl (nonNegative quantity rfl) (by exact different) moved
        refine ⟨written, ⟨left, touched, errors⟩, same, state.trans already, Or.inl own,
          Or.inr ⟨quantity, rfl, filled⟩, ?_⟩
        intro _ _ elsewhere
        exact absurd already elsewhere
      · cases moved
        refine ⟨row, .refl reads, rfl, already, Or.inl rfl, Or.inl rfl, ?_⟩
        intro _ _ elsewhere
        exact absurd already elsewhere
    · cases moved
      refine ⟨row, .refl reads, rfl, already, Or.inl rfl, Or.inl rfl, ?_⟩
      intro _ _ elsewhere
      exact absurd already elsewhere
  · next elsewhere =>
    split at moved
    · cases moved
    · next path found =>
      obtain ⟨_, last⟩ := legalPath_of_found elsewhere found
      obtain ⟨written, left, same, state, own, filled⟩ :=
        followPath_ok reads last nonNegative moved
      refine ⟨written, left, same, state, Or.inr own, ?_, ?_⟩
      · cases given : fill with
        | none =>
            rw [given] at filled
            exact Or.inl (SqlReal.eq_of_value filled)
        | some quantity =>
            rw [given] at filled
            exact Or.inr ⟨quantity, rfl, filled⟩
      · intro quantity given _
        rw [given] at filled
        exact filled

theorem moveToState_error {raised : OrderError} (reads : Reads session.db orderId row)
    (present : orderId ≠ "")
    (nonNegative : ∀ quantity, fill = some quantity → (PyFloat.finite 0).le quantity = true)
    (moved : moveToState contexts (rowToRecord orderId row) target reason broker fill session =
      (.error raised, after)) :
    Failed orderId session after ∧ ((∀ index, Healthy (contexts index)) →
      after = session ∧ row.state ≠ target ∧
        ∃ lacking, findTransitionPath row.state target = .error lacking) := by
  unfold moveToState at moved
  split at moved
  · split at moved
    · next quantity =>
      split at moved
      · refine ⟨.of_call reads moved, fun healthy => ?_⟩
        obtain ⟨_, _, called⟩ := @call_setFilled_returns contexts session orderId row
          { orderId := orderId
            filledQty := quantity
            reason := some (reason ++ ":fill_qty_sync") }
          reads present rfl rfl (nonNegative quantity rfl) (healthy _)
        cases called.symm.trans moved
      · cases moved
    · cases moved
  · next elsewhere =>
    split at moved
    · next _ missing =>
      cases moved
      exact ⟨⟨row, .refl reads⟩, fun _ => ⟨rfl, elsewhere, raised, missing⟩⟩
    · next path found =>
      refine ⟨followPath_error reads moved, fun healthy => ?_⟩
      obtain ⟨legal, _⟩ := legalPath_of_found elsewhere found
      obtain ⟨record, left, followed⟩ : ∃ record left, followPath contexts reason broker fill path
          (rowToRecord orderId row) session = (.ok record, left) :=
        followPath_returns reads present legal nonNegative healthy
      cases followed.symm.trans moved

end Moves

/-! ### Quantities of broker rows -/

theorem aboveZero_nonneg (value : PyFloat) :
    (PyFloat.finite 0).le (aboveZero value) = true := by
  unfold aboveZero
  split
  · next positive => exact PyFloat.le_of_lt positive
  · exact (PyFloat.finite_le 0 0).mpr (le_refl 0)

theorem brokerFilledQty_nonneg (orderRow : PyDict) :
    (PyFloat.finite 0).le (brokerFilledQty orderRow) = true := by
  unfold brokerFilledQty
  split
  · next quantity found =>
    obtain ⟨key, _, same⟩ := Option.map_eq_some_iff.mp found
    rw [← same]
    exact aboveZero_nonneg _
  · split
    · exact aboveZero_nonneg _
    · exact (PyFloat.finite_le 0 0).mpr (le_refl 0)

theorem differs_self (value : PyFloat) : differs value value = false := by
  cases value with
  | finite number =>
      unfold differs
      rw [PyFloat.finite_sub, sub_self]
      change decide ((1 / 1000000000 : ℚ) < |0|) = false
      rw [abs_zero]
      exact decide_eq_false (by norm_num)
  | nan => rfl
  | posInf => rfl
  | negInf => rfl

/-! ### One order -/

theorem Moved.corrected {orderId : String} {before after : Session} {written : OrderRow}
    (moved : Moved orderId before after written) : Moved orderId before after.corrected written :=
  ⟨moved.reads, moved.touched, moved.errors⟩

/-- The order has the state of its broker row, and its fill to within the tolerance; a move
to a state with a fill takes the fill as it is. -/
structure Synced (row written : OrderRow) (brokerRow : PyDict) : Prop where
  state : written.state = (targetStateFromBroker brokerRow).getD row.state
  broker : written.brokerOrderId = row.brokerOrderId ∨
    written.brokerOrderId = (blankToNone (brokerOrderId brokerRow)).or row.brokerOrderId
  filled : written.filledQty.value = brokerFilledQty brokerRow ∨
    (written.filledQty = row.filledQty ∧
      differs row.filledQty.value (brokerFilledQty brokerRow) = false)
  moved : ∀ target, targetStateFromBroker brokerRow = some target →
    target = .partiallyFilled ∨ target = .filled → row.state ≠ target →
      written.filledQty.value = brokerFilledQty brokerRow

def Settled (snapshot : Snapshot) (record : OrderRecord) : Prop :=
  match snapshot.rowFor record with
  | none =>
      record.state ∈ [.acknowledged, .partiallyFilled] ∧ snapshot.hasOpenPositions = true
  | some row =>
      match targetStateFromBroker row with
      | none => differs record.filledQty (brokerFilledQty row) = false
      | some target =>
          (record.state = target ∧ differs record.filledQty (brokerFilledQty row) = false) ∨
            (record.state ≠ target ∧
              ∃ raised, findTransitionPath record.state target = .error raised)

section Sync

variable {contexts : ℕ → CallContext} {session after : Session} {orderId : String}
variable {row : OrderRow} {record : OrderRecord} {brokerRow : PyDict} {raised : OrderError}

private theorem fill_nonneg (quantity : PyFloat)
    (given : (if target = .partiallyFilled ∨ target = .filled then
      some (brokerFilledQty brokerRow) else none) = some quantity) :
    (PyFloat.finite 0).le quantity = true := by
  split at given
  · cases given
    exact brokerFilledQty_nonneg brokerRow
  · cases given

theorem syncState_ok (reads : Reads session.db orderId row)
    (synced : syncState contexts (rowToRecord orderId row) brokerRow session =
      (.ok record, after)) :
    ∃ written, Moved orderId session after written ∧ record = rowToRecord orderId written ∧
      written.state = (targetStateFromBroker brokerRow).getD row.state ∧
      (written.brokerOrderId = row.brokerOrderId ∨
        written.brokerOrderId = (blankToNone (brokerOrderId brokerRow)).or row.brokerOrderId) ∧
      (written.filledQty = row.filledQty ∨
        written.filledQty.value = brokerFilledQty brokerRow) ∧
      ∀ target, targetStateFromBroker brokerRow = some target →
        target = .partiallyFilled ∨ target = .filled → row.state ≠ target →
          written.filledQty.value = brokerFilledQty brokerRow := by
  unfold syncState at synced
  split at synced
  · next silent =>
    cases synced
    rw [silent]
    exact ⟨row, .refl reads, rfl, rfl, Or.inl rfl, Or.inl rfl, fun _ impossible => nomatch impossible⟩
  · next target asked =>
    dsimp only at synced
    split at synced
    · cases synced
    · next working middle moved =>
      obtain ⟨written, left, same, arrived⟩ := moveToState_ok reads (by exact fill_nonneg) moved
      have facts : written.state = (targetStateFromBroker brokerRow).getD row.state ∧
          (written.brokerOrderId = row.brokerOrderId ∨ written.brokerOrderId =
            (blankToNone (brokerOrderId brokerRow)).or row.brokerOrderId) ∧
          (written.filledQty = row.filledQty ∨
            written.filledQty.value = brokerFilledQty brokerRow) ∧
          ∀ other, targetStateFromBroker brokerRow = some other →
            other = .partiallyFilled ∨ other = .filled → row.state ≠ other →
              written.filledQty.value = brokerFilledQty brokerRow := by
        rw [asked]
        refine ⟨arrived.state, ?_, ?_, ?_⟩
        · rcases arrived.broker with own | carried
          · exact Or.inl own
          · change written.brokerOrderId =
              ((blankToNone (brokerOrderId brokerRow)).or row.brokerOrderId).or
                row.brokerOrderId at carried
            rw [Option.or_assoc, Option.or_self] at carried
            exact Or.inr carried
        · rcases arrived.filled with kept | ⟨quantity, given, filled⟩
          · exact Or.inl kept
          · split at given
            · cases given
              exact Or.inr filled
            · cases given
        · intro other sameTarget withFill elsewhere
          cases sameTarget
          exact arrived.moved _ (if_pos withFill) elsewhere
      split at synced
      · cases synced
        exact ⟨written, left.corrected, same, facts⟩
      · cases synced
        exact ⟨written, left, same, facts⟩

theorem syncState_error (reads : Reads session.db orderId row) (present : orderId ≠ "")
    (synced : syncState contexts (rowToRecord orderId row) brokerRow session =
      (.error raised, after)) :
    Failed orderId session after ∧ ((∀ index, Healthy (contexts index)) →
      after = session ∧ ∃ target, targetStateFromBroker brokerRow = some target ∧
        row.state ≠ target ∧ ∃ lacking, findTransitionPath row.state target = .error lacking) := by
  unfold syncState at synced
  split at synced
  · cases synced
  · next target asked =>
    dsimp only at synced
    split at synced
    · next _ middle moved =>
      cases synced
      obtain ⟨failed, pathless⟩ := moveToState_error reads present (by exact fill_nonneg) moved
      refine ⟨failed, fun healthy => ?_⟩
      obtain ⟨same, elsewhere, missing⟩ := pathless healthy
      exact ⟨same, target, asked, elsewhere, missing⟩
    · split at synced
      · cases synced
      · cases synced

theorem syncFill_ok (reads : Reads session.db orderId row)
    (synced : syncFill contexts (rowToRecord orderId row) brokerRow session = (.ok (), after)) :
    ∃ written, Moved orderId session after written ∧ written.state = row.state ∧
      written.brokerOrderId = row.brokerOrderId ∧
      (written.filledQty.value = brokerFilledQty brokerRow ∨
        (written.filledQty = row.filledQty ∧
          differs row.filledQty.value (brokerFilledQty brokerRow) = false)) := by
  unfold syncFill at synced
  split at synced
  · next different =>
    split at synced
    · next _ middle called =>
      cases synced
      obtain ⟨written, left, _, state, own, filled, touched, errors⟩ :=
        call_setFilled_ok reads rfl (brokerFilledQty_nonneg brokerRow) (by exact different) called
      exact ⟨written, Moved.corrected ⟨left, touched, errors⟩, state, own, Or.inl filled⟩
    · cases synced
  · next near =>
    cases synced
    exact ⟨row, .refl reads, rfl, rfl, Or.inr ⟨rfl, Bool.eq_false_iff.mpr near⟩⟩

theorem syncFill_error (reads : Reads session.db orderId row) (present : orderId ≠ "")
    (synced : syncFill contexts (rowToRecord orderId row) brokerRow session =
      (.error raised, after)) :
    Failed orderId session after ∧ ¬∀ index, Healthy (contexts index) := by
  unfold syncFill at synced
  split at synced
  · split at synced
    · cases synced
    · next _ middle called =>
      cases synced
      refine ⟨.of_call reads called, fun healthy => ?_⟩
      obtain ⟨_, _, returned⟩ := @call_setFilled_returns contexts session orderId row
        { orderId := orderId
          filledQty := brokerFilledQty brokerRow
          reason := some "reconcile_fill_qty_sync" }
        reads present rfl rfl (brokerFilledQty_nonneg brokerRow) (healthy _)
      cases returned.symm.trans called
  · cases synced

theorem syncOrder_ok (reads : Reads session.db orderId row)
    (synced : syncOrder contexts (rowToRecord orderId row) brokerRow session = (.ok (), after)) :
    ∃ written, Moved orderId session after written ∧ Synced row written brokerRow := by
  unfold syncOrder at synced
  split at synced
  · cases synced
  · next working middle moved =>
    obtain ⟨between, left, same, state, own, filled, exact_⟩ := syncState_ok reads moved
    subst same
    obtain ⟨written, right, stateKept, ownKept, filledKept⟩ := syncFill_ok left.reads synced
    refine ⟨written, left.trans right, stateKept.trans state, ?_, ?_, ?_⟩
    · rw [ownKept]
      exact own
    · rcases filledKept with full | ⟨kept, near⟩
      · exact Or.inl full
      · rcases filled with unmoved | full
        · rw [unmoved] at kept near
          exact Or.inr ⟨kept, near⟩
        · exact Or.inl (by rw [kept, full])
    · intro target asked withFill elsewhere
      have full := exact_ target asked withFill elsewhere
      rcases filledKept with again | ⟨kept, _⟩
      · exact again
      · rw [kept, full]

theorem syncOrder_error (reads : Reads session.db orderId row) (present : orderId ≠ "")
    (synced : syncOrder contexts (rowToRecord orderId row) brokerRow session =
      (.error raised, after)) :
    Failed orderId session after ∧ ((∀ index, Healthy (contexts index)) →
      after = session ∧ ∃ target, targetStateFromBroker brokerRow = some target ∧
        row.state ≠ target ∧ ∃ lacking, findTransitionPath row.state target = .error lacking) := by
  unfold syncOrder at synced
  split at synced
  · next _ middle moved =>
    cases synced
    exact syncState_error reads present moved
  · next working middle moved =>
    obtain ⟨between, left, same, _⟩ := syncState_ok reads moved
    subst same
    obtain ⟨⟨written, right⟩, unhealthy⟩ := syncFill_error left.reads present synced
    exact ⟨⟨written, left.trans right⟩, fun healthy => absurd healthy unhealthy⟩

theorem rejectMissing_ok {snapshot : Snapshot} (reads : Reads session.db orderId row)
    (rejected : rejectMissing contexts snapshot (rowToRecord orderId row) session =
      (.ok (), after)) :
    ∃ written, Moved orderId session after written ∧
      ((written = row ∧ row.state ∈ [.acknowledged, .partiallyFilled] ∧
          snapshot.hasOpenPositions = true) ∨ written.state = .rejected) := by
  unfold rejectMissing at rejected
  split at rejected
  · next unknown =>
    cases rejected
    exact ⟨row, (Moved.refl reads).corrected, Or.inl ⟨rfl, unknown⟩⟩
  · split at rejected
    · next _ middle moved =>
      cases rejected
      obtain ⟨written, left, _, arrived⟩ :=
        moveToState_ok reads (by intro _ impossible; cases impossible) moved
      exact ⟨written, left.corrected, Or.inr arrived.state⟩
    · cases rejected

theorem rejectMissing_error {snapshot : Snapshot} (reads : Reads session.db orderId row)
    (present : orderId ≠ "") (isOpen : row.state ∉ terminalStates)
    (rejected : rejectMissing contexts snapshot (rowToRecord orderId row) session =
      (.error raised, after)) :
    Failed orderId session after ∧ ¬∀ index, Healthy (contexts index) := by
  unfold rejectMissing at rejected
  split at rejected
  · cases rejected
  · split at rejected
    · cases rejected
    · next _ middle moved =>
      cases rejected
      obtain ⟨failed, pathless⟩ :=
        moveToState_error reads present (by intro _ impossible; cases impossible) moved
      refine ⟨failed, fun healthy => ?_⟩
      obtain ⟨_, _, lacking, missing⟩ := pathless healthy
      rw [rejected_reachable isOpen] at missing
      cases missing

end Sync

end Algotradify.Orders.Reconciliation
