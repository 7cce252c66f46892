/-
What each call on the order state machine can do to the database.

A call that returns either reads an order or writes one row together with its event.
-/

import Algotradify.Py.Convert
import Algotradify.Orders.StateMachine
import Algotradify.Transition.Run

namespace Algotradify.Orders

open Py Sql Transition

variable {context : CallContext} {request : CreateRequest} {current : OrderRow}
variable {db after : Database} {reply : Reply}

/-! ### Calls as data -/

inductive Operation where
  | create (request : CreateRequest)
  | transition (request : TransitionRequest)
  | setFilled (request : FillRequest)

structure Call where
  context : CallContext
  operation : Operation

abbrev Reply := OrderRecord × Bool

abbrev Outcome := Except OrderError Reply

def Operation.run (context : CallContext) (db : Database) :
    Operation → Except OrderError (Reply × Database)
  | .create request => createOrGetOrder context request db
  | .transition request =>
      (Orders.transition context request db).map fun result => ((result.1, false), result.2)
  | .setFilled request =>
      (setFilledQuantity context request db).map fun result => ((result.1, false), result.2)

def perform (db : Database) (call : Call) : Outcome × Database :=
  match call.operation.run call.context db with
  | .ok (reply, after) => (.ok reply, after)
  | .error raised => (.error raised, db)

abbrev Entry := Call × Outcome

/-- Every call is one transaction, so calls of any number of clients are a run. -/
def Step : Database → Entry → Database → Prop :=
  Observed fun db call => some (perform db call)

/-! ### Writes -/

def Database.write (db : Database) (orderId : String) (row : OrderRow) (event : EventRow) :
    Database :=
  { orderStates := db.orderStates.put orderId row
    orders := db.mirrored orderId row
    events := db.events ++ [event] }

structure SameOrder (current written : OrderRow) : Prop where
  idempotencyKey : written.idempotencyKey = current.idempotencyKey
  instrument : written.instrument = current.instrument
  side : written.side = current.side
  quantity : written.quantity = current.quantity
  createdAt : written.createdAt = current.createdAt

inductive Effect (context : CallContext) (db : Database) : Operation → Reply → Database → Prop where
  | found {request : CreateRequest} {orderId : String} {row : OrderRow}
      (selected : db.orderStates.select orderId = some row)
      (sameKey : row.idempotencyKey = strip request.idempotencyKey)
      (noConflict : ∀ stored, db.orderStates.select (strip request.orderId) = some stored →
        stored.idempotencyKey = strip request.idempotencyKey) :
      Effect context db (.create request) (rowToRecord orderId row, false) db
  | created {request : CreateRequest} {row : OrderRow}
      (made : request.row context = .ok row)
      (freshId : db.orderStates.select (strip request.orderId) = none)
      (freshKey : ∀ orderId other, db.orderStates.select orderId = some other →
        other.idempotencyKey ≠ row.idempotencyKey) :
      Effect context db (.create request) (rowToRecord (strip request.orderId) row, true)
        (db.write (strip request.orderId) row (creationEvent (strip request.orderId) row))
  | moved {request : TransitionRequest} {next : OrderState} {current written : OrderRow}
      (asked : coerceState request.nextState = .ok next)
      (selected : db.orderStates.select (strip request.orderId) = some current)
      (allowed : next ∈ validTransitions current.state)
      (made : request.row context next current = .ok written) :
      Effect context db (.transition request) (rowToRecord (strip request.orderId) written, false)
        (db.write (strip request.orderId) written
          (stateEvent (strip request.orderId) current written request.reason))
  | unchanged {request : FillRequest} {row : OrderRow}
      (selected : db.orderStates.select (strip request.orderId) = some row)
      (same : sameQuantity row (clampQuantity request.filledQty) = true) :
      Effect context db (.setFilled request) (rowToRecord (strip request.orderId) row, false) db
  | filled {request : FillRequest} {current written : OrderRow}
      (selected : db.orderStates.select (strip request.orderId) = some current)
      (different : sameQuantity current (clampQuantity request.filledQty) = false)
      (made : request.row context current = .ok written) :
      Effect context db (.setFilled request) (rowToRecord (strip request.orderId) written, false)
        (db.write (strip request.orderId) written
          (stateEvent (strip request.orderId) current written (some request.loggedReason)))

/-! ### Rows that calls write -/

theorem requireReal_eq_ok {column : String} {value : PyFloat} {stored : SqlReal}
    (bound : requireReal column value = .ok stored) : stored.value = value := by
  unfold requireReal at bound
  split at bound
  · rename_i same
    cases bound
    exact SqlReal.bind_eq_some same
  · cases bound

theorem createRow {row : OrderRow} (made : request.row context = .ok row) :
    row.idempotencyKey = strip request.idempotencyKey ∧ row.state = .new ∧
      row.filledQty.value = clampQuantity (request.filledQty.getD (.finite 0)) := by
  obtain ⟨quantity, _, made⟩ := bind_eq_ok.mp made
  obtain ⟨createdAt, _, made⟩ := bind_eq_ok.mp made
  obtain ⟨filledQty, filled, made⟩ := bind_eq_ok.mp made
  cases made
  exact ⟨rfl, rfl, requireReal_eq_ok filled⟩

theorem transitionRow {request : TransitionRequest} {next : OrderState} {written : OrderRow}
    (made : request.row context next current = .ok written) :
    SameOrder current written ∧ written.state = next ∧
      written.filledQty.value = request.quantity current := by
  obtain ⟨updatedAt, _, made⟩ := bind_eq_ok.mp made
  obtain ⟨filledQty, filled, made⟩ := bind_eq_ok.mp made
  cases made
  exact ⟨⟨rfl, rfl, rfl, rfl, rfl⟩, rfl, requireReal_eq_ok filled⟩

theorem fillRow {request : FillRequest} {written : OrderRow}
    (made : request.row context current = .ok written) :
    SameOrder current written ∧ written.state = current.state ∧
      written.brokerOrderId = current.brokerOrderId ∧
      written.avgFillPrice = current.avgFillPrice ∧
      written.filledQty.value = clampQuantity request.filledQty := by
  obtain ⟨updatedAt, _, made⟩ := bind_eq_ok.mp made
  obtain ⟨filledQty, filled, made⟩ := bind_eq_ok.mp made
  cases made
  exact ⟨⟨rfl, rfl, rfl, rfl, rfl⟩, rfl, rfl, rfl, requireReal_eq_ok filled⟩

/-! ### Running a call -/

private theorem insertEvent_stored {event : EventRow} {row : OrderRow}
    (stored : db.orderStates.select event.orderId = some row) :
    insertEvent db event = .ok { db with events := db.events ++ [event] } := by
  unfold insertEvent
  rw [stored]
  rfl

theorem writeOrder_eq {orderId : String} (written : OrderRow) (reason : Option String)
    (selected : db.orderStates.select orderId = some current) :
    writeOrder db orderId current written reason =
      .ok (rowToRecord orderId written,
        db.write orderId written (stateEvent orderId current written reason)) := by
  unfold writeOrder updateOrderState
  rw [selected]
  simp only
  rw [insertEvent_stored (Table.select_put_self _ _ _)]
  rfl

theorem insertOrder_effect (freshId : db.orderStates.select (strip request.orderId) = none)
    (freshKey : db.orderStates.selectWhere
      (fun row => row.idempotencyKey = strip request.idempotencyKey) = none)
    (ran : insertOrder context request db = .ok (reply, after)) :
    Effect context db (.create request) reply after := by
  obtain ⟨row, made, ran⟩ := bind_eq_ok.mp ran
  obtain ⟨sameKey, _⟩ := createRow made
  obtain ⟨inserted, insertion, ran⟩ := bind_eq_ok.mp ran
  unfold insertOrderState at insertion
  rw [freshId, sameKey, freshKey] at insertion
  cases insertion
  rw [insertEvent_stored (Table.select_put_self _ _ _)] at ran
  cases ran
  refine .created made freshId ?_
  intro orderId other selected same
  have absent := Table.selectWhere_eq_none freshKey selected
  rw [← sameKey, same] at absent
  simp at absent

theorem createOrGetOrder_effect (ran : createOrGetOrder context request db = .ok (reply, after)) :
    Effect context db (.create request) reply after := by
  unfold createOrGetOrder at ran
  simp only at ran
  split at ran
  · cases ran
  split at ran
  · cases ran
  obtain ⟨_, _started, ran⟩ := bind_eq_ok.mp ran
  cases selected : db.orderStates.select (strip request.orderId) with
  | some existing =>
      simp only [selected] at ran
      split at ran
      · cases ran
      · rename_i sameKey
        cases ran
        refine .found selected (not_not.mp sameKey) ?_
        intro stored found
        cases selected.symm.trans found
        exact not_not.mp sameKey
  | none =>
      simp only [selected] at ran
      cases byKey : db.orderStates.selectWhere
          (fun row => row.idempotencyKey = strip request.idempotencyKey) with
      | some existing =>
          obtain ⟨existingId, row⟩ := existing
          simp only [byKey] at ran
          cases ran
          obtain ⟨stored, same⟩ := Table.selectWhere_eq_some byKey
          refine .found stored (of_decide_eq_true same) ?_
          intro other found
          cases selected.symm.trans found
      | none =>
          simp only [byKey] at ran
          exact insertOrder_effect selected byKey ran

theorem transition_effect {request : TransitionRequest} {record : OrderRecord}
    (ran : transition context request db = .ok (record, after)) :
    Effect context db (.transition request) (record, false) after := by
  unfold transition at ran
  simp only at ran
  split at ran
  · cases ran
  obtain ⟨next, asked, ran⟩ := bind_eq_ok.mp ran
  obtain ⟨_, _started, ran⟩ := bind_eq_ok.mp ran
  cases selected : db.orderStates.select (strip request.orderId) with
  | none =>
      simp only [selected] at ran
      cases ran
  | some current =>
      simp only [selected] at ran
      obtain ⟨_, valid, ran⟩ := bind_eq_ok.mp ran
      obtain ⟨written, made, ran⟩ := bind_eq_ok.mp ran
      rw [writeOrder_eq written request.reason selected] at ran
      cases ran
      refine .moved asked selected ?_ made
      unfold validateTransition at valid
      split at valid
      · rename_i allowed
        exact List.contains_iff_mem.mp allowed
      · cases valid

theorem setFilledQuantity_effect {request : FillRequest} {record : OrderRecord}
    (ran : setFilledQuantity context request db = .ok (record, after)) :
    Effect context db (.setFilled request) (record, false) after := by
  unfold setFilledQuantity at ran
  simp only at ran
  split at ran
  · cases ran
  obtain ⟨_, _started, ran⟩ := bind_eq_ok.mp ran
  cases selected : db.orderStates.select (strip request.orderId) with
  | none =>
      simp only [selected] at ran
      cases ran
  | some current =>
      simp only [selected] at ran
      split at ran
      · rename_i same
        cases ran
        exact .unchanged selected same
      · rename_i different
        obtain ⟨written, made, ran⟩ := bind_eq_ok.mp ran
        rw [writeOrder_eq written _ selected] at ran
        cases ran
        exact .filled selected (Bool.eq_false_iff.mpr different) made

theorem run_effect {operation : Operation} (ran : operation.run context db = .ok (reply, after)) :
    Effect context db operation reply after := by
  cases operation with
  | create request => exact createOrGetOrder_effect ran
  | transition request =>
      cases done : Orders.transition context request db with
      | error raised =>
          simp only [Operation.run, done] at ran
          cases ran
      | ok result =>
          simp only [Operation.run, done] at ran
          cases ran
          exact transition_effect done
  | setFilled request =>
      cases done : setFilledQuantity context request db with
      | error raised =>
          simp only [Operation.run, done] at ran
          cases ran
      | ok result =>
          simp only [Operation.run, done] at ran
          cases ran
          exact setFilledQuantity_effect done

theorem step_cases {entry : Entry} (stepped : Step db entry after) :
    (∃ reply, entry.2 = .ok reply ∧
      Effect entry.1.context db entry.1.operation reply after) ∨
    ∃ raised, entry.2 = .error raised ∧ after = db := by
  obtain ⟨⟨context, operation⟩, outcome⟩ := entry
  have performed : perform db ⟨context, operation⟩ = (outcome, after) := Option.some.inj stepped
  unfold perform at performed
  split at performed
  · rename_i reply left ran
    cases performed
    exact .inl ⟨reply, rfl, run_effect ran⟩
  · cases performed
    exact .inr ⟨_, rfl, rfl⟩

end Algotradify.Orders
