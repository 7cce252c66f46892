/-
The order state machine and its three tables: the order states, their mirror that
two triggers maintain, and the log of state events.

A call runs as one transaction. It returns its result with the database it commits,
or it raises, and then the transaction is rolled back and the database is unchanged.
-/

import Mathlib.Algebra.Order.Group.Unbundled.Abs
import Algotradify.Py.Text
import Algotradify.Sql.Table

namespace Algotradify.Orders

open Py Sql

/-! ### States -/

inductive OrderState where
  | new
  | sent
  | acknowledged
  | partiallyFilled
  | filled
  | rejected
  | cancelled
  | expired
deriving DecidableEq, Repr

namespace OrderState

def value : OrderState → String
  | .new => "NEW"
  | .sent => "SENT"
  | .acknowledged => "ACKNOWLEDGED"
  | .partiallyFilled => "PARTIAL"
  | .filled => "FILLED"
  | .rejected => "REJECTED"
  | .cancelled => "CANCELLED"
  | .expired => "EXPIRED"

def all : List OrderState :=
  [.new, .sent, .acknowledged, .partiallyFilled, .filled, .rejected, .cancelled, .expired]

end OrderState

/-- `_VALID_TRANSITIONS`. -/
def validTransitions : OrderState → List OrderState
  | .new => [.sent, .rejected, .cancelled, .expired]
  | .sent => [.acknowledged, .partiallyFilled, .filled, .rejected, .cancelled, .expired]
  | .acknowledged => [.partiallyFilled, .filled, .rejected, .cancelled, .expired]
  | .partiallyFilled => [.partiallyFilled, .filled, .rejected, .cancelled, .expired]
  | .filled => []
  | .rejected => []
  | .cancelled => []
  | .expired => []

/-- `iter_terminal_states`. -/
def terminalStates : List OrderState := [.filled, .rejected, .cancelled, .expired]

inductive OrderError where
  | valueError (message : String)
  | transitionError (current next : OrderState)
  | notFound (message : String)
  | integrityError (message : String)
  | operationalError (message : String)
deriving DecidableEq, Repr

/-- `_coerce_state`. -/
def coerceState (text : String) : Except OrderError OrderState :=
  match OrderState.all.find? fun state => state.value = upper (strip text) with
  | some state => .ok state
  | none => .error (.valueError ("'" ++ upper (strip text) ++ "' is not a valid OrderState"))

def isTransitionValid (current next : OrderState) : Bool :=
  (validTransitions current).contains next

def validateTransition (current next : OrderState) : Except OrderError Unit :=
  if isTransitionValid current next then .ok () else .error (.transitionError current next)

/-! ### Tables -/

/-- The columns of an order beside its key; the mirror has the same ones. -/
structure OrderRow where
  idempotencyKey : String
  instrument : Option String
  side : Option String
  quantity : SqlReal
  state : OrderState
  createdAt : SqlReal
  updatedAt : SqlReal
  brokerOrderId : Option String
  filledQty : SqlReal
  avgFillPrice : Option SqlReal
deriving DecidableEq

structure EventRow where
  orderId : String
  idempotencyKey : String
  fromState : Option OrderState
  toState : OrderState
  reason : Option String
  brokerOrderId : Option String
  filledQty : Option SqlReal
  createdAt : SqlReal
deriving DecidableEq

structure Database where
  orderStates : Table String OrderRow
  orders : Table String OrderRow
  /-- In the order of their ids. -/
  events : List EventRow
deriving DecidableEq

def Database.empty : Database := ⟨[], [], []⟩

/-- The trigger body: `INSERT OR REPLACE INTO orders`. -/
def Database.mirrored (db : Database) (orderId : String) (row : OrderRow) : Table String OrderRow :=
  db.orders.replace orderId row fun other => other.idempotencyKey = row.idempotencyKey

/-- `INSERT INTO order_states`, under its two uniqueness constraints, with its trigger. -/
def insertOrderState (db : Database) (orderId : String) (row : OrderRow) :
    Except OrderError Database :=
  if (db.orderStates.select orderId).isSome then
    .error (.integrityError "UNIQUE constraint failed: order_states.order_id")
  else if (db.orderStates.selectWhere fun other =>
      other.idempotencyKey = row.idempotencyKey).isSome then
    .error (.integrityError "UNIQUE constraint failed: order_states.idempotency_key")
  else .ok
    { db with
      orderStates := db.orderStates.put orderId row
      orders := db.mirrored orderId row }

/-- `UPDATE order_states ... WHERE order_id = ?`, with its trigger. -/
def updateOrderState (db : Database) (orderId : String) (change : OrderRow → OrderRow) : Database :=
  match db.orderStates.select orderId with
  | some row =>
      { db with
        orderStates := db.orderStates.put orderId (change row)
        orders := db.mirrored orderId (change row) }
  | none => db

/-- `INSERT INTO order_state_events`; the order must be there. -/
def insertEvent (db : Database) (event : EventRow) : Except OrderError Database :=
  if (db.orderStates.select event.orderId).isSome then
    .ok { db with events := db.events ++ [event] }
  else .error (.integrityError "FOREIGN KEY constraint failed")

def requireReal (column : String) (value : PyFloat) : Except OrderError SqlReal :=
  match SqlReal.bind value with
  | some stored => .ok stored
  | none => .error (.integrityError ("NOT NULL constraint failed: order_states." ++ column))

structure OrderRecord where
  orderId : String
  idempotencyKey : String
  state : OrderState
  createdAt : PyFloat
  updatedAt : PyFloat
  brokerOrderId : Option String
  instrument : Option String
  side : Option String
  quantity : PyFloat
  filledQty : PyFloat
  avgFillPrice : Option PyFloat
deriving DecidableEq, Repr

/-- `_row_to_record`. -/
def rowToRecord (orderId : String) (row : OrderRow) : OrderRecord :=
  { orderId := orderId
    idempotencyKey := row.idempotencyKey
    state := row.state
    createdAt := row.createdAt.value
    updatedAt := row.updatedAt.value
    brokerOrderId := row.brokerOrderId
    instrument := row.instrument
    side := row.side
    quantity := row.quantity.value
    filledQty := row.filledQty.value
    avgFillPrice := row.avgFillPrice.map SqlReal.value }

/-! ### Calls -/

/-- The clock a call reads, and the error its transaction may start with. -/
structure CallContext where
  clock : PyFloat
  failure : Option String

def beginImmediate (context : CallContext) : Except OrderError Unit :=
  match context.failure with
  | some message => .error (.operationalError message)
  | none => .ok ()

def clampQuantity (quantity : PyFloat) : PyFloat :=
  if quantity.lt (.finite 0) then .finite 0 else quantity

def blankToNone (text : String) : Option String :=
  if text = "" then none else some text

structure CreateRequest where
  orderId : String
  idempotencyKey : String
  instrument : Option String := none
  side : Option String := none
  quantity : Option PyFloat := none
  brokerOrderId : Option String := none
  filledQty : Option PyFloat := none
  avgFillPrice : Option PyFloat := none
  nowEpoch : Option PyFloat := none

def CreateRequest.row (request : CreateRequest) (context : CallContext) :
    Except OrderError OrderRow := do
  let now := request.nowEpoch.getD context.clock
  let quantity ← requireReal "quantity" (clampQuantity (request.quantity.getD (.finite 0)))
  let createdAt ← requireReal "created_at" now
  let filledQty ← requireReal "filled_qty" (clampQuantity (request.filledQty.getD (.finite 0)))
  pure
    { idempotencyKey := strip request.idempotencyKey
      instrument := blankToNone (upper (strip (request.instrument.getD "")))
      side := blankToNone (upper (strip (request.side.getD "")))
      quantity := quantity
      state := .new
      createdAt := createdAt
      updatedAt := createdAt
      brokerOrderId := request.brokerOrderId
      filledQty := filledQty
      avgFillPrice := request.avgFillPrice.bind SqlReal.bind }

def creationEvent (orderId : String) (row : OrderRow) : EventRow :=
  { orderId := orderId
    idempotencyKey := row.idempotencyKey
    fromState := none
    toState := .new
    reason := some "order_created"
    brokerOrderId := row.brokerOrderId
    filledQty := some row.filledQty
    createdAt := row.createdAt }

/-- The insert that a creation ends with when neither its id nor its key is known. -/
def insertOrder (context : CallContext) (request : CreateRequest) (db : Database) :
    Except OrderError ((OrderRecord × Bool) × Database) := do
  let orderId := strip request.orderId
  let row ← request.row context
  let inserted ← insertOrderState db orderId row
  let logged ← insertEvent inserted (creationEvent orderId row)
  pure ((rowToRecord orderId row, true), logged)

def createOrGetOrder (context : CallContext) (request : CreateRequest) (db : Database) :
    Except OrderError ((OrderRecord × Bool) × Database) :=
  let orderId := strip request.orderId
  let idempotencyKey := strip request.idempotencyKey
  if orderId = "" then .error (.valueError "missing_order_id")
  else if idempotencyKey = "" then .error (.valueError "missing_idempotency_key")
  else do
    beginImmediate context
    match db.orderStates.select orderId with
    | some existing =>
        if existing.idempotencyKey ≠ idempotencyKey then
          .error (.valueError ("order_id_conflict:" ++ orderId))
        else pure ((rowToRecord orderId existing, false), db)
    | none =>
        match db.orderStates.selectWhere fun row => row.idempotencyKey = idempotencyKey with
        | some (existingId, existing) => pure ((rowToRecord existingId existing, false), db)
        | none => insertOrder context request db

structure TransitionRequest where
  orderId : String
  nextState : String
  brokerOrderId : Option String := none
  reason : Option String := none
  filledQty : Option PyFloat := none
  avgFillPrice : Option PyFloat := none
  nowEpoch : Option PyFloat := none

def TransitionRequest.quantity (request : TransitionRequest) (current : OrderRow) : PyFloat :=
  clampQuantity (request.filledQty.getD current.filledQty.value)

def TransitionRequest.row (request : TransitionRequest) (context : CallContext)
    (next : OrderState) (current : OrderRow) : Except OrderError OrderRow := do
  let updatedAt ← requireReal "updated_at" (request.nowEpoch.getD context.clock)
  let filledQty ← requireReal "filled_qty" (request.quantity current)
  pure
    { current with
      state := next
      updatedAt := updatedAt
      brokerOrderId := request.brokerOrderId.or current.brokerOrderId
      filledQty := filledQty
      avgFillPrice := match request.avgFillPrice with
        | some price => SqlReal.bind price
        | none => current.avgFillPrice }

def stateEvent (orderId : String) (current written : OrderRow) (reason : Option String) : EventRow :=
  { orderId := orderId
    idempotencyKey := current.idempotencyKey
    fromState := some current.state
    toState := written.state
    reason := reason
    brokerOrderId := written.brokerOrderId
    filledQty := some written.filledQty
    createdAt := written.updatedAt }

def writeOrder (db : Database) (orderId : String) (current written : OrderRow)
    (reason : Option String) : Except OrderError (OrderRecord × Database) := do
  let logged ← insertEvent (updateOrderState db orderId fun _ => written)
    (stateEvent orderId current written reason)
  pure (rowToRecord orderId written, logged)

def transition (context : CallContext) (request : TransitionRequest) (db : Database) :
    Except OrderError (OrderRecord × Database) :=
  let orderId := strip request.orderId
  if orderId = "" then .error (.valueError "missing_order_id")
  else do
    let next ← coerceState request.nextState
    beginImmediate context
    match db.orderStates.select orderId with
    | none => .error (.notFound ("order_not_found:" ++ orderId))
    | some current => do
        validateTransition current.state next
        let written ← request.row context next current
        writeOrder db orderId current written request.reason

structure FillRequest where
  orderId : String
  filledQty : PyFloat
  reason : Option String := none
  nowEpoch : Option PyFloat := none

def FillRequest.row (request : FillRequest) (context : CallContext) (current : OrderRow) :
    Except OrderError OrderRow := do
  let updatedAt ← requireReal "updated_at" (request.nowEpoch.getD context.clock)
  let filledQty ← requireReal "filled_qty" (clampQuantity request.filledQty)
  pure { current with filledQty := filledQty, updatedAt := updatedAt }

def FillRequest.loggedReason (request : FillRequest) : String :=
  match request.reason with
  | some reason => if reason = "" then "fill_qty_updated" else reason
  | none => "fill_qty_updated"

def sameQuantity (current : OrderRow) (quantity : PyFloat) : Bool :=
  (current.filledQty.value - quantity).abs.lt (.finite (1 / 1000000000))

def setFilledQuantity (context : CallContext) (request : FillRequest) (db : Database) :
    Except OrderError (OrderRecord × Database) :=
  let orderId := strip request.orderId
  if orderId = "" then .error (.valueError "missing_order_id")
  else do
    beginImmediate context
    match db.orderStates.select orderId with
    | none => .error (.notFound ("order_not_found:" ++ orderId))
    | some current =>
        if sameQuantity current (clampQuantity request.filledQty) then
          pure (rowToRecord orderId current, db)
        else do
          let written ← request.row context current
          writeOrder db orderId current written (some request.loggedReason)

end Algotradify.Orders
