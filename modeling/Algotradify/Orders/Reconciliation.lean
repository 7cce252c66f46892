/-
The daemon that reconciles open orders with the orders and positions of the broker: one
cycle takes a snapshot of the broker, lists the open orders, and moves each one to what
its broker row says.

The answers of the broker and what each database call meets are parameters. Orders that
were updated at the same time are listed in table order. The log of the daemon is kept for
the errors only; retries of the broker calls and the times of a cycle are left out.
-/

import Algotradify.Core.PositionReconciliation
import Algotradify.Orders.Effects

namespace Algotradify.Orders.Reconciliation

open Py Core.Reconciliation

/-! ### Broker rows -/

/-- `_OPEN_STATUSES`. -/
def openStatuses : List String :=
  ["OPEN", "TRIGGER PENDING", "PUT ORDER REQ RECEIVED", "VALIDATION PENDING",
    "MODIFY VALIDATION PENDING", "MODIFY PENDING", "AMO REQ RECEIVED", "AMO REQ PROCESSING",
    "AMO MOD VALIDATION PENDING", "AMO MOD PENDING"]

/-- `_as_float`, with zero as default. -/
def asFloat (value : PyValue) : PyFloat :=
  (toFloat value).toOption.getD (.finite 0)

def statusText (value : PyValue) : String :=
  upper (strip (printValue (value.or (.str ""))))

/-- `max(0.0, value)`. -/
def aboveZero (value : PyFloat) : PyFloat :=
  if PyFloat.lt (.finite 0) value then value else .finite 0

def brokerOrderId (orderRow : PyDict) : String :=
  ((["order_id", "broker_order_id", "id"].map fun key =>
    strip (printValue ((orderRow.get key).or (.str "")))).find? (· != "")).getD ""

def quantityOf (orderRow : PyDict) (keys : List String) : Option PyFloat :=
  (keys.find? orderRow.contains).map fun key => aboveZero (asFloat (orderRow.get key))

def brokerFilledQty (orderRow : PyDict) : PyFloat :=
  match quantityOf orderRow ["filled_quantity", "filled_qty", "filled", "executed_quantity"] with
  | some quantity => quantity
  | none =>
      if ["COMPLETE", "FILLED"].contains (statusText (orderRow.get "status")) then
        aboveZero (asFloat (orderRow.get "quantity"))
      else .finite 0

def brokerPendingQty (orderRow : PyDict) : PyFloat :=
  (quantityOf orderRow ["pending_quantity", "pending_qty", "pending"]).getD (.finite 0)

def targetStateFromBroker (orderRow : PyDict) : Option OrderState :=
  let status := statusText (orderRow.get "status")
  if PyFloat.lt (.finite 0) (brokerFilledQty orderRow) &&
      PyFloat.lt (.finite 0) (brokerPendingQty orderRow) then some .partiallyFilled
  else if ["COMPLETE", "FILLED"].contains status then some .filled
  else if status = "REJECTED" then some .rejected
  else if ["CANCELLED", "CANCELED"].contains status then some .cancelled
  else if ["LAPSED", "EXPIRED"].contains status then some .expired
  else if openStatuses.contains status then some .acknowledged
  else none

/-- `_fetch_broker_orders`, from what the broker answers. -/
def fetchBrokerOrders (raw : PyValue) : List PyDict :=
  let dicts (items : List PyValue) : List PyDict :=
    (items.filter PyValue.isDict).map PyValue.asDict
  match raw with
  | .list items => dicts items
  | .dict entries =>
      match (["data", "orders", "result"].map (PyDict.get entries)).find? PyValue.isList with
      | some (.list items) => dicts items
      | _ => []
  | _ => []

/-- `abs(left - right) > 1e-9`. -/
def differs (left right : PyFloat) : Bool :=
  PyFloat.lt (.finite (1 / 1000000000)) (left - right).abs

def positionsOpen (positions : List PyDict) : Bool :=
  positions.any fun row =>
    let quantity :=
      if (row.get "quantity").isNone then row.get "net_quantity" else row.get "quantity"
    PyFloat.lt (.finite (1 / 1000000000)) (asFloat quantity).abs

structure Snapshot where
  brokerById : List (String × PyDict)
  hasOpenPositions : Bool

def brokerById (brokerOrders : List PyDict) : List (String × PyDict) :=
  brokerOrders.foldl (fun byId row =>
    if brokerOrderId row = "" then byId else Assoc.set byId (brokerOrderId row) row) []

def Snapshot.take (brokerOrders brokerPositions : List PyDict) : Snapshot :=
  { brokerById := Reconciliation.brokerById brokerOrders
    hasOpenPositions := positionsOpen brokerPositions }

def Snapshot.rowFor (snapshot : Snapshot) (record : OrderRecord) : Option PyDict :=
  let candidateIds := ((record.brokerOrderId.bind blankToNone).toList) ++ [record.orderId]
  candidateIds.findSome? fun id => snapshot.brokerById.lookup id

/-! ### Paths of transitions -/

/-- `valid_next_states`. -/
def validNextStates (state : OrderState) : List OrderState :=
  (validTransitions state).insertionSort fun left right => left.value ≤ right.value

/-- The breadth-first search for a state; each state enters the queue at most once. -/
def searchPath (target : OrderState) : ℕ → List (OrderState × List OrderState) →
    List OrderState → Option (List OrderState)
  | 0, _, _ => none
  | _, [], _ => none
  | turns + 1, (node, path) :: queue, visited =>
      let fresh := (validNextStates node).filter fun next => !visited.contains next
      if fresh.contains target then some (path ++ [target])
      else
        searchPath target turns (queue ++ fresh.map fun next => (next, path ++ [next]))
          (visited ++ fresh)

def findTransitionPath (current target : OrderState) : Except OrderError (List OrderState) :=
  if current = target then .ok []
  else
    match searchPath target OrderState.all.length [(current, [])] [current] with
    | some path => .ok path
    | none => .error (.transitionError current target)

/-! ### One order -/

/-- What a cycle has done so far: the database, how many calls it made, and its log. -/
structure Session where
  db : Database
  calls : ℕ
  corrections : ℕ
  errors : List (String × OrderError)

def Session.start (db : Database) : Session :=
  { db := db, calls := 0, corrections := 0, errors := [] }

def Session.corrected (session : Session) : Session :=
  { session with corrections := session.corrections + 1 }

def Session.call (contexts : ℕ → CallContext) (operation : Operation) (session : Session) :
    Except OrderError OrderRecord × Session :=
  let result := perform session.db { context := contexts session.calls, operation := operation }
  (result.1.map Prod.fst, { session with db := result.2, calls := session.calls + 1 })

/-- The transitions along a path; the last one carries the broker id and the fill. -/
def followPath (contexts : ℕ → CallContext) (reason : String) (brokerOrderId : Option String)
    (filledQty : Option PyFloat) : List OrderState → OrderRecord → Session →
      Except OrderError OrderRecord × Session
  | [], current, session => (.ok current, session)
  | [last], current, session =>
      session.call contexts (.transition
        { orderId := current.orderId
          nextState := last.value
          brokerOrderId := brokerOrderId
          reason := some reason
          filledQty := filledQty })
  | step :: rest, current, session =>
      match session.call contexts (.transition
        { orderId := current.orderId
          nextState := step.value
          reason := some (reason ++ ":bridge_" ++ lower step.value) }) with
      | (.ok next, session) =>
          followPath contexts reason brokerOrderId filledQty rest next session
      | (.error raised, session) => (.error raised, session)

def moveToState (contexts : ℕ → CallContext) (record : OrderRecord) (target : OrderState)
    (reason : String) (brokerOrderId : Option String) (filledQty : Option PyFloat)
    (session : Session) : Except OrderError OrderRecord × Session :=
  if record.state = target then
    match filledQty with
    | some quantity =>
        if differs record.filledQty quantity then
          session.call contexts (.setFilled
            { orderId := record.orderId
              filledQty := quantity
              reason := some (reason ++ ":fill_qty_sync") })
        else (.ok record, session)
    | none => (.ok record, session)
  else
    match findTransitionPath record.state target with
    | .error raised => (.error raised, session)
    | .ok path => followPath contexts reason brokerOrderId filledQty path record session

def syncState (contexts : ℕ → CallContext) (internal : OrderRecord) (row : PyDict)
    (session : Session) : Except OrderError OrderRecord × Session :=
  match targetStateFromBroker row with
  | none => (.ok internal, session)
  | some target =>
      let filledQty :=
        if target = .partiallyFilled ∨ target = .filled then some (brokerFilledQty row) else none
      match moveToState contexts internal target "reconcile_broker_status_sync"
        ((blankToNone (brokerOrderId row)).or internal.brokerOrderId) filledQty session with
      | (.error raised, session) => (.error raised, session)
      | (.ok working, session) =>
          if working.state ≠ internal.state ∨
              differs working.filledQty internal.filledQty = true then
            (.ok working, session.corrected)
          else (.ok working, session)

def syncFill (contexts : ℕ → CallContext) (working : OrderRecord) (row : PyDict)
    (session : Session) : Except OrderError Unit × Session :=
  if differs working.filledQty (brokerFilledQty row) then
    match session.call contexts (.setFilled
      { orderId := working.orderId
        filledQty := brokerFilledQty row
        reason := some "reconcile_fill_qty_sync" }) with
    | (.ok _, session) => (.ok (), session.corrected)
    | (.error raised, session) => (.error raised, session)
  else (.ok (), session)

def syncOrder (contexts : ℕ → CallContext) (internal : OrderRecord) (row : PyDict)
    (session : Session) : Except OrderError Unit × Session :=
  match syncState contexts internal row session with
  | (.error raised, session) => (.error raised, session)
  | (.ok working, session) => syncFill contexts working row session

def rejectMissing (contexts : ℕ → CallContext) (snapshot : Snapshot) (internal : OrderRecord)
    (session : Session) : Except OrderError Unit × Session :=
  if internal.state ∈ [.acknowledged, .partiallyFilled] ∧ snapshot.hasOpenPositions = true then
    (.ok (), session.corrected)
  else
    match moveToState contexts internal .rejected "reconcile_missing_broker_order" none none
      session with
    | (.ok _, session) => (.ok (), session.corrected)
    | (.error raised, session) => (.error raised, session)

/-- One turn of the loop over the listed orders; an error is logged and the loop goes on. -/
def reconcileOrder (contexts : ℕ → CallContext) (snapshot : Snapshot) (session : Session)
    (internal : OrderRecord) : Session :=
  let handled :=
    match snapshot.rowFor internal with
    | none => rejectMissing contexts snapshot internal session
    | some row => syncOrder contexts internal row session
  match handled with
  | (.ok (), after) => after
  | (.error raised, after) =>
      { after with errors := after.errors ++ [(internal.orderId, raised)] }

/-! ### One cycle -/

/-- `list_orders(include_terminal=False, limit)`. -/
def listOrders (limit : ℕ) (db : Database) : List OrderRecord :=
  let isOpen := db.orderStates.filter fun entry => !terminalStates.contains entry.2.state
  let latest := isOpen.insertionSort fun left right =>
    right.2.updatedAt.value.le left.2.updatedAt.value = true
  (latest.take limit).map fun entry => rowToRecord entry.1 entry.2

structure CycleResult where
  scannedOrders : ℕ
  corrections : ℕ
  errors : ℕ
  brokerOpenOrders : ℕ
  brokerPositions : ℕ

def applyCycle (contexts : ℕ → CallContext) (snapshot : Snapshot) (records : List OrderRecord)
    (db : Database) : Session :=
  records.foldl (reconcileOrder contexts snapshot) (.start db)

def runCycleOnce (contexts : ℕ → CallContext) (limit : ℕ) (answers : Option (PyValue × PyValue))
    (db : Database) : CycleResult × Session :=
  match answers with
  | none =>
      ({ scannedOrders := 0, corrections := 0, errors := 1, brokerOpenOrders := 0
         brokerPositions := 0 }, .start db)
  | some (rawOrders, rawPositions) =>
      let brokerOrders := fetchBrokerOrders rawOrders
      let brokerPositions := fetchBrokerPositionsSnapshot rawPositions
      let records := listOrders limit db
      let session := applyCycle contexts (.take brokerOrders brokerPositions) records db
      ({ scannedOrders := records.length
         corrections := session.corrections
         errors := session.errors.length
         brokerOpenOrders := brokerOrders.countP fun row =>
           openStatuses.contains (statusText (row.get "status"))
         brokerPositions := brokerPositions.length }, session)

end Algotradify.Orders.Reconciliation
