/-
The state reducer: valid events, applied in the order given, rebuild the orders,
the positions and the analytics rows of a paper account.

An order is addressed by the first id its event carries, and an order event
replaces the entry of its order.
-/

import Algotradify.Paper.Events

namespace Algotradify.Paper.StateReducer

open Py Events

inductive PaperStateReducerStatus where
  | reduced
  | empty
  | blocked
deriving DecidableEq, Repr

/-- `ORDER_EVENT_STATUS`. -/
def orderEventStatus : List (String × String) :=
  [("PAPER_ORDER_INTENT_CREATED", "INTENT_CREATED"), ("PAPER_ORDER_ACCEPTED", "ACCEPTED"),
    ("PAPER_ORDER_REJECTED", "REJECTED"), ("PAPER_ORDER_OPENED", "OPEN"),
    ("PAPER_ORDER_PARTIALLY_FILLED", "PARTIALLY_FILLED"), ("PAPER_ORDER_FILLED", "FILLED"),
    ("PAPER_ORDER_CANCELLED", "CANCELLED"), ("PAPER_ORDER_EXPIRED", "EXPIRED")]

/-- `POSITION_EVENT_TYPES`. -/
def positionEventTypes : List String :=
  ["PAPER_POSITION_OPENED", "PAPER_POSITION_INCREASED", "PAPER_POSITION_REDUCED",
    "PAPER_POSITION_CLOSED", "PAPER_POSITION_REVERSED"]

inductive AnalyticsBucket where
  | pnlMarks
  | slippageMeasurements
  | performanceSnapshots
deriving DecidableEq, Repr

/-- `ANALYTICS_EVENT_BUCKETS`. -/
def analyticsEventBuckets : List (String × AnalyticsBucket) :=
  [("PAPER_PNL_MARKED", .pnlMarks), ("PAPER_SLIPPAGE_MEASURED", .slippageMeasurements),
    ("PAPER_PERFORMANCE_SNAPSHOT_CREATED", .performanceSnapshots)]

/-- `TERMINAL_ORDER_STATUSES`. -/
def terminalOrderStatuses : List String := ["REJECTED", "FILLED", "CANCELLED", "EXPIRED"]

/-! ### The reduced state -/

structure ReducedOrder where
  paperOrderId : Option String
  paperOrderIntentId : Option String
  candidateId : Option String
  strategyId : Option String
  status : String
  filledQuantity : Int
  remainingQuantity : Option Int
  averageFillPrice : Option PyFloat
  lastEventId : Option String
  lastUpdateEpoch : Option PyFloat
  payload : PyDict
deriving Repr

def ReducedOrder.terminal (order : ReducedOrder) : Bool :=
  terminalOrderStatuses.contains order.status

structure ReducedPosition where
  positionKey : Option String
  candidateId : PyValue
  strategyId : PyValue
  symbol : PyValue
  tradingsymbol : PyValue
  instrumentToken : PyValue
  netQuantity : Option Int
  side : String
  averageEntryPrice : Option PyFloat
  lastFillPrice : Option PyFloat
  lastEventType : Option String
  lastEventId : Option String
  lastUpdateEpoch : Option PyFloat
  payload : PyDict
deriving Repr

structure AnalyticsRow where
  eventId : Option String
  cycleId : Option String
  candidateId : Option String
  strategyId : Option String
  tsEpoch : Option PyFloat
  payload : PyValue
deriving Repr

structure EventReference where
  eventId : Option String
  cycleId : Option String
  eventSequence : Option Int
  eventType : Option String
  tsEpoch : Option PyFloat
  idempotencyKey : Option String
deriving DecidableEq, Repr

structure StateSummary where
  eventCount : Int := 0
  orderCount : Int := 0
  openOrderCount : Int := 0
  terminalOrderCount : Int := 0
  positionCount : Int := 0
  openPositionCount : Int := 0
  flatPositionCount : Int := 0
  pnlMarkCount : Int := 0
  slippageMeasurementCount : Int := 0
  performanceSnapshotCount : Int := 0
deriving DecidableEq, Repr

/-- The initial values are those of `_empty_state`. -/
structure PaperReducedState where
  orders : List (String × ReducedOrder) := []
  positions : List (Option String × ReducedPosition) := []
  pnlMarks : List AnalyticsRow := []
  slippageMeasurements : List AnalyticsRow := []
  performanceSnapshots : List AnalyticsRow := []
  appliedEventIds : List (Option String) := []
  appliedIdempotencyKeys : List (Option String) := []
  lastEvent : Option EventReference := none
  summary : StateSummary := {}
deriving Repr

structure PaperStateReducerResult where
  reduced : Bool
  status : PaperStateReducerStatus
  state : PaperReducedState := {}
  blockers : List String := []
  warnings : List String := []
deriving Repr

/-! ### Reading an event -/

/-- `_first_int`. -/
def firstInt : List PyValue → Except PyError (Option Int)
  | [] => .ok none
  | value :: rest => do
      match ← intOrNone value with
      | some number => pure (some number)
      | none => firstInt rest

/-- `_first_float`. -/
def firstFloat (values : List PyValue) : Option PyFloat :=
  values.findSome? floatOrNone

def firstText (values : List PyValue) : Option String :=
  (values.find? fun value => !value.isNoneOrEmpty).map printValue

def orderKey (event : NormalizedEvent) : String :=
  (firstText [ofOptionString event.paperOrderId, ofOptionString event.paperOrderIntentId,
    ofOptionString event.eventId]).getD "UNKNOWN_PAPER_ORDER"

def positionKey (event : NormalizedEvent) : Option String :=
  let payload := event.payload.asDict
  firstText [payload.get "position_key", payload.get "instrument_token",
    payload.get "tradingsymbol", payload.get "symbol", ofOptionString event.paperOrderId,
    ofOptionString event.candidateId]

def side (netQuantity : Int) : String :=
  if netQuantity > 0 then "LONG" else if netQuantity < 0 then "SHORT" else "FLAT"

/-- `payload.get(key, default)`. -/
def getOr (payload : PyDict) (key : String) (default : PyValue) : PyValue :=
  if payload.contains key then payload.get key else default

def eventTypeText (event : NormalizedEvent) : String :=
  printValue (ofOptionString event.eventType)

def eventReference (event : NormalizedEvent) : EventReference :=
  { eventId := event.eventId
    cycleId := event.cycleId
    eventSequence := event.eventSequence
    eventType := event.eventType
    tsEpoch := event.tsEpoch
    idempotencyKey := event.idempotencyKey }

/-! ### Applying an event -/

def reducedOrder (existing : Option ReducedOrder) (event : NormalizedEvent) (status : String) :
    Except PyError ReducedOrder := do
  let payload := event.payload.asDict
  let filledQuantity ← firstInt
    [payload.get "filled_quantity", payload.get "cumulative_filled_quantity",
      if status = "FILLED" then payload.get "quantity" else .none,
      ofOptionInt (existing.map ReducedOrder.filledQuantity)]
  let remainingQuantity ← firstInt
    [payload.get "remaining_quantity", ofOptionInt (existing.bind ReducedOrder.remainingQuantity)]
  pure
    { paperOrderId := event.paperOrderId
      paperOrderIntentId := event.paperOrderIntentId
      candidateId := event.candidateId
      strategyId := event.strategyId
      status := status
      filledQuantity := filledQuantity.getD 0
      remainingQuantity := remainingQuantity
      averageFillPrice := firstFloat [payload.get "average_fill_price", payload.get "fill_price",
        ofOptionFloat (existing.bind ReducedOrder.averageFillPrice)]
      lastEventId := event.eventId
      lastUpdateEpoch := event.tsEpoch
      payload := payload }

def applyOrderEvent (state : PaperReducedState) (event : NormalizedEvent) (status : String) :
    Except PyError PaperReducedState := do
  let order ← reducedOrder (state.orders.lookup (orderKey event)) event status
  pure { state with orders := Assoc.set state.orders (orderKey event) order }

def applyPositionEvent (state : PaperReducedState) (event : NormalizedEvent) :
    Except PyError PaperReducedState := do
  let payload := event.payload.asDict
  let netQuantity ← firstInt [payload.get "net_quantity",
    if event.eventType = some "PAPER_POSITION_CLOSED" then .int 0 else .none]
  let averageEntryPrice :=
    firstFloat [payload.get "average_entry_price", payload.get "avg_entry_price"]
  pure
    { state with
      positions := Assoc.set state.positions (positionKey event)
        { positionKey := positionKey event
          candidateId := getOr payload "candidate_id" (ofOptionString event.candidateId)
          strategyId := getOr payload "strategy_id" (ofOptionString event.strategyId)
          symbol := payload.get "symbol"
          tradingsymbol := payload.get "tradingsymbol"
          instrumentToken := payload.get "instrument_token"
          netQuantity := netQuantity
          side := side (netQuantity.getD 0)
          averageEntryPrice := if netQuantity ≠ some 0 then averageEntryPrice else none
          lastFillPrice := firstFloat [payload.get "last_fill_price", payload.get "fill_price"]
          lastEventType := event.eventType
          lastEventId := event.eventId
          lastUpdateEpoch := event.tsEpoch
          payload := payload } }

def applyAnalyticsEvent (state : PaperReducedState) (event : NormalizedEvent)
    (bucket : AnalyticsBucket) : PaperReducedState :=
  let row : AnalyticsRow :=
    { eventId := event.eventId
      cycleId := event.cycleId
      candidateId := event.candidateId
      strategyId := event.strategyId
      tsEpoch := event.tsEpoch
      payload := event.payload.or (.dict []) }
  match bucket with
  | .pnlMarks => { state with pnlMarks := state.pnlMarks ++ [row] }
  | .slippageMeasurements =>
      { state with slippageMeasurements := state.slippageMeasurements ++ [row] }
  | .performanceSnapshots =>
      { state with performanceSnapshots := state.performanceSnapshots ++ [row] }

def dispatchEvent (state : PaperReducedState) (event : NormalizedEvent) :
    Except PyError (PaperReducedState × List String) := do
  let eventType := eventTypeText event
  match orderEventStatus.lookup eventType with
  | some status => pure (← applyOrderEvent state event status, [])
  | none =>
      if positionEventTypes.contains eventType then pure (← applyPositionEvent state event, [])
      else
        match analyticsEventBuckets.lookup eventType with
        | some bucket => pure (applyAnalyticsEvent state event bucket, [])
        | none => pure (state, ["PAPER_REDUCER_EVENT_TYPE_IGNORED:" ++ eventType])

/-- One turn of the loop of `reduce_paper_events`. -/
def reduceEvent (current : PaperReducedState × List String) (event : NormalizedEvent) :
    Except PyError (PaperReducedState × List String) := do
  let (state, warnings) ← dispatchEvent current.1 event
  pure
    ({ state with
      appliedEventIds := state.appliedEventIds ++ [event.eventId]
      appliedIdempotencyKeys := state.appliedIdempotencyKeys ++ [event.idempotencyKey]
      lastEvent := some (eventReference event) }, current.2 ++ warnings)

def buildSummary (state : PaperReducedState) : StateSummary :=
  let terminalOrderCount : Int := state.orders.countP fun entry => entry.2.terminal
  let openPositionCount : Int :=
    state.positions.countP fun entry => entry.2.netQuantity.getD 0 != 0
  { eventCount := state.appliedEventIds.length
    orderCount := state.orders.length
    openOrderCount := state.orders.length - terminalOrderCount
    terminalOrderCount := terminalOrderCount
    positionCount := state.positions.length
    openPositionCount := openPositionCount
    flatPositionCount := state.positions.length - openPositionCount
    pnlMarkCount := state.pnlMarks.length
    slippageMeasurementCount := state.slippageMeasurements.length
    performanceSnapshotCount := state.performanceSnapshots.length }

/-! ### The reducer -/

def netQuantityMissing (event : NormalizedEvent) : Except PyError Bool :=
  if event.eventType = some "PAPER_POSITION_CLOSED" then .ok false
  else do
    let netQuantity ← firstInt [event.payload.asDict.get "net_quantity"]
    pure netQuantity.isNone

def validatePositionEvent (index : Nat) (event : NormalizedEvent) :
    Except PyError (List String) := do
  let missing ← netQuantityMissing event
  pure (blockerIf (isBlank (positionKey event))
      (eventBlocker index "PAPER_REDUCER_POSITION_KEY_REQUIRED") ++
    blockerIf missing (eventBlocker index "PAPER_REDUCER_POSITION_NET_QUANTITY_REQUIRED"))

def positionBlockers (index : Nat) (event : NormalizedEvent) : Except PyError (List String) :=
  if positionEventTypes.contains (eventTypeText event) then validatePositionEvent index event
  else .ok []

structure ReducerSeen where
  eventIds : List String := []
  idempotencyKeys : List String := []
deriving Repr

/-- What the reducer asks of a valid event after the rows it has kept. -/
def reducerCheck (index : Nat) (event : NormalizedEvent) (seen : ReducerSeen) :
    Except PyError (List String × ReducerSeen) := do
  let eventId := printValue (ofOptionString event.eventId)
  let idempotencyKey := printValue (ofOptionString event.idempotencyKey)
  let ofPosition ← positionBlockers index event
  pure
    (blockerIf (seen.eventIds.contains eventId)
        (eventBlocker index "PAPER_REDUCER_DUPLICATE_EVENT_ID") ++
      blockerIf (seen.idempotencyKeys.contains idempotencyKey)
        (eventBlocker index "PAPER_REDUCER_DUPLICATE_IDEMPOTENCY_KEY") ++
      ofPosition,
    { eventIds := seen.eventIds ++ [eventId]
      idempotencyKeys := seen.idempotencyKeys ++ [idempotencyKey] })

def validatePaperStateReducerInputs (events : PyValue) :
    Except PyError (List String × List NormalizedEvent) :=
  match events with
  | .none => .ok (["PAPER_REDUCER_EVENTS_REQUIRED"], [])
  | .list rows => do
      let scan ← scanEvents reducerCheck {} rows
      pure (dedupe scan.blockers, if scan.blockers = [] then scan.normalizedEvents else [])
  | _ => .ok (["PAPER_REDUCER_EVENTS_MUST_BE_LIST"], [])

def reducePaperEvents (events : PyValue) : Except PyError PaperStateReducerResult := do
  let (blockers, normalizedEvents) ← validatePaperStateReducerInputs events
  if blockers ≠ [] then pure { reduced := false, status := .blocked, blockers := blockers }
  else if normalizedEvents.isEmpty then
    pure { reduced := true, status := .empty, warnings := ["PAPER_REDUCER_EMPTY_EVENT_LIST"] }
  else
    let (state, warnings) ← normalizedEvents.foldlM reduceEvent ({}, [])
    pure
      { reduced := true
        status := .reduced
        state := { state with summary := buildSummary state }
        warnings := dedupe warnings }

end Algotradify.Paper.StateReducer
