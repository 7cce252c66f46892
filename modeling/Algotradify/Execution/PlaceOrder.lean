/-
The placement of an order: the intent and the order are stored, the order is checked, sent
and submitted to the broker with retries, and what the broker answered is written to both
stores.

What each storage call meets, the clocks, and whether the performance tracker has disabled
the instrument are parameters of a call; a read of the intents does not fail. The hash is a
parameter too. The tracker's own records, the failure log, and the columns of an intent
that nothing reads are left out.
-/

import Algotradify.Execution.FailureRegister
import Algotradify.Execution.PretradeRisk

namespace Algotradify.Execution

open Py Sql Orders

/-! ### Intents -/

structure IntentRow where
  tradeId : Option String
  intentType : String
  symbol : String
  side : String
  qty : Int
  limitPrice : Option SqlReal
  status : String

abbrev IntentTable := Table String IntentRow

/-- `OrderIntent.compute_client_order_id`. -/
def computeClientOrderId (digest : String → String) (tradeId : Option String)
    (intentType symbol : String) (side : PyValue) : String :=
  digest ("|".intercalate
    [strip (tradeId.getD ""), upper (strip intentType), upper (strip symbol),
      upper (strip (printValue (side.or (.str ""))))])

/-- The status of a stored intent, as `get_intent` reads it. -/
def intentStatus (intents : IntentTable) (clientOrderId : String) : Option String :=
  let key := strip clientOrderId
  if key = "" then none
  else (intents.select key).map fun row => upper (if row.status = "" then "NEW" else row.status)

/-- `upsert_intent`, of an intent with its id. -/
def upsertIntent (failure : Option String) (clientOrderId : String) (row : IntentRow)
    (intents : IntentTable) : Except OrderError IntentTable :=
  match failure with
  | some message => .error (.operationalError message)
  | none =>
      .ok (intents.put (strip clientOrderId)
        { row with
          intentType := upper row.intentType
          symbol := upper row.symbol
          side := upper row.side
          status := upper row.status })

/-! ### The engine and its calls -/

/-- A hash prints as a text that is not empty and has no white space. -/
structure EngineConfig where
  digest : String → String
  digest_solid : ∀ text, digest text ≠ "" ∧
    ∀ char ∈ (digest text).toList, isSpace char = false
  failure : FailureConfig := {}
  pretrade : Pretrade.RiskConfig := {}

structure Engine where
  orders : Database
  intents : IntentTable
  decisions : Pretrade.Store
  failures : FailureState

def Engine.start : Engine :=
  { orders := .empty, intents := [], decisions := .empty, failures := .start }

/-- What a call meets: the contexts of its calls on the order database, the failures of its
writes of the intent and the clocks of the failures it registers, each in turn, its other
clocks, and the gate of its instrument. -/
structure Environment where
  orderCalls : ℕ → CallContext
  intentFailures : ℕ → Option String
  now : PyFloat
  pretradeClock : PyFloat
  decisionRecord : CallContext
  failureClock : ℕ → PyFloat
  instrumentDisabled : Bool

structure PlaceRequest where
  signalId : PyValue
  instrument : PyValue
  side : PyValue
  timestamp : PyValue
  orderId : Option String := none
  brokerOrderId : Option String := none
  submitOrderFn : Option (ℕ → Attempt) := none
  submitKwargs : Option PyDict := none
  riskContext : Option PyDict := none

inductive PlaceError where
  | python (raised : PyError)
  | storage (raised : OrderError)
  | submit (raised : Raised)

inductive Placement where
  | intentAlreadySubmitted (idempotencyKey clientOrderId : String)
  | duplicate (idempotencyKey : String) (order : OrderRecord)
  | riskRejected (idempotencyKey : String) (decision : Pretrade.RiskDecision) (order : OrderRecord)
  | deferred (idempotencyKey : String) (order : OrderRecord) (decision : Pretrade.RiskDecision)
  | instrumentDisabled (idempotencyKey : String) (order : OrderRecord)
  | submitError (idempotencyKey : String) (order : OrderRecord) (error : String)
  | brokerRejected (idempotencyKey : String) (order : OrderRecord) (response : PyValue)
  | placed (idempotencyKey clientOrderId : String) (order : OrderRecord) (response : PyValue)

/-- How a call ends, the state it leaves, and the attempts it made at the broker. -/
structure Placing where
  outcome : Except PlaceError Placement
  engine : Engine
  attempts : List Attempt

/-! ### Reading the request -/

/-- `build_idempotency_key`. -/
def buildIdempotencyKey (digest : String → String) (request : PlaceRequest) :
    Except PyError String :=
  let signalId := strip (printValue (request.signalId.or (.str "")))
  let instrument := strip (printValue (request.instrument.or (.str "")))
  let side := upper (strip (printValue (request.side.or (.str ""))))
  let timestamp :=
    strip (if request.timestamp.isNone then "" else printValue request.timestamp)
  if signalId = "" then .error (.valueError "missing_signal_id")
  else if instrument = "" then .error (.valueError "missing_instrument")
  else if side = "" then .error (.valueError "missing_side")
  else if timestamp = "" then .error (.valueError "missing_timestamp")
  else .ok (digest (signalId ++ instrument ++ side ++ timestamp))

/-- `_normalize_instrument`. -/
def normalizeInstrument (value : PyValue) : String :=
  Pretrade.normalizeName (printValue (value.or (.str "")))

def tradeIdOf (signalId : PyValue) : Option String :=
  blankToNone (strip (printValue (signalId.or (.str ""))))

/-- `_extract_requested_qty`: the first quantity that reads as a number above zero. -/
def extractRequestedQty (submitKwargs : Option PyDict) : Option PyFloat :=
  let data := submitKwargs.getD []
  ["quantity", "qty", "order_qty", "size"].findSome? fun key =>
    if data.contains key then
      (toFloat (data.get key)).toOption.filter fun quantity => PyFloat.lt (.finite 0) quantity
    else none

def limitPriceOf (submitKwargs : Option PyDict) : Option PyFloat :=
  let data := submitKwargs.getD []
  let raw := if (data.get "price").isNone then data.get "limit_price" else data.get "price"
  if raw.isNone then none else (toFloat raw).toOption

/-- `_pick_context_value`. -/
def pickContextValue (riskContext submitKwargs : Option PyDict) (keys : List String) : PyValue :=
  (keys.findSome? fun key =>
    if !((riskContext.getD []).get key).isNone then some ((riskContext.getD []).get key)
    else if !((submitKwargs.getD []).get key).isNone then some ((submitKwargs.getD []).get key)
    else none).getD .none

/-- The notional exposure: as given, or the price times the quantity, or the quantity. -/
def exposureOf (request : PlaceRequest) (quantity : PyFloat) : PyValue :=
  let pick := pickContextValue request.riskContext request.submitKwargs
  let given := pick ["exposure", "notional", "capital_at_risk"]
  if given.isNone then
    let price := Pretrade.toFloatOr
      (pick ["price", "limit_price", "ltp", "last_price", "entry_price"]) (.finite 0)
    .float (if PyFloat.lt (.finite 0) price && PyFloat.lt (.finite 0) quantity then
      price * quantity else quantity)
  else given

/-- `_build_pretrade_risk_inputs`. -/
def buildPretradeRiskInputs (env : Environment) (request : PlaceRequest)
    (requestedQty : Option PyFloat) : Except PyError (Pretrade.RiskRequest × PyDict) := do
  let pick := pickContextValue request.riskContext request.submitKwargs
  let quantity := clampQuantity (requestedQty.getD (.finite 0))
  let exposure := exposureOf request quantity
  let margin := pick ["margin_required", "required_margin"]
  let marginRequired := if margin.isNone then exposure else margin
  let exposureValue ← toFloat exposure
  let marginValue ← toFloat marginRequired
  let context : PyDict :=
    [("margin_available", pick ["margin_available", "available_margin", "free_margin"]),
      ("margin_required", marginRequired),
      ("current_exposure_by_instrument", pick ["current_exposure_by_instrument"]),
      ("daily_loss", pick ["daily_loss", "realized_daily_loss"]),
      ("daily_pnl", pick ["daily_pnl", "mtm_pnl"]),
      ("trades_last_minute", pick ["trades_last_minute"]),
      ("max_exposure_per_instrument", pick ["max_exposure_per_instrument"]),
      ("max_daily_loss", pick ["max_daily_loss"]),
      ("max_trades_per_minute", pick ["max_trades_per_minute"]),
      ("max_correlated_exposure", pick ["max_correlated_exposure"]),
      ("correlation_threshold", pick ["correlation_threshold"]),
      ("correlations", pick ["correlations"]),
      ("now_epoch", pick ["now_epoch"])]
  pure
    ({ signalId := strip (printValue (request.signalId.or (.str "")))
       instrument := normalizeInstrument request.instrument
       side := upper (strip (printValue (request.side.or (.str ""))))
       quantity := quantity
       timestamp := (toFloat request.timestamp).toOption.getD env.now
       exposure := exposureValue
       marginRequired := some marginValue },
      context.filter fun entry => !entry.2.isNone)

/-- `int(requested_qty or 0)`. -/
def wholeQuantity : Option PyFloat → Except PyError Int
  | some quantity => toInt (.float quantity)
  | none => .ok 0

def intentOf (request : PlaceRequest) (status : String) : Except PyError IntentRow := do
  let qty ← wholeQuantity (extractRequestedQty request.submitKwargs)
  pure
    { tradeId := tradeIdOf request.signalId
      intentType := "PLACE_ORDER"
      symbol := normalizeInstrument request.instrument
      side := upper (printValue (request.side.or (.str "")))
      qty := qty
      limitPrice := (limitPriceOf request.submitKwargs).bind SqlReal.bind
      status := status }

def orderIdOfKey (request : PlaceRequest) (idempotencyKey : String) : String :=
  match blankToNone (strip (request.orderId.getD "")) with
  | some orderId => orderId
  | none => "ord_" ++ String.ofList (idempotencyKey.toList.take 24)

def creationOf (request : PlaceRequest) (idempotencyKey : String) : CreateRequest :=
  { orderId := orderIdOfKey request idempotencyKey
    idempotencyKey := idempotencyKey
    instrument := some (normalizeInstrument request.instrument)
    side := if request.side.isNone then none else some (upper (printValue request.side))
    quantity := extractRequestedQty request.submitKwargs
    brokerOrderId := request.brokerOrderId }

/-! ### Up to the submission -/

/-- An order that was moved to `SENT`, with what the rest of its call needs. -/
structure SentOrder where
  engine : Engine
  idempotencyKey : String
  clientOrderId : String
  intent : IntentRow
  order : OrderRecord
  submit : ℕ → Attempt

structure Stopped where
  outcome : Except PlaceError Placement
  engine : Engine

def ended (engine : Engine) (outcome : Except PlaceError Placement) : Stopped ⊕ SentOrder :=
  .inl { outcome := outcome, engine := engine }

def moveOrder (context : CallContext) (orderId : String) (next : OrderState) (reason : String)
    (brokerOrderId : Option String) (engine : Engine) : Except OrderError (OrderRecord × Engine) :=
  (transition context
    { orderId := orderId
      nextState := next.value
      reason := some reason
      brokerOrderId := brokerOrderId } engine.orders).map fun result =>
    (result.1, { engine with orders := result.2 })

/-- A decision is recorded, and a failure to do so is logged only. -/
def recordQuietly (context : CallContext) (risk : Pretrade.RiskRequest) (accepted : Bool)
    (reasonCode orderId : String) (engine : Engine) : Engine :=
  { engine with
    decisions := (Pretrade.recordDecision context risk accepted reasonCode (some orderId)
      engine.decisions).toOption.getD engine.decisions }

def rejectByRisk (config : EngineConfig) (env : Environment) (request : PlaceRequest)
    (idempotencyKey : String) (risk : Pretrade.RiskRequest) (decision : Pretrade.RiskDecision)
    (order : OrderRecord) (engine : Engine) : Stopped ⊕ SentOrder :=
  let recorded := recordQuietly env.decisionRecord risk false decision.reasonCode order.orderId
    engine
  let counted :=
    { recorded with
      failures :=
        (registerFailure config.failure .riskLimit (env.failureClock 0) recorded.failures).1 }
  match moveOrder (env.orderCalls 1) order.orderId .rejected
      ("pretrade_reject:" ++ decision.reasonCode) request.brokerOrderId counted with
  | .error raised => ended counted (.error (.storage raised))
  | .ok (rejected, after) => ended after (.ok (.riskRejected idempotencyKey decision rejected))

/-- A created order: checked, and sent if there is a broker function and the instrument is
not disabled. -/
def sendOrder (config : EngineConfig) (env : Environment) (request : PlaceRequest)
    (idempotencyKey clientOrderId : String) (intent : IntentRow) (order : OrderRecord)
    (engine : Engine) : Stopped ⊕ SentOrder :=
  match buildPretradeRiskInputs env request (extractRequestedQty request.submitKwargs) with
  | .error raised => ended engine (.error (.python raised))
  | .ok (risk, context) =>
      let decision :=
        Pretrade.evaluate config.pretrade engine.decisions risk context env.pretradeClock
      if !decision.allowed then
        rejectByRisk config env request idempotencyKey risk decision order engine
      else
        match request.submitOrderFn with
        | none => ended engine (.ok (.deferred idempotencyKey order decision))
        | some submit =>
            if env.instrumentDisabled then
              match moveOrder (env.orderCalls 1) order.orderId .rejected
                  "instrument_temporarily_disabled" request.brokerOrderId engine with
              | .error raised => ended engine (.error (.storage raised))
              | .ok (rejected, after) =>
                  ended after (.ok (.instrumentDisabled idempotencyKey rejected))
            else
              match moveOrder (env.orderCalls 1) order.orderId .sent "order_sent"
                  request.brokerOrderId engine with
              | .error raised => ended engine (.error (.storage raised))
              | .ok (_, sent) =>
                  .inr
                    { engine :=
                        recordQuietly env.decisionRecord risk true "ACCEPTED" order.orderId sent
                      idempotencyKey := idempotencyKey
                      clientOrderId := clientOrderId
                      intent := intent
                      order := order
                      submit := submit }

def clientOrderIdOf (config : EngineConfig) (request : PlaceRequest) : String :=
  computeClientOrderId config.digest (tradeIdOf request.signalId) "PLACE_ORDER"
    (normalizeInstrument request.instrument) request.side

/-- `place_order` up to the submission to the broker. -/
def beforeSubmit (config : EngineConfig) (env : Environment) (request : PlaceRequest)
    (engine : Engine) : Stopped ⊕ SentOrder :=
  match buildIdempotencyKey config.digest request with
  | .error raised => ended engine (.error (.python raised))
  | .ok idempotencyKey =>
      let clientOrderId := clientOrderIdOf config request
      if (intentStatus engine.intents clientOrderId).any (["SUBMITTED", "FILLED"].contains ·) then
        ended engine (.ok (.intentAlreadySubmitted idempotencyKey clientOrderId))
      else
        match intentOf request "NEW" with
        | .error raised => ended engine (.error (.python raised))
        | .ok intent =>
            match upsertIntent (env.intentFailures 0) clientOrderId intent engine.intents with
            | .error raised => ended engine (.error (.storage raised))
            | .ok intents =>
                let stored := { engine with intents := intents }
                match createOrGetOrder (env.orderCalls 0) (creationOf request idempotencyKey)
                    stored.orders with
                | .error raised => ended stored (.error (.storage raised))
                | .ok ((order, created), db) =>
                    let known := { stored with orders := db }
                    if !created then ended known (.ok (.duplicate idempotencyKey order))
                    else sendOrder config env request idempotencyKey clientOrderId intent order known

/-! ### The submission -/

def brokerIdOf (request : PlaceRequest) (response : PyValue) : Option String :=
  let value := (response.asDict.get "broker_order_id").or (response.asDict.get "order_id")
  if value.truthy then some (printValue value) else request.brokerOrderId

def explicitReject (response : PyValue) : Bool :=
  let status := upper (strip (printValue
    (((response.asDict.get "status").or (response.asDict.get "order_status")).or (.str ""))))
  response.isDict &&
    ((response.asDict.get "rejected").truthy || ["REJECTED", "FAILED"].contains status)

/-- `part in text`. -/
def containsText (text part : String) : Bool :=
  text.toList.tails.any fun rest => part.toList.isPrefixOf rest

def Raised.isKillSwitch (raised : Raised) : Bool :=
  raised.isRuntimeError && containsText raised.text killSwitchMarker

def finish (engine : Engine) (attempts : List Attempt) (outcome : Except PlaceError Placement) :
    Placing :=
  { outcome := outcome, engine := engine, attempts := attempts }

def writeIntent (env : Environment) (sent : SentOrder) (status : String) (engine : Engine) :
    Except OrderError Engine :=
  (upsertIntent (env.intentFailures 1) sent.clientOrderId { sent.intent with status := status }
    engine.intents).map fun intents => { engine with intents := intents }

/-- After the loop has raised: the intent is rejected, and so is the order, except that a
kill switch is raised again. -/
def settleError (env : Environment) (sent : SentOrder) (raised : Raised) (engine : Engine)
    (attempts : List Attempt) : Placing :=
  match writeIntent env sent "REJECTED" engine with
  | .error storage => finish engine attempts (.error (.storage storage))
  | .ok written =>
      if raised.isKillSwitch then finish written attempts (.error (.submit raised))
      else
        match moveOrder (env.orderCalls 2) sent.order.orderId .rejected
            ("submit_error:" ++ raised.typeName) none written with
        | .error storage => finish written attempts (.error (.storage storage))
        | .ok (rejected, after) =>
            finish after attempts (.ok (.submitError sent.idempotencyKey rejected raised.text))

def settleReject (config : EngineConfig) (env : Environment) (request : PlaceRequest)
    (sent : SentOrder) (response : PyValue) (engine : Engine) (attempts : List Attempt) : Placing :=
  match writeIntent env sent "REJECTED" engine with
  | .error storage => finish engine attempts (.error (.storage storage))
  | .ok written =>
      let registered := registerFailure config.failure .brokerReject
        (env.failureClock (attempts.length - 1)) written.failures
      let counted := { written with failures := registered.1 }
      match registered.2 with
      | some reason => finish counted attempts (.error (.submit (killSwitchError reason)))
      | none =>
          match moveOrder (env.orderCalls 2) sent.order.orderId .rejected "broker_rejected"
              (brokerIdOf request response) counted with
          | .error storage => finish counted attempts (.error (.storage storage))
          | .ok (rejected, after) =>
              finish after attempts (.ok (.brokerRejected sent.idempotencyKey rejected response))

/-- After any other answer: the order is acknowledged, and then the intent is submitted. -/
def settleAccept (env : Environment) (request : PlaceRequest) (sent : SentOrder)
    (response : PyValue) (engine : Engine) (attempts : List Attempt) : Placing :=
  match moveOrder (env.orderCalls 2) sent.order.orderId .acknowledged "broker_acknowledged"
      (brokerIdOf request response) engine with
  | .error storage => finish engine attempts (.error (.storage storage))
  | .ok (acknowledged, moved) =>
      match writeIntent env sent "SUBMITTED" moved with
      | .error storage => finish moved attempts (.error (.storage storage))
      | .ok after =>
          finish after attempts
            (.ok (.placed sent.idempotencyKey sent.clientOrderId acknowledged response))

def SentOrder.submission (config : EngineConfig) (env : Environment) (sent : SentOrder) :
    Submission :=
  executeWithNetworkRetry config.failure sent.submit env.failureClock sent.engine.failures

/-- `place_order` from the submission on. -/
def submitOrder (config : EngineConfig) (env : Environment) (request : PlaceRequest)
    (sent : SentOrder) : Placing :=
  let loop := sent.submission config env
  let engine := { sent.engine with failures := loop.failures }
  match loop.outcome with
  | .error raised => settleError env sent raised engine loop.attempts
  | .ok response =>
      if explicitReject response then
        settleReject config env request sent response engine loop.attempts
      else settleAccept env request sent response engine loop.attempts

def placeOrder (config : EngineConfig) (env : Environment) (request : PlaceRequest)
    (engine : Engine) : Placing :=
  match beforeSubmit config env request engine with
  | .inl stopped => finish stopped.engine [] stopped.outcome
  | .inr sent => submitOrder config env request sent

end Algotradify.Execution
