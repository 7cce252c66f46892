/-
The bridge from a selected candidate to a paper order intent.

The identifier of an intent is a digest of its candidate and its timestamp.
-/

import Algotradify.Paper.Common

namespace Algotradify.Paper.IntentBridge

open Py

structure PaperOrderIntent where
  paperOrderIntentId : String
  candidateId : String
  symbol : Option String := none
  tradingsymbol : Option String := none
  instrumentToken : Option String := none
  transactionType : Option String := none
  quantity : Option Int := none
  orderType : Option String := none
  product : Option String := none
  price : Option PyFloat := none
  triggerPrice : Option PyFloat := none
  strategy : Option String := none
  qualityScore : Option PyFloat := none
  createdAtEpoch : Option PyFloat := none
  source : String := "paper_order_intent_bridge"
  candidateSnapshot : PyDict := []
  readinessSnapshot : PyDict := []
  marketDataSnapshot : PyDict := []
  instrumentHealthSnapshot : PyDict := []
  safetyDecisionSnapshot : PyDict := []
deriving Repr

def PaperOrderIntent.toDict (intent : PaperOrderIntent) : PyDict :=
  [("schema_version", .str "1.0"),
    ("intent_type", .str "PAPER_ORDER_INTENT"),
    ("paper_order_intent_id", .str intent.paperOrderIntentId),
    ("candidate_id", .str intent.candidateId),
    ("status", .str "PAPER_INTENT_READY"),
    ("execution_mode", .str "PAPER")] ++ safeFlags ++
    [("symbol", ofOptionString intent.symbol),
    ("tradingsymbol", ofOptionString intent.tradingsymbol),
    ("instrument_token", ofOptionString intent.instrumentToken),
    ("transaction_type", ofOptionString intent.transactionType),
    ("quantity", ofOptionInt intent.quantity),
    ("order_type", ofOptionString intent.orderType),
    ("product", ofOptionString intent.product),
    ("price", ofOptionFloat intent.price),
    ("trigger_price", ofOptionFloat intent.triggerPrice),
    ("strategy", ofOptionString intent.strategy),
    ("quality_score", ofOptionFloat intent.qualityScore),
    ("created_at_epoch", ofOptionFloat intent.createdAtEpoch),
    ("source", .str intent.source),
    ("candidate_snapshot", .dict intent.candidateSnapshot),
    ("readiness_snapshot", .dict intent.readinessSnapshot),
    ("market_data_snapshot", .dict intent.marketDataSnapshot),
    ("instrument_health_snapshot", .dict intent.instrumentHealthSnapshot),
    ("safety_decision_snapshot", .dict intent.safetyDecisionSnapshot)]

structure PaperOrderIntentResult where
  created : Bool
  intent : Option PaperOrderIntent := none
  blockers : List String := []
  warnings : List String := []
  evidence : PyDict := []
deriving Repr

structure IntentInput where
  topExecutable : PyValue
  executionSafety : PyValue
  readiness : PyValue := .none
  marketData : PyValue := .none
  instrumentHealth : PyValue := .none
  tsEpoch : Option PyFloat := none

/-- `BLOCKING_CONTEXT_STATUSES`. -/
def blockingContextStatuses : List String :=
  ["BLOCKED", "BLOCKED_PRE_OPEN", "BLOCKED_CLOSING", "BLOCKED_CLOSED",
    "BLOCKED_EXPIRED_CONTRACT", "BLOCKED_INVALID_EXPIRY", "BLOCKED_MISSING_CONTEXT",
    "BLOCKED_UNRESOLVED", "BLOCKED_MISSING_SPOT", "BLOCKED_STALE_SPOT",
    "BLOCKED_FALLBACK_SOURCE", "BLOCKED_MISSING_OPTION_CHAIN", "BLOCKED_STALE_OPTION_CHAIN",
    "BLOCKED_SESSION_CLOSED", "BLOCKED_MISSING_SIDE", "BLOCKED_ZERO_SIDE",
    "BLOCKED_SHALLOW_DEPTH", "BLOCKED_STALE_DEPTH", "BLOCKED_DEPTH_IMBALANCE", "EMPTY"]

/-! ### Validation -/

/-- `_selected`: the nonempty selected payload of a selection, no payload else. -/
def selected (topExecutable : PyValue) : PyDict :=
  if (topExecutable.asDict.get "status").isStr "SELECTED" then
    (topExecutable.asDict.get "selected").asDict
  else []

def readOnlySnapshotBlockers (snapshot : PyDict) (snapshotName : String) :
    List String × List String :=
  if snapshot.isEmpty then ([], [snapshotName ++ "_SNAPSHOT_MISSING"])
  else
    (blockerIf (!(snapshot.get "is_order_action").isFalse) (snapshotName ++ "_ORDER_FLAG_UNSAFE") ++
      blockerIf (snapshot.get "broker_api_called").isTrue (snapshotName ++ "_BROKER_API_CALLED") ++
      blockerIf (!(snapshot.get "real_order_id").isNoneOrEmpty)
        (snapshotName ++ "_REAL_ORDER_ID_PRESENT"), [])

def contextStatusBlockers (snapshot : PyDict) (snapshotName : String) : List String × List String :=
  if snapshot.isEmpty then ([], [])
  else
    let status := upperText (snapshot.get "status")
    if blockingContextStatuses.contains status || startsWith status "BLOCKED" then
      ([snapshotName ++ "_BLOCKED"], [])
    else ([], blockerIf (startsWith status "DEGRADED") (snapshotName ++ "_DEGRADED"))

def readinessBlockers (readiness : PyDict) : Except PyError (List String × List String) :=
  if readiness.isEmpty then .ok ([], [])
  else do
    let status := readiness.get "readiness_status"
    let blockers ← toItems ((readiness.get "blockers").or (.list []))
    let warnings ← toItems ((readiness.get "warnings").or (.list []))
    pure (blockerIf (readiness.get "resolved").isFalse "READINESS_UNRESOLVED" ++
        blockerIf (status.truthy && startsWith (upper (printValue status)) "BLOCKED")
          "READINESS_BLOCKED" ++
        blockers.map printValue,
      blockerIf (readiness.get "fallback_used").isTrue "READINESS_FALLBACK_USED" ++
        warnings.map printValue)

def selectionBlockers (selected : PyDict) : List String :=
  if selected.isEmpty then ["NO_SELECTED_EXECUTABLE_CANDIDATE"]
  else blockerIf (!(selected.get "is_order").isFalse) "SELECTED_CANDIDATE_ORDER_FLAG_UNSAFE"

def executionSafetyBlockers (executionSafety : PyDict) : List String :=
  if executionSafety.isEmpty then ["EXECUTION_SAFETY_REQUIRED"]
  else
    blockerIf (!(executionSafety.get "execution_permitted").isTrue)
        "EXECUTION_SAFETY_NOT_PERMITTED" ++
      blockerIf (!(executionSafety.get "is_order_action").isFalse)
        "EXECUTION_SAFETY_ORDER_FLAG_UNSAFE"

def validatePaperOrderIntent (input : IntentInput) :
    Except PyError (List String × List String) := do
  let selected := selected input.topExecutable
  let reports :=
    [readOnlySnapshotBlockers input.readiness.asDict "READINESS",
      readOnlySnapshotBlockers input.marketData.asDict "MARKET_DATA",
      readOnlySnapshotBlockers input.instrumentHealth.asDict "INSTRUMENT_HEALTH",
      contextStatusBlockers input.marketData.asDict "MARKET_DATA",
      contextStatusBlockers input.instrumentHealth.asDict "INSTRUMENT_HEALTH"]
  let ofReadiness ← readinessBlockers input.readiness.asDict
  pure (dedupe (selectionBlockers selected ++
      executionSafetyBlockers input.executionSafety.asDict ++
      reports.flatMap Prod.fst ++ ofReadiness.1 ++
      blockerIf (selected.get "candidate_id").isNoneOrEmpty "CANDIDATE_ID_REQUIRED"),
    dedupe (reports.flatMap Prod.snd ++ ofReadiness.2))

def evidenceSnapshot (input : IntentInput) : PyDict :=
  [("top_executable_status", input.topExecutable.asDict.get "status"),
    ("execution_safety_status", input.executionSafety.asDict.get "status"),
    ("readiness_status", (input.readiness.asDict.get "readiness_status").or
      (input.readiness.asDict.get "status")),
    ("market_data_status", input.marketData.asDict.get "status"),
    ("instrument_health_status", input.instrumentHealth.asDict.get "status")] ++ safeFlags

/-! ### The intent -/

/-- `str(ts_epoch or "")`: a timestamp of zero prints like an absent one. -/
def printTimestamp (tsEpoch : Option PyFloat) : String :=
  match tsEpoch with
  | some ts => if ts.truthy then printFloat ts else ""
  | none => ""

def intentSeed (candidateId : String) (tsEpoch : Option PyFloat) : String :=
  candidateId ++ "|" ++ printTimestamp tsEpoch

def stablePaperOrderIntentId (digest : String → String) (candidateId : String)
    (tsEpoch : Option PyFloat) : String :=
  "paper-" ++ digest (intentSeed candidateId tsEpoch)

def strOrNone (value : PyValue) : Option String :=
  if value.isNoneOrEmpty then none else some (printValue value)

def selectedSide (selected : PyDict) : Option String :=
  strOrNone ((selected.get "transaction_type").or (selected.get "side"))

def selectedQuantity (selected : PyDict) : Except PyError (Option Int) :=
  intOrNone ((selected.get "quantity").or (selected.get "qty"))

def buildPaperOrderIntent (digest : String → String) (input : IntentInput) :
    Except PyError PaperOrderIntentResult := do
  let (blockers, warnings) ← validatePaperOrderIntent input
  let evidence := evidenceSnapshot input
  if blockers ≠ [] then
    pure { created := false, blockers := blockers, warnings := warnings, evidence := evidence }
  else
    let selected := selected input.topExecutable
    let candidateId := printValue (selected.get "candidate_id")
    let quantity ← selectedQuantity selected
    let readiness ← toDict (input.readiness.or (.dict []))
    let marketData ← toDict (input.marketData.or (.dict []))
    let instrumentHealth ← toDict (input.instrumentHealth.or (.dict []))
    let executionSafety ← toDict (input.executionSafety.or (.dict []))
    let intent : PaperOrderIntent :=
      { paperOrderIntentId := stablePaperOrderIntentId digest candidateId input.tsEpoch
        candidateId := candidateId
        symbol := strOrNone ((selected.get "symbol").or (selected.get "underlying"))
        tradingsymbol := strOrNone ((selected.get "tradingsymbol").or (selected.get "symbol"))
        instrumentToken := strOrNone (selected.get "instrument_token")
        transactionType := selectedSide selected
        quantity := quantity
        orderType := strOrNone (selected.get "order_type")
        product := strOrNone (selected.get "product")
        price := floatOrNone (((selected.get "price").or (selected.get "entry")).or
          (selected.get "entry_price"))
        triggerPrice := floatOrNone (((selected.get "trigger_price").or (selected.get "stop")).or
          (selected.get "stop_loss"))
        strategy := strOrNone (((selected.get "strategy").or (selected.get "strategy_id")).or
          (selected.get "setup_family"))
        qualityScore := floatOrNone ((selected.get "quality_score").or (selected.get "score"))
        createdAtEpoch := input.tsEpoch
        candidateSnapshot := selected
        readinessSnapshot := readiness
        marketDataSnapshot := marketData
        instrumentHealthSnapshot := instrumentHealth
        safetyDecisionSnapshot := executionSafety }
    pure { created := true, intent := some intent, warnings := warnings, evidence := evidence }

end Algotradify.Paper.IntentBridge
