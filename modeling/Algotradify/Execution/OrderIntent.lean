/-
Fields of untyped records, as the execution contracts read them.

The contracts carry private copies of these helpers. The copies agree, so each is modelled
once and the contracts share it.

Order intents: a selected candidate and an execution safety decision become one order that
nobody has sent.
-/

import Algotradify.Dedup.Firsts
import Algotradify.Paper.Common

namespace Algotradify.Execution

open Py

/-- `_selected`: the selected candidate of a top executable. -/
def topSelected (topExecutable : Option PyDict) : Option PyDict :=
  match topExecutable with
  | none => none
  | some top =>
      if !(PyDict.get top "status").isStr "SELECTED" then none
      else
        match PyDict.get top "selected" with
        | .dict selected => if selected.isEmpty then none else some selected
        | _ => none

def givenDict (entries : Option PyDict) : Option PyDict :=
  entries.filter fun entries => !entries.isEmpty

/-- `entries.get(key) if isinstance(entries, dict) else None`. -/
def fieldOf (entries : Option PyDict) (key : String) : PyValue :=
  match entries with
  | none => .none
  | some entries => PyDict.get entries key

/-- `entries.get(key, {})`, when it is to be asked for a field. -/
def nestedDict (entries : PyDict) (key : String) : Except PyError PyDict :=
  match entries.lookup key with
  | none => .ok []
  | some (.dict nested) => .ok nested
  | some _ => .error (.runtimeError "object has no attribute 'get'")

/-- `entries.get(first) or entries.get(second) or ...`. -/
def firstOf (entries : PyDict) (keys : List String) : PyValue :=
  keys.foldl (fun found key => found.or (PyDict.get entries key)) .none

/-- `_str_or_none`. -/
def strOrNone (value : PyValue) : Option String :=
  if value.isNoneOrEmpty then none else some (printValue value)

/-- `_normalized_choice`. -/
def normalizedChoice (value : PyValue) (allowed : List String) : Option String :=
  if value.isNoneOrEmpty then none
  else if upper (printValue value) ∈ allowed then some (upper (printValue value))
  else none

theorem mem_of_normalizedChoice {value : PyValue} {allowed : List String} {choice : String}
    (chosen : normalizedChoice value allowed = some choice) : choice ∈ allowed := by
  unfold normalizedChoice at chosen
  split at chosen
  · cases chosen
  · split at chosen
    · next member => exact Option.some.inj chosen ▸ member
    · cases chosen

theorem normalizedChoice_str {choice : String} {allowed : List String} (member : choice ∈ allowed)
    (written : choice ≠ "") (raised : upper choice = choice) :
    normalizedChoice (.str choice) allowed = some choice := by
  have given : (PyValue.str choice).isNoneOrEmpty = false := by
    rw [Bool.eq_false_iff, ne_eq, PyValue.isNoneOrEmpty_eq_true]
    simp [written]
  unfold normalizedChoice
  simp only [given, Bool.false_eq_true, if_false, printValue, raised, member, if_true]

/-! ### The intent -/

open Dedup

open Paper (intOrNone floatOrNone)

/-- `SUPPORTED_TRANSACTION_TYPES`. -/
def supportedTransactionTypes : List String := ["BUY", "SELL"]

/-- `SUPPORTED_ORDER_TYPES`. -/
def supportedOrderTypes : List String := ["MARKET", "LIMIT", "SL", "SL-M"]

/-- `SUPPORTED_PRODUCTS`. -/
def supportedProducts : List String := ["MIS", "NRML", "CNC"]

structure OrderIntent where
  intentId : String
  candidateId : String
  mode : String
  symbol : Option String
  tradingsymbol : Option String
  instrumentToken : Option String
  transactionType : Option String
  quantity : Option Int
  orderType : Option String
  product : Option String
  price : Option PyFloat
  triggerPrice : Option PyFloat
  strategy : Option String
  qualityScore : Option PyFloat
  approvalId : Option String
  operatorId : Option String
  brokerConfirmationId : Option String
  createdAtEpoch : Option PyFloat
  source : String := "order_intent_contract"
  topExecutableSnapshot : PyDict
  executionSafetySnapshot : PyDict
  readinessSnapshot : PyDict

def OrderIntent.toDict (intent : OrderIntent) : PyDict :=
  [("intent_id", .str intent.intentId), ("candidate_id", .str intent.candidateId),
    ("mode", .str intent.mode), ("symbol", ofOptionString intent.symbol),
    ("tradingsymbol", ofOptionString intent.tradingsymbol),
    ("instrument_token", ofOptionString intent.instrumentToken),
    ("transaction_type", ofOptionString intent.transactionType),
    ("quantity", ofOptionInt intent.quantity), ("order_type", ofOptionString intent.orderType),
    ("product", ofOptionString intent.product), ("price", ofOptionFloat intent.price),
    ("trigger_price", ofOptionFloat intent.triggerPrice),
    ("strategy", ofOptionString intent.strategy),
    ("quality_score", ofOptionFloat intent.qualityScore),
    ("approval_id", ofOptionString intent.approvalId),
    ("operator_id", ofOptionString intent.operatorId),
    ("broker_confirmation_id", ofOptionString intent.brokerConfirmationId),
    ("created_at_epoch", ofOptionFloat intent.createdAtEpoch), ("source", .str intent.source),
    ("contract_version", .str "1.0"),
    ("top_executable_snapshot", .dict intent.topExecutableSnapshot),
    ("execution_safety_snapshot", .dict intent.executionSafetySnapshot),
    ("readiness_snapshot", .dict intent.readinessSnapshot), ("is_order_action", .bool false),
    ("broker_api_called", .bool false), ("real_order_id", .none),
    ("requires_broker_adapter", .bool false)]

structure OrderIntentBuildResult where
  created : Bool
  intent : Option OrderIntent := none
  blockers : List String := []
  warnings : List String := []

/-! ### The checks -/

/-- `mode not in {...}`: only what can be hashed is looked up in a set. -/
def modeSupported : PyValue → Except PyError Bool
  | .str mode => .ok (mode ∈ ["SIM", "PAPER", "LIVE"])
  | .list _ => .error (.typeError "unhashable type: 'list'")
  | .dict _ => .error (.typeError "unhashable type: 'dict'")
  | _ => .ok false

def intentSafetyChecks (executionSafety : Option PyDict) : Except PyError (List (Bool × String)) :=
  match givenDict executionSafety with
  | none => .ok [(true, "EXECUTION_SAFETY_REQUIRED")]
  | some safety => do
      let supported ← modeSupported (PyDict.get safety "mode")
      let apiParse ← nestedDict safety "execution_mode_api_parse"
      let isLive := (PyDict.get safety "mode").isStr "LIVE"
      pure
        [(!(PyDict.get safety "execution_permitted").isTrue, "EXECUTION_SAFETY_NOT_PERMITTED"),
          (!(PyDict.get safety "is_order_action").isFalse, "EXECUTION_SAFETY_ORDER_FLAG_UNSAFE"),
          (!(PyDict.get safety "safety_visibility_only").isTrue,
            "EXECUTION_SAFETY_VISIBILITY_FLAG_REQUIRED"),
          (!supported, "EXECUTION_MODE_UNSUPPORTED"),
          ((PyDict.get apiParse "invalid_mode").isTrue, "INVALID_EXECUTION_MODE"),
          ((PyDict.get safety "broker_api_allowed").isTrue && !isLive,
            "BROKER_API_ALLOWED_ONLY_IN_LIVE"),
          ((PyDict.get safety "real_order_allowed").isTrue && !isLive,
            "REAL_ORDER_ALLOWED_ONLY_IN_LIVE")]

def intentReadinessChecks (readiness : Option PyDict) : List (Bool × String) :=
  match givenDict readiness with
  | none => []
  | some readiness =>
      [(!(PyDict.get readiness "execution_allowed").isTrue, "READINESS_NOT_ALLOWED"),
        (!(PyDict.get readiness "is_order").isFalse, "READINESS_ORDER_FLAG_UNSAFE")]

structure OrderFields where
  transactionType : Option String
  quantity : Option Int
  orderType : Option String
  product : Option String
  price : Option PyFloat
  triggerPrice : Option PyFloat

def selectedOrderFields (selected : PyDict) : Except PyError OrderFields := do
  let quantity ← intOrNone (firstOf selected ["quantity", "qty"])
  pure
    { transactionType :=
        normalizedChoice (firstOf selected ["transaction_type", "side"]) supportedTransactionTypes
      quantity := quantity
      orderType := normalizedChoice (PyDict.get selected "order_type") supportedOrderTypes
      product := normalizedChoice (PyDict.get selected "product") supportedProducts
      price := floatOrNone (firstOf selected ["price", "entry", "entry_price"])
      triggerPrice := floatOrNone (firstOf selected ["trigger_price", "stop", "stop_loss"]) }

def orderFieldChecks (fields : OrderFields) : List (Bool × String) :=
  [(fields.transactionType.isNone, "TRANSACTION_TYPE_REQUIRED_OR_UNSUPPORTED"),
    (!fields.quantity.any fun quantity => 0 < quantity, "POSITIVE_QUANTITY_REQUIRED"),
    (fields.orderType.isNone, "ORDER_TYPE_REQUIRED_OR_UNSUPPORTED"),
    (fields.product.isNone, "PRODUCT_REQUIRED_OR_UNSUPPORTED"),
    (fields.orderType = some "LIMIT" ∧ fields.price = none, "LIMIT_PRICE_REQUIRED"),
    ((fields.orderType = some "SL" ∨ fields.orderType = some "SL-M") ∧ fields.triggerPrice = none,
      "TRIGGER_PRICE_REQUIRED")]

def intentCandidateChecks (selected : Option PyDict) : Except PyError (List (Bool × String)) :=
  match selected with
  | none => .ok []
  | some selected => do
      let fields ← selectedOrderFields selected
      pure ((((PyDict.get selected "candidate_id").isNoneOrEmpty, "CANDIDATE_ID_REQUIRED")) ::
        orderFieldChecks fields)

def intentSelectedChecks (selected : Option PyDict) : List (Bool × String) :=
  match selected with
  | none => [(true, "NO_TOP_EXECUTABLE_SELECTED")]
  | some selected =>
      [(!(PyDict.get selected "is_order").isFalse, "TOP_EXECUTABLE_ORDER_FLAG_UNSAFE")]

def readinessMismatch (selected readiness : Option PyDict) : Bool :=
  (fieldOf readiness "candidate_id").truthy && (fieldOf selected "candidate_id").truthy &&
    printValue (fieldOf readiness "candidate_id") != printValue (fieldOf selected "candidate_id")

def orderIntentChecks (topExecutable executionSafety readiness : Option PyDict) :
    Except PyError (List (Bool × String)) := do
  let selected := topSelected topExecutable
  let ofSafety ← intentSafetyChecks executionSafety
  let ofCandidate ← intentCandidateChecks selected
  pure (intentSelectedChecks selected ++ (ofSafety ++ (intentReadinessChecks readiness ++
    (ofCandidate ++ [(readinessMismatch selected readiness, "READINESS_CANDIDATE_MISMATCH")]))))

/-- `validate_order_intent_inputs`: there are no warnings. -/
def validateOrderIntentInputs (topExecutable executionSafety readiness : Option PyDict) :
    Except PyError (List String) := do
  let checks ← orderIntentChecks topExecutable executionSafety readiness
  pure (dedupe (messagesOf checks))

/-! ### The intent -/

/-- `(execution_safety or {}).get("audit", {}).get("policy", {})`. -/
def auditPolicy (executionSafety : PyDict) : Except PyError PyDict := do
  let audit ← nestedDict executionSafety "audit"
  nestedDict audit "policy"

/-- `_stable_intent_id`. -/
def stableIntentId (digest : String → String) (candidateId mode : String) (policy : PyDict)
    (tsEpoch : Option PyFloat) : String :=
  let seed := String.intercalate "|"
    [candidateId, mode, printValue ((PyDict.get policy "approval_id").or (.str "")),
      printValue ((PyDict.get policy "broker_confirmation_id").or (.str "")),
      printValue ((ofOptionFloat tsEpoch).or (.str ""))]
  "intent-" ++ String.ofList ((digest seed).toList.take 16)

/-- `build_order_intent`. -/
def buildOrderIntent (digest : String → String)
    (topExecutable executionSafety readiness : Option PyDict) (tsEpoch : Option PyFloat) :
    Except PyError OrderIntentBuildResult := do
  let blockers ← validateOrderIntentInputs topExecutable executionSafety readiness
  if !blockers.isEmpty then pure { created := false, blockers := blockers }
  else
    let selected := (topSelected topExecutable).getD []
    let safety := executionSafety.getD []
    let candidateId := printValue (PyDict.get selected "candidate_id")
    let mode := printValue (PyDict.get safety "mode")
    let policy ← auditPolicy safety
    let fields ← selectedOrderFields selected
    pure
      { created := true
        intent := some
          { intentId := stableIntentId digest candidateId mode policy tsEpoch
            candidateId := candidateId
            mode := mode
            symbol := strOrNone (firstOf selected ["symbol", "underlying"])
            tradingsymbol := strOrNone (firstOf selected ["tradingsymbol", "symbol"])
            instrumentToken := strOrNone (PyDict.get selected "instrument_token")
            transactionType := fields.transactionType
            quantity := fields.quantity
            orderType := fields.orderType
            product := fields.product
            price := fields.price
            triggerPrice := fields.triggerPrice
            strategy := strOrNone (firstOf selected ["strategy", "strategy_id", "setup_family"])
            qualityScore := floatOrNone (firstOf selected ["quality_score", "score"])
            approvalId := strOrNone (PyDict.get policy "approval_id")
            operatorId := strOrNone (PyDict.get policy "operator_id")
            brokerConfirmationId := strOrNone (PyDict.get policy "broker_confirmation_id")
            createdAtEpoch := tsEpoch
            topExecutableSnapshot := topExecutable.getD []
            executionSafetySnapshot := safety
            readinessSnapshot := readiness.getD [] } }

end Algotradify.Execution
