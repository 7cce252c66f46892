/-
The paper broker: an order intent is acknowledged with a synthetic order id, and no broker is
called.

The adapter reads the serialised intent with conversions of its own.
-/

import Algotradify.Execution.OrderIntent

namespace Algotradify.Execution

open Py Dedup
open Paper (intOrNone floatOrNone)

variable {intent : OrderIntent} {fields : OrderFields}

structure PaperBrokerOrderAck where
  syntheticOrderId : String
  intentId : String
  candidateId : String
  status : String := "PAPER_ACCEPTED"
  mode : String := "PAPER"
  tradingsymbol : Option String
  transactionType : Option String
  quantity : Option Int
  orderType : Option String
  product : Option String
  price : Option PyFloat
  triggerPrice : Option PyFloat
  createdAtEpoch : Option PyFloat
  source : String := "paper_broker_adapter"
  intentSnapshot : PyDict

structure PaperBrokerExecutionResult where
  accepted : Bool
  ack : Option PaperBrokerOrderAck := none
  blockers : List String := []
  warnings : List String := []

def intentOrderFields (intent : PyDict) : Except PyError OrderFields := do
  let quantity ← intOrNone (PyDict.get intent "quantity")
  pure
    { transactionType :=
        normalizedChoice (PyDict.get intent "transaction_type") supportedTransactionTypes
      quantity := quantity
      orderType := normalizedChoice (PyDict.get intent "order_type") supportedOrderTypes
      product := normalizedChoice (PyDict.get intent "product") supportedProducts
      price := floatOrNone (PyDict.get intent "price")
      triggerPrice := floatOrNone (PyDict.get intent "trigger_price") }

def paperFlagChecks (intent : PyDict) : List (Bool × String) :=
  [(!(PyDict.get intent "mode").isStr "PAPER", "PAPER_MODE_REQUIRED"),
    (!(PyDict.get intent "is_order_action").isFalse, "INTENT_ORDER_FLAG_UNSAFE"),
    (!(PyDict.get intent "broker_api_called").isFalse, "INTENT_BROKER_API_FLAG_UNSAFE"),
    (!(PyDict.get intent "real_order_id").isNone, "INTENT_REAL_ORDER_ID_FORBIDDEN"),
    (!(PyDict.get intent "requires_broker_adapter").isFalse,
      "INTENT_REQUIRES_BROKER_ADAPTER_UNSAFE"),
    ((PyDict.get intent "intent_id").isNoneOrEmpty, "INTENT_ID_REQUIRED"),
    ((PyDict.get intent "candidate_id").isNoneOrEmpty, "CANDIDATE_ID_REQUIRED")]

/-- `validate_paper_order_intent`: there are no warnings. -/
def validatePaperOrderIntent (intent : Option PyDict) (brokerClient : Bool) :
    Except PyError (List String) :=
  let ofClient := [(brokerClient, "REAL_BROKER_CLIENT_FORBIDDEN_IN_PAPER")]
  match givenDict intent with
  | none => .ok (dedupe (messagesOf (ofClient ++ [(true, "ORDER_INTENT_REQUIRED")])))
  | some intent => do
      let fields ← intentOrderFields intent
      pure (dedupe (messagesOf (ofClient ++ (paperFlagChecks intent ++ orderFieldChecks fields))))

/-- `_stable_paper_order_id`. -/
def stablePaperOrderId (digest : String → String) (intent : PyDict)
    (tsEpoch : Option PyFloat) : String :=
  let seed := String.intercalate "|"
    [printValue ((PyDict.get intent "intent_id").or (.str "")),
      printValue ((PyDict.get intent "candidate_id").or (.str "")),
      printValue ((PyDict.get intent "mode").or (.str "")),
      printValue ((ofOptionFloat tsEpoch).or (.str ""))]
  "paper-" ++ String.ofList ((digest seed).toList.take 16)

/-- `execute_paper_order`; of the broker client only its presence is asked. -/
def executePaperOrder (digest : String → String) (intent : Option PyDict)
    (tsEpoch : Option PyFloat) (brokerClient : Bool) :
    Except PyError PaperBrokerExecutionResult := do
  let blockers ← validatePaperOrderIntent intent brokerClient
  if !blockers.isEmpty then pure { accepted := false, blockers := blockers }
  else
    let intent := intent.getD []
    let fields ← intentOrderFields intent
    pure
      { accepted := true
        ack := some
          { syntheticOrderId := stablePaperOrderId digest intent tsEpoch
            intentId := printValue (PyDict.get intent "intent_id")
            candidateId := printValue (PyDict.get intent "candidate_id")
            tradingsymbol := strOrNone (firstOf intent ["tradingsymbol", "symbol"])
            transactionType := fields.transactionType
            quantity := fields.quantity
            orderType := fields.orderType
            product := fields.product
            price := fields.price
            triggerPrice := fields.triggerPrice
            createdAtEpoch := tsEpoch
            intentSnapshot := intent } }

/-! ### The fields of an order -/

/-- Fields that both ends take: a positive quantity, a side, a type and a product, and the
price that the type requires. -/
structure CompleteFields (fields : OrderFields) : Prop where
  side : fields.transactionType.isSome = true
  quantity : ∃ number, fields.quantity = some number ∧ 0 < number
  type : fields.orderType.isSome = true
  product : fields.product.isSome = true
  limitPrice : fields.orderType = some "LIMIT" → fields.price.isSome = true
  triggerPrice : fields.orderType = some "SL" ∨ fields.orderType = some "SL-M" →
    fields.triggerPrice.isSome = true

theorem orderFieldChecks_pass_iff (fields : OrderFields) :
    (∀ check ∈ orderFieldChecks fields, check.1 = false) ↔ CompleteFields fields := by
  unfold orderFieldChecks
  simp only [List.forall_mem_cons, List.not_mem_nil, false_imp_iff, implies_true, and_true,
    decide_eq_false_iff_not, not_and, Bool.not_eq_false']
  constructor
  · rintro ⟨side, quantity, type, product, limit, trigger⟩
    refine ⟨?_, ?_, ?_, ?_, ?_, ?_⟩
    · simpa [Option.isNone_eq_false_iff] using side
    · cases found : fields.quantity with
      | none =>
          rw [found] at quantity
          cases quantity
      | some number =>
          rw [found] at quantity
          exact ⟨number, rfl, by simpa using quantity⟩
    · simpa [Option.isNone_eq_false_iff] using type
    · simpa [Option.isNone_eq_false_iff] using product
    · exact fun isLimit => Option.isSome_iff_ne_none.mpr (limit isLimit)
    · exact fun isStop => Option.isSome_iff_ne_none.mpr (trigger isStop)
  · intro complete
    obtain ⟨number, found, positive⟩ := complete.quantity
    refine ⟨?_, ?_, ?_, ?_, ?_, ?_⟩
    · simpa [Option.isNone_eq_false_iff] using complete.side
    · simpa [found] using positive
    · simpa [Option.isNone_eq_false_iff] using complete.type
    · simpa [Option.isNone_eq_false_iff] using complete.product
    · exact fun isLimit => Option.isSome_iff_ne_none.mp (complete.limitPrice isLimit)
    · exact fun isStop => Option.isSome_iff_ne_none.mp (complete.triggerPrice isStop)

theorem orderFieldChecks_written (fields : OrderFields) :
    ∀ check ∈ orderFieldChecks fields, check.2 ≠ "" := by
  unfold orderFieldChecks
  simp

/-! ### From the candidate to the intent -/

theorem orderIntentChecks_written {topExecutable executionSafety readiness : Option PyDict}
    {checks : List (Bool × String)}
    (ran : orderIntentChecks topExecutable executionSafety readiness = .ok checks) :
    ∀ check ∈ checks, check.2 ≠ "" := by
  obtain ⟨ofSafety, safetyRan, continued⟩ := bind_eq_ok.mp ran
  obtain ⟨ofCandidate, candidateRan, made⟩ := bind_eq_ok.mp continued
  rw [← Except.ok.inj made]
  intro check member
  simp only [List.mem_append] at member
  rcases member with first | second | third | fourth | fifth
  · unfold intentSelectedChecks at first
    split at first <;> simp_all
  · unfold intentSafetyChecks at safetyRan
    split at safetyRan
    · rw [← Except.ok.inj safetyRan] at second
      simp_all
    · obtain ⟨supported, _, safetyRan⟩ := bind_eq_ok.mp safetyRan
      obtain ⟨apiParse, _, safetyMade⟩ := bind_eq_ok.mp safetyRan
      rw [← Except.ok.inj safetyMade] at second
      simp only [List.mem_cons, List.not_mem_nil, or_false] at second
      rcases second with rfl | rfl | rfl | rfl | rfl | rfl | rfl <;> simp
  · unfold intentReadinessChecks at third
    split at third
    · cases third
    · simp only [List.mem_cons, List.not_mem_nil, or_false] at third
      rcases third with rfl | rfl <;> simp
  · unfold intentCandidateChecks at candidateRan
    split at candidateRan
    · rw [← Except.ok.inj candidateRan] at fourth
      cases fourth
    · obtain ⟨fields, _, candidateMade⟩ := bind_eq_ok.mp candidateRan
      rw [← Except.ok.inj candidateMade] at fourth
      rcases List.mem_cons.mp fourth with rfl | listed
      · simp
      · exact orderFieldChecks_written fields check listed
  · rw [List.mem_singleton.mp fifth]
    simp

theorem fields_of_created {digest : String → String}
    {topExecutable executionSafety readiness : Option PyDict} {tsEpoch : Option PyFloat}
    {result : OrderIntentBuildResult}
    (ran : buildOrderIntent digest topExecutable executionSafety readiness tsEpoch = .ok result)
    (created : result.intent = some intent) :
    ∃ selected fields, topSelected topExecutable = some selected ∧
      selectedOrderFields selected = .ok fields ∧ CompleteFields fields ∧
      (PyDict.get selected "candidate_id").isNoneOrEmpty = false ∧
      intent.candidateId = printValue (PyDict.get selected "candidate_id") ∧
      (∃ rest, intent.intentId = "intent-" ++ rest) ∧
      intent.transactionType = fields.transactionType ∧ intent.quantity = fields.quantity ∧
      intent.orderType = fields.orderType ∧ intent.product = fields.product ∧
      intent.price = fields.price ∧ intent.triggerPrice = fields.triggerPrice := by
  obtain ⟨blockers, validated, continued⟩ := bind_eq_ok.mp ran
  obtain ⟨checks, checked, judged⟩ := bind_eq_ok.mp validated
  split at continued
  · rw [← Except.ok.inj continued] at created
    cases created
  · next clear =>
      have none : dedupe (messagesOf checks) = [] := by
        rw [Except.ok.inj judged]
        simpa using clear
      rw [dedupe_eq_nil_of_written (messagesOf_written (orderIntentChecks_written checked)),
        messagesOf_eq_nil_iff] at none
      obtain ⟨policy, _, continued⟩ := bind_eq_ok.mp continued
      obtain ⟨fields, read, made⟩ := bind_eq_ok.mp continued
      rw [← Except.ok.inj made] at created
      have same := Option.some.inj created
      obtain ⟨ofSafety, _, checked⟩ := bind_eq_ok.mp checked
      obtain ⟨ofCandidate, candidateRan, listed⟩ := bind_eq_ok.mp checked
      rw [← Except.ok.inj listed] at none
      cases selects : topSelected topExecutable with
      | none =>
          rw [selects] at none
          have required := none (true, "NO_TOP_EXECUTABLE_SELECTED")
            (List.mem_append_left _ List.mem_cons_self)
          cases required
      | some selected =>
          rw [selects] at candidateRan read
          obtain ⟨own, ownRead, candidateMade⟩ := bind_eq_ok.mp candidateRan
          have equal : own = fields := Except.ok.inj (ownRead.symm.trans read)
          have ofFields : ∀ check ∈ ((PyDict.get selected "candidate_id").isNoneOrEmpty,
              "CANDIDATE_ID_REQUIRED") :: orderFieldChecks fields, check.1 = false := by
            intro check member
            apply none check
            rw [← Except.ok.inj candidateMade, equal]
            exact List.mem_append_right _ (List.mem_append_right _ (List.mem_append_right _
              (List.mem_append_left _ member)))
          obtain ⟨named, complete⟩ := List.forall_mem_cons.mp ofFields
          rw [selects] at same
          refine ⟨selected, fields, rfl, read, (orderFieldChecks_pass_iff fields).mp complete,
            named, ?_⟩
          rw [← same]
          exact ⟨rfl, ⟨_, rfl⟩, rfl, rfl, rfl, rfl, rfl, rfl⟩

/-! ### From the intent to the acknowledgement -/

theorem supported_raised : ∀ choice ∈ supportedTransactionTypes ++ (supportedOrderTypes ++
    supportedProducts), choice ≠ "" ∧ upper choice = choice := by
  decide

theorem normalizedChoice_ofOptionString {value : PyValue} {allowed : List String}
    (raised : ∀ choice ∈ allowed, choice ≠ "" ∧ upper choice = choice) :
    normalizedChoice (ofOptionString (normalizedChoice value allowed)) allowed =
      normalizedChoice value allowed := by
  cases chosen : normalizedChoice value allowed with
  | none => rfl
  | some choice =>
      have member := mem_of_normalizedChoice chosen
      exact normalizedChoice_str member (raised choice member).1 (raised choice member).2

theorem intOrNone_ofOptionInt (quantity : Option Int) :
    intOrNone (ofOptionInt quantity) = .ok quantity := by
  cases quantity <;> rfl

theorem intentOrderFields_toDict {selected : PyDict}
    (read : selectedOrderFields selected = .ok fields)
    (side : intent.transactionType = fields.transactionType)
    (quantity : intent.quantity = fields.quantity) (type : intent.orderType = fields.orderType)
    (product : intent.product = fields.product) (price : intent.price = fields.price)
    (trigger : intent.triggerPrice = fields.triggerPrice) :
    intentOrderFields intent.toDict = .ok fields := by
  obtain ⟨number, _, made⟩ := bind_eq_ok.mp read
  rw [← Except.ok.inj made] at side type product
  have sides : ∀ choice ∈ supportedTransactionTypes, choice ≠ "" ∧ upper choice = choice :=
    fun choice member => supported_raised choice (List.mem_append_left _ member)
  have types : ∀ choice ∈ supportedOrderTypes, choice ≠ "" ∧ upper choice = choice :=
    fun choice member =>
      supported_raised choice (List.mem_append_right _ (List.mem_append_left _ member))
  have products : ∀ choice ∈ supportedProducts, choice ≠ "" ∧ upper choice = choice :=
    fun choice member =>
      supported_raised choice (List.mem_append_right _ (List.mem_append_right _ member))
  have ofQuantity : intOrNone (PyDict.get intent.toDict "quantity") = .ok fields.quantity := by
    change intOrNone (ofOptionInt intent.quantity) = _
    rw [intOrNone_ofOptionInt, quantity]
  refine bind_eq_ok.mpr ⟨fields.quantity, ofQuantity, ?_⟩
  change Except.ok (OrderFields.mk
    (normalizedChoice (ofOptionString intent.transactionType) supportedTransactionTypes)
    fields.quantity
    (normalizedChoice (ofOptionString intent.orderType) supportedOrderTypes)
    (normalizedChoice (ofOptionString intent.product) supportedProducts)
    (floatOrNone (ofOptionFloat intent.price))
    (floatOrNone (ofOptionFloat intent.triggerPrice))) = .ok fields
  rw [side, type, product, normalizedChoice_ofOptionString sides,
    normalizedChoice_ofOptionString types, normalizedChoice_ofOptionString products,
    Paper.floatOrNone_ofOptionFloat, Paper.floatOrNone_ofOptionFloat, price, trigger,
    ← Except.ok.inj made]

structure Acknowledges (ack : PaperBrokerOrderAck) (intent : OrderIntent) : Prop where
  candidate : ack.candidateId = intent.candidateId
  side : ack.transactionType = intent.transactionType
  quantity : ack.quantity = intent.quantity
  type : ack.orderType = intent.orderType
  product : ack.product = intent.product
  price : ack.price = intent.price
  triggerPrice : ack.triggerPrice = intent.triggerPrice

/-- What the adapter takes, as it reads it: a quantity that converts to a positive integer, a
side, a type and a product that are supported once they are raised, and the price that the
type requires. -/
structure ReadsAsOrder (intent : PyDict) : Prop where
  quantity : ∃ number, intOrNone (PyDict.get intent "quantity") = .ok (some number) ∧ 0 < number
  side : upper (printValue (PyDict.get intent "transaction_type")) ∈ supportedTransactionTypes
  type : upper (printValue (PyDict.get intent "order_type")) ∈ supportedOrderTypes
  product : upper (printValue (PyDict.get intent "product")) ∈ supportedProducts
  limitPrice : upper (printValue (PyDict.get intent "order_type")) = "LIMIT" →
    (floatOrNone (PyDict.get intent "price")).isSome = true
  triggerPrice : upper (printValue (PyDict.get intent "order_type")) ∈ ["SL", "SL-M"] →
    (floatOrNone (PyDict.get intent "trigger_price")).isSome = true

theorem normalizedChoice_eq {value : PyValue} {allowed : List String}
    (chosen : (normalizedChoice value allowed).isSome = true) :
    normalizedChoice value allowed = some (upper (printValue value)) ∧
      upper (printValue value) ∈ allowed := by
  unfold normalizedChoice at chosen ⊢
  split at chosen
  · cases chosen
  · next given =>
      split at chosen
      · next member => exact ⟨by rw [if_neg given, if_pos member], member⟩
      · cases chosen

theorem readsAsOrder_of_fields {intent : PyDict} (read : intentOrderFields intent = .ok fields)
    (complete : CompleteFields fields) :
    ReadsAsOrder intent := by
  obtain ⟨quantity, ofQuantity, made⟩ := bind_eq_ok.mp read
  rw [← Except.ok.inj made] at complete
  obtain ⟨side, ⟨number, found, positive⟩, type, product, limit, trigger⟩ := complete
  obtain ⟨_, sideListed⟩ := normalizedChoice_eq side
  obtain ⟨typeIs, typeListed⟩ := normalizedChoice_eq type
  obtain ⟨_, productListed⟩ := normalizedChoice_eq product
  refine ⟨⟨number, ?_, positive⟩, sideListed, typeListed, productListed, ?_, ?_⟩
  · rw [ofQuantity]
    exact congrArg Except.ok found
  · intro isLimit
    exact limit (typeIs.trans (congrArg some isLimit))
  · intro isStop
    apply trigger
    simp only [List.mem_cons, List.not_mem_nil, or_false] at isStop
    exact isStop.imp (fun same => typeIs.trans (congrArg some same))
      fun same => typeIs.trans (congrArg some same)

theorem isNoneOrEmpty_str {text : String} (written : text ≠ "") :
    (PyValue.str text).isNoneOrEmpty = false := by
  rw [Bool.eq_false_iff, ne_eq, PyValue.isNoneOrEmpty_eq_true]
  simp [written]

theorem paperFlagChecks_written (intent : PyDict) :
    ∀ check ∈ paperFlagChecks intent, check.2 ≠ "" := by
  unfold paperFlagChecks
  simp

theorem paperFlagChecks_toDict (paper : intent.mode = "PAPER") (intentNamed : intent.intentId ≠ "")
    (candidateNamed : intent.candidateId ≠ "") :
    ∀ check ∈ paperFlagChecks intent.toDict, check.1 = false := by
  have mode : (PyValue.str intent.mode).isStr "PAPER" = true := by
    rw [paper]
    rfl
  have listed : paperFlagChecks intent.toDict =
      [(!(PyValue.str intent.mode).isStr "PAPER", "PAPER_MODE_REQUIRED"),
        (false, "INTENT_ORDER_FLAG_UNSAFE"), (false, "INTENT_BROKER_API_FLAG_UNSAFE"),
        (false, "INTENT_REAL_ORDER_ID_FORBIDDEN"), (false, "INTENT_REQUIRES_BROKER_ADAPTER_UNSAFE"),
        ((PyValue.str intent.intentId).isNoneOrEmpty, "INTENT_ID_REQUIRED"),
        ((PyValue.str intent.candidateId).isNoneOrEmpty, "CANDIDATE_ID_REQUIRED")] := rfl
  rw [listed, mode, isNoneOrEmpty_str intentNamed, isNoneOrEmpty_str candidateNamed]
  simp

section Broker

variable {brokerDigest : String → String}

theorem accepted_of_fields {intent : PyDict} (given : intent.isEmpty = false)
    (read : intentOrderFields intent = .ok fields)
    (flags : ∀ check ∈ paperFlagChecks intent, check.1 = false) (complete : CompleteFields fields)
    (brokerDigest : String → String) (tsEpoch : Option PyFloat) :
    ∃ result ack, executePaperOrder brokerDigest (some intent) tsEpoch false = .ok result ∧
      result.accepted = true ∧ result.ack = some ack ∧
      ack.candidateId = printValue (PyDict.get intent "candidate_id") ∧
      ack.transactionType = fields.transactionType ∧ ack.quantity = fields.quantity ∧
      ack.orderType = fields.orderType ∧ ack.product = fields.product ∧
      ack.price = fields.price ∧ ack.triggerPrice = fields.triggerPrice := by
  have isGiven : givenDict (some intent) = some intent := by
    unfold givenDict
    simp [given]
  have clear : messagesOf ([(false, "REAL_BROKER_CLIENT_FORBIDDEN_IN_PAPER")] ++
      (paperFlagChecks intent ++ orderFieldChecks fields)) = [] := by
    rw [messagesOf_eq_nil_iff]
    intro check member
    rcases List.mem_append.mp member with client | ofIntent
    · rw [List.mem_singleton.mp client]
    · rcases List.mem_append.mp ofIntent with flag | field
      · exact flags check flag
      · exact (orderFieldChecks_pass_iff fields).mpr complete check field
  have validated : validatePaperOrderIntent (some intent) false = .ok [] := by
    unfold validatePaperOrderIntent
    simp only [isGiven]
    refine bind_eq_ok.mpr ⟨fields, read, ?_⟩
    rw [clear]
    rfl
  exact ⟨_, _, bind_eq_ok.mpr ⟨[], validated, bind_eq_ok.mpr ⟨fields, read, rfl⟩⟩, rfl, rfl, rfl,
    rfl, rfl, rfl, rfl, rfl, rfl⟩

theorem fields_of_accepted {intent : PyDict} {tsEpoch : Option PyFloat} {brokerClient : Bool}
    {result : PaperBrokerExecutionResult}
    (ran : executePaperOrder brokerDigest (some intent) tsEpoch brokerClient = .ok result)
    (accepted : result.accepted = true) :
    ∃ fields, intentOrderFields intent = .ok fields ∧ CompleteFields fields := by
  obtain ⟨blockers, validated, continued⟩ := bind_eq_ok.mp ran
  split at continued
  · rw [← Except.ok.inj continued] at accepted
    cases accepted
  · next clear =>
      have none : blockers = [] := by simpa using clear
      rw [none] at validated
      cases given : givenDict (some intent) with
      | none =>
          unfold validatePaperOrderIntent at validated
          simp only [given] at validated
          have listed := Except.ok.inj validated
          cases brokerClient <;> exact absurd listed (by decide)
      | some own =>
          have same : own = intent := by
            unfold givenDict at given
            exact (Option.some.inj (Option.filter_eq_some_iff.mp given).1).symm
          unfold validatePaperOrderIntent at validated
          simp only [given] at validated
          obtain ⟨fields, read, judged⟩ := bind_eq_ok.mp validated
          have written : ∀ check ∈ [(brokerClient, "REAL_BROKER_CLIENT_FORBIDDEN_IN_PAPER")] ++
              (paperFlagChecks own ++ orderFieldChecks fields), check.2 ≠ "" := by
            intro check member
            rcases List.mem_append.mp member with client | ofIntent
            · rw [List.mem_singleton.mp client]
              simp
            · rcases List.mem_append.mp ofIntent with flag | field
              · exact paperFlagChecks_written own check flag
              · exact orderFieldChecks_written fields check field
          have passed := Except.ok.inj judged
          rw [dedupe_eq_nil_of_written (messagesOf_written written), messagesOf_eq_nil_iff] at passed
          rw [same] at read
          exact ⟨fields, read, (orderFieldChecks_pass_iff fields).mp fun check member =>
            passed check (List.mem_append_right _ (List.mem_append_right _ member))⟩

end Broker

/-! ### Both ends -/

/-- Every paper intent that is built is accepted and acknowledged field by field, and
everything that is accepted reads as an order. -/
theorem paper_broker_takes_what_intents_offer (intentDigest brokerDigest : String → String) :
    (∀ topExecutable executionSafety readiness builtAt result intent,
        buildOrderIntent intentDigest topExecutable executionSafety readiness builtAt = .ok result →
        result.intent = some intent → intent.mode = "PAPER" →
        ∀ tsEpoch, ∃ execution ack,
          executePaperOrder brokerDigest (some intent.toDict) tsEpoch false = .ok execution ∧
            execution.accepted = true ∧ execution.ack = some ack ∧ Acknowledges ack intent) ∧
      ∀ intent tsEpoch brokerClient execution,
        executePaperOrder brokerDigest (some intent) tsEpoch brokerClient = .ok execution →
        execution.accepted = true → ReadsAsOrder intent := by
  constructor
  · intro topExecutable executionSafety readiness builtAt result intent ran created paper tsEpoch
    obtain ⟨selected, fields, _, read, complete, named, candidate, ⟨rest, intentId⟩, side, quantity,
      type, product, price, trigger⟩ := fields_of_created ran created
    have candidateNamed : intent.candidateId ≠ "" := by
      rw [candidate, ne_eq, printValue_eq_empty_iff]
      intro empty
      rw [empty] at named
      cases named
    have intentNamed : intent.intentId ≠ "" := by
      rw [intentId, ne_eq, String.append_eq_empty_iff]
      simp
    have again := intentOrderFields_toDict read side quantity type product price trigger
    obtain ⟨execution, ack, executed, accepted, acknowledged, ackCandidate, ackSide, ackQuantity,
      ackType, ackProduct, ackPrice, ackTrigger⟩ :=
      accepted_of_fields rfl again (paperFlagChecks_toDict paper intentNamed candidateNamed)
        complete brokerDigest tsEpoch
    exact ⟨execution, ack, executed, accepted, acknowledged, ackCandidate, ackSide.trans side.symm,
      ackQuantity.trans quantity.symm, ackType.trans type.symm, ackProduct.trans product.symm,
      ackPrice.trans price.symm, ackTrigger.trans trigger.symm⟩
  · intro intent tsEpoch brokerClient execution ran accepted
    obtain ⟨fields, read, complete⟩ := fields_of_accepted ran accepted
    exact readsAsOrder_of_fields read complete

def offeredTop : PyDict :=
  [("status", .str "SELECTED"),
    ("selected", .dict
      [("candidate_id", .str "c1"), ("is_order", .bool false), ("side", .str "buy"),
        ("qty", .str "25"), ("order_type", .str "Limit"), ("product", .str "mis"),
        ("entry", .int 100)])]

def offeredSafety : PyDict :=
  [("execution_permitted", .bool true), ("is_order_action", .bool false),
    ("safety_visibility_only", .bool true), ("mode", .str "PAPER")]

theorem paper_broker_takes_offered_intent :
    ∃ result intent,
      buildOrderIntent (fun _ => "") (some offeredTop) (some offeredSafety) none none = .ok result ∧
        result.intent = some intent ∧ ∃ execution ack,
          executePaperOrder (fun _ => "") (some intent.toDict) none false = .ok execution ∧
            execution.accepted = true ∧ execution.ack = some ack ∧ Acknowledges ack intent := by
  have built : ((buildOrderIntent (fun _ => "") (some offeredTop) (some offeredSafety) none
      none).toOption.bind fun result => result.intent.map OrderIntent.mode) = some "PAPER" := by
    decide
  obtain ⟨result, returned, mode⟩ := Option.bind_eq_some_iff.mp built
  obtain ⟨intent, created, paper⟩ := Option.map_eq_some_iff.mp mode
  have ran := eq_ok_of_toOption returned
  exact ⟨result, intent, ran, created,
    (paper_broker_takes_what_intents_offer (fun _ => "") (fun _ => "")).1 _ _ _ _ _ _ ran created
      paper none⟩

def fractionalIntent : PyDict :=
  [("intent_id", .str "intent-1"), ("candidate_id", .str "c1"), ("mode", .str "PAPER"),
    ("transaction_type", .str "BUY"), ("quantity", .float (.finite (19 / 10))),
    ("order_type", .str "MARKET"), ("product", .str "MIS"), ("is_order_action", .bool false),
    ("broker_api_called", .bool false), ("requires_broker_adapter", .bool false)]

/-- The adapter accepts a quantity of 1.9 and acknowledges 1. -/
theorem fractional_quantity_accepted :
    (∃ execution, executePaperOrder (fun _ => "") (some fractionalIntent) none false =
        .ok execution ∧ execution.accepted = true ∧
        (execution.ack.bind PaperBrokerOrderAck.quantity) = some 1) ∧
      ¬∃ quantity : Int, 0 < quantity ∧
        PyDict.get fractionalIntent "quantity" = .int quantity := by
  have accepts : ((executePaperOrder (fun _ => "") (some fractionalIntent) none
      false).toOption.map fun execution => (execution.accepted,
        execution.ack.bind PaperBrokerOrderAck.quantity)) = some (true, some 1) := by
    decide +kernel
  obtain ⟨execution, returned, shown⟩ := Option.map_eq_some_iff.mp accepts
  constructor
  · exact ⟨execution, eq_ok_of_toOption returned, congrArg Prod.fst shown, congrArg Prod.snd shown⟩
  · rintro ⟨quantity, _, same⟩
    have fractional : PyDict.get fractionalIntent "quantity" = .float (.finite (19 / 10)) := rfl
    rw [fractional] at same
    cases same

end Algotradify.Execution
