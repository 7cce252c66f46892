/-
The orders that a completed pipeline run reports.

The first canonical event carries no order id, so the reducer files it under the
intent id and every later event under the order id: one order, two entries.
-/

import Algotradify.Paper.Pipeline

namespace Algotradify.Paper.Pipeline

open Py IntentBridge Lifecycle PaperOrderLifecycleStatus FillSimulation Events EventOrdering
open StateReducer OrderIdentity Transition

variable {eventType intentId status : String} {payload : PyDict} {event : NormalizedEvent}
variable {orderId : Option String}

/-! ### Normal forms of the canonical events -/

def Solid (text : String) : Prop :=
  text ≠ "" ∧ ∀ char ∈ text.toList, isSpace char = false

theorem Solid.optionalStr {text : String} (solid : Solid text) :
    optionalStr (.str text) = some text := by
  rw [optionalStr_str, strip_eq_self solid.2, if_neg solid.1]

theorem Solid.strOrNone {text : String} (solid : Solid text) : strOrNone (.str text) = some text := by
  unfold Pipeline.strOrNone
  rw [printValue_str, strip_eq_self solid.2, if_neg solid.1]
  exact if_neg fun blank => solid.1 (of_decide_eq_true blank)

private theorem hexDigit_solid : ∀ char : Char, isHexDigit char = true → isSpace char = false := by
  intro char digit
  have digits : ∀ char ∈ "0123456789abcdef".toList, isSpace char = false := by decide
  exact digits char (List.contains_iff_mem.mp digit)

theorem solid_append_digest {digest : String → String} (hex : HexDigest digest) {stem : String}
    (solid : Solid stem) (seed : String) : Solid (stem ++ digest seed) := by
  constructor
  · intro empty
    exact solid.1 (String.append_eq_empty_iff.mp empty).1
  · intro char member
    rw [String.toList_append] at member
    rcases List.mem_append.mp member with inStem | inDigest
    · exact solid.2 char inStem
    · exact hexDigit_solid char (hex.hex seed char inDigest)

structure Canonical (eventType : String) (payload : PyDict) (intentId : String)
    (orderId : Option String) (event : NormalizedEvent) : Prop where
  eventType : event.eventType = some eventType
  payload : event.payload = .dict payload
  paperOrderIntentId : event.paperOrderIntentId = some intentId
  paperOrderId : event.paperOrderId = orderId

theorem canonicalEvent_normal {digest : String → String} {cycleId : String} {sequence : Int}
    {intent lifecycle : PyDict} {tsEpoch : Option PyFloat} (typed : Solid eventType)
    (stored : intent.get "paper_order_intent_id" = .str intentId) (solid : Solid intentId)
    (order : optionalStr (ofOptionString (canonicalOrderId intent lifecycle)) = orderId)
    (normalized : normalizePaperEvent (.dict (canonicalEvent digest cycleId sequence eventType payload
      intent lifecycle tsEpoch)) = .ok event) :
    Canonical eventType payload intentId orderId event := by
  have typeText : (canonicalEvent digest cycleId sequence eventType payload intent lifecycle
    tsEpoch).get "event_type" = .str eventType := rfl
  have payloadValue : (canonicalEvent digest cycleId sequence eventType payload intent lifecycle
    tsEpoch).get "payload" = .dict payload := rfl
  have intentText : (canonicalEvent digest cycleId sequence eventType payload intent lifecycle
    tsEpoch).get "paper_order_intent_id" =
      ofOptionString (strOrNone (intent.get "paper_order_intent_id")) := rfl
  have orderText : (canonicalEvent digest cycleId sequence eventType payload intent lifecycle
    tsEpoch).get "paper_order_id" = ofOptionString (canonicalOrderId intent lifecycle) := rfl
  rw [stored, solid.strOrNone] at intentText
  generalize canonicalEvent digest cycleId sequence eventType payload intent lifecycle tsEpoch = raw
    at normalized typeText payloadValue intentText orderText
  obtain ⟨_, _, made⟩ := bind_eq_ok.mp normalized
  cases made
  constructor
  · exact (congrArg optionalStr typeText).trans typed.optionalStr
  · exact payloadValue
  · exact (congrArg optionalStr intentText).trans solid.optionalStr
  · exact (congrArg optionalStr orderText).trans order

theorem Canonical.orderKey (canonical : Canonical eventType payload intentId orderId event)
    (intentSolid : Solid intentId) (orderSolid : ∀ id, orderId = some id → Solid id) :
    StateReducer.orderKey event = orderId.getD intentId := by
  have present : ∀ text rest, Solid text → (PyValue.str text :: rest).find?
      (fun value => !value.isNoneOrEmpty) = some (.str text) := by
    intro text rest solid
    apply List.find?_cons_of_pos
    rw [PyValue.isNoneOrEmpty, decide_eq_false solid.1]
    rfl
  unfold StateReducer.orderKey firstText
  rw [canonical.paperOrderId, canonical.paperOrderIntentId]
  cases orderId with
  | none =>
      rw [List.find?_cons_of_neg (by decide), ofOptionString, present _ _ intentSolid]
      rfl
  | some id =>
      rw [ofOptionString, present _ _ (orderSolid id rfl)]
      rfl

theorem Canonical.orderStatusOf (canonical : Canonical eventType payload intentId orderId event)
    (given : orderEventStatus.lookup eventType = some status) :
    StateReducer.orderStatusOf event = some status := by
  rw [StateReducer.orderStatusOf, eventTypeText, canonical.eventType]
  exact given

theorem Canonical.reduceEvent (canonical : Canonical eventType payload intentId orderId event)
    (intentSolid : Solid intentId) (orderSolid : ∀ id, orderId = some id → Solid id)
    (given : orderEventStatus.lookup eventType = some status)
    {before after : PaperReducedState × List String}
    (stepped : StateReducer.reduceEvent before event = .ok after) :
    ∃ order, reducedOrder (before.1.orders.lookup (orderId.getD intentId)) event status = .ok order ∧
      after.1.orders = Assoc.set before.1.orders (orderId.getD intentId) order := by
  rw [← canonical.orderKey intentSolid orderSolid]
  cases reduceEvent_orders stepped with
  | replaced own order ownGiven reduced afterEq =>
      cases (canonical.orderStatusOf given).symm.trans ownGiven
      exact ⟨order, reduced, afterEq⟩
  | kept none afterEq => cases (canonical.orderStatusOf given).symm.trans none

/-! ### The entries of an order -/

theorem reducedOrder_fields {existing : Option ReducedOrder} {order : ReducedOrder}
    (filled remaining : Int) (stored : event.payload = .dict payload)
    (readFilled : firstInt [payload.get "filled_quantity",
      payload.get "cumulative_filled_quantity",
      if status = "FILLED" then payload.get "quantity" else .none,
      ofOptionInt (existing.map ReducedOrder.filledQuantity)] = .ok (some filled))
    (readRemaining : firstInt [payload.get "remaining_quantity",
      ofOptionInt (existing.bind ReducedOrder.remainingQuantity)] = .ok (some remaining))
    (reduced : reducedOrder existing event status = .ok order) :
    order.filledQuantity = filled ∧ order.remainingQuantity = some remaining := by
  unfold reducedOrder at reduced
  rw [stored, PyValue.asDict_dict] at reduced
  obtain ⟨_, same, reduced⟩ := bind_eq_ok.mp reduced
  cases readFilled.symm.trans same
  obtain ⟨_, same, reduced⟩ := bind_eq_ok.mp reduced
  cases readRemaining.symm.trans same
  cases reduced
  exact ⟨rfl, rfl⟩

theorem reducedOrder_intentId {existing : Option ReducedOrder} {order : ReducedOrder}
    (reduced : reducedOrder existing event status = .ok order) :
    order.paperOrderIntentId = event.paperOrderIntentId := by
  obtain ⟨_, _, reduced⟩ := bind_eq_ok.mp reduced
  obtain ⟨_, _, reduced⟩ := bind_eq_ok.mp reduced
  cases reduced
  rfl

def fillStatus (fill : PaperFillSimulationResult) : String :=
  match fill.lifecycleEvent with
  | some event => printValue (event.get "status")
  | none => "OPEN"

structure ShowsFill (fill : PaperFillSimulationResult) (order : ReducedOrder) : Prop where
  status : order.status = fillStatus fill
  filledQuantity : order.filledQuantity = fill.cumulativeFilledQuantity
  remainingQuantity : order.remainingQuantity = fill.remainingQuantity

def entriesOf (state : PaperReducedState) (intentId : String) : List (String × ReducedOrder) :=
  state.orders.filter fun entry => entry.2.paperOrderIntentId = some intentId

def orderCounts (state : PaperReducedState) : Int :=
  state.summary.openOrderCount + state.summary.terminalOrderCount

/-- The state shows one order for the intent, as its fill stage left it. -/
structure KeepsOneOrder (intentId : String) (fill : PaperFillSimulationResult)
    (state : PaperReducedState) : Prop where
  entry : ∃ key order, entriesOf state intentId = [(key, order)] ∧ ShowsFill fill order
  counts : orderCounts state = 1

structure KeepsTwoOrders (intentId orderId : String) (fill : PaperFillSimulationResult)
    (state : PaperReducedState) : Prop where
  entries : ∃ created order, entriesOf state intentId = [(intentId, created), (orderId, order)] ∧
    created.status = "INTENT_CREATED" ∧ ShowsFill fill order
  counts : orderCounts state = 2

theorem orderCounts_buildSummary (state : PaperReducedState) :
    orderCounts { state with summary := buildSummary state } = state.orders.length := by
  unfold orderCounts buildSummary
  dsimp only
  omega

private theorem orderEventStatus_fill {status : PaperOrderLifecycleStatus}
    (moved : status ∈ [partiallyFilled, filled, rejected, expired]) :
    Solid (canonicalFillEventType (.str status.value)) ∧
      orderEventStatus.lookup (canonicalFillEventType (.str status.value)) = some status.value := by
  cases status with
  | created | accepted | opened | cancelled => exact absurd moved (by decide)
  | partiallyFilled | filled | rejected | expired =>
      refine ⟨⟨by decide, by decide⟩, by decide⟩

section Entries

variable {digest : String → String} {input : PipelineInput} {values : StageValues}

private theorem canonicalOrderId_event (intent : PyDict) {event : PaperOrderLifecycleEvent}
    (solid : Solid event.paperOrderId) :
    optionalStr (ofOptionString (canonicalOrderId intent event.toDict)) =
      some event.paperOrderId := by
  have stored : PyDict.get event.toDict "paper_order_id" = .str event.paperOrderId := rfl
  have present : (PyValue.str event.paperOrderId).truthy = true := decide_eq_true solid.1
  unfold canonicalOrderId
  rw [stored, PyValue.or, if_pos present, solid.strOrNone]
  exact solid.optionalStr

theorem Stages.intentId_solid (hex : HexDigest digest) (stages : Stages digest input values) :
    Solid values.intent.paperOrderIntentId := by
  rw [stages.creates.copies.paperOrderIntentId]
  exact solid_append_digest hex ⟨by decide, by decide⟩ _

theorem orderId_solid (hex : HexDigest digest) (intent : PyDict) :
    Solid (orderIdOf digest intent) :=
  solid_append_digest hex ⟨by decide, by decide⟩ _

theorem Stages.intentId_ne_orderId (hex : HexDigest digest) (stages : Stages digest input values)
    (intent : PyDict) : orderIdOf digest intent ≠ values.intent.paperOrderIntentId := by
  intro same
  rw [stages.creates.copies.paperOrderIntentId] at same
  unfold orderIdOf stablePaperOrderId at same
  have stem : "paper-order-" = "paper-" ++ "order-" := by decide
  rw [stem, String.append_assoc] at same
  have tails := (String.append_right_inj _).mp same
  have letter : 'o' ∈ (digest (seedOf input.intentInput)).toList := by
    rw [← tails, String.toList_append]
    exact List.mem_append_left _ (by decide)
  exact absurd (hex.hex _ 'o' letter) (by decide)

theorem Stages.opened_unfilled (stages : Stages digest input values) :
    values.opened.filledQuantity = 0 := by
  obtain ⟨_, _, createdRecords⟩ := stages.created.records
  obtain ⟨_, _, acceptedRecords⟩ := stages.accepted.records
  obtain ⟨_, _, openedRecords⟩ := stages.opened.records
  rw [openedRecords.carried (by decide)]
  change values.accepted.filledQuantity = 0
  rw [acceptedRecords.carried (by decide)]
  change values.created.filledQuantity = 0
  rw [createdRecords.carried (by decide)]
  rfl

theorem opening_orders (hex : HexDigest digest) (stages : Stages digest input values)
    {events : List NormalizedEvent}
    (read : List.Forall₂ (fun raw event => normalizePaperEvent (.dict raw) = .ok event)
      (openingEvents digest input values) events)
    {finish : PaperReducedState × List String} (run : EventRun ({}, []) events finish) :
    ∃ created order, finish.1.orders = [(values.intent.paperOrderIntentId, created),
        (orderIdOf digest values.intent.toDict, order)] ∧
      created.status = "INTENT_CREATED" ∧
      created.paperOrderIntentId = some values.intent.paperOrderIntentId ∧
      order.paperOrderIntentId = some values.intent.paperOrderIntentId ∧
      order.status = "OPEN" ∧ order.filledQuantity = 0 ∧
      order.remainingQuantity = values.opened.remainingQuantity := by
  have intentSolid := stages.intentId_solid hex
  have apart := stages.intentId_ne_orderId hex values.intent.toDict
  have orderSolid := orderId_solid hex values.intent.toDict
  have solidOrder : ∀ id, some (orderIdOf digest values.intent.toDict) = some id → Solid id := by
    intro id same
    cases same
    exact orderSolid
  obtain ⟨_, _, acceptedRecords⟩ := stages.accepted.records
  obtain ⟨_, _, openedRecords⟩ := stages.opened.records
  have acceptedId : values.accepted.paperOrderId = orderIdOf digest values.intent.toDict :=
    acceptedRecords.paperOrderId
  have openedId : values.opened.paperOrderId = orderIdOf digest values.intent.toDict :=
    openedRecords.paperOrderId
  obtain ⟨first, _, firstRead, laterRead, rfl⟩ := List.forall₂_cons_left_iff.mp read
  obtain ⟨second, _, secondRead, lastRead, rfl⟩ := List.forall₂_cons_left_iff.mp laterRead
  obtain ⟨third, _, thirdRead, noneRead, rfl⟩ := List.forall₂_cons_left_iff.mp lastRead
  cases noneRead
  have noOrder : optionalStr (ofOptionString (canonicalOrderId values.intent.toDict [])) = none := rfl
  have firstCanonical := canonicalEvent_normal ⟨by decide, by decide⟩ rfl intentSolid noOrder firstRead
  have secondCanonical := canonicalEvent_normal ⟨by decide, by decide⟩ rfl intentSolid
    (canonicalOrderId_event values.intent.toDict (acceptedId ▸ orderSolid)) secondRead
  have thirdCanonical := canonicalEvent_normal ⟨by decide, by decide⟩ rfl intentSolid
    (canonicalOrderId_event values.intent.toDict (openedId ▸ orderSolid)) thirdRead
  rw [acceptedId] at secondCanonical
  rw [openedId] at thirdCanonical
  have folded := (Run.foldlM_eq_ok_iff _ _ _ _).mpr run
  obtain ⟨afterFirst, firstStep, folded⟩ := bind_eq_ok.mp folded
  obtain ⟨afterSecond, secondStep, folded⟩ := bind_eq_ok.mp folded
  obtain ⟨afterThird, thirdStep, folded⟩ := bind_eq_ok.mp folded
  cases folded
  have createdGiven : orderEventStatus.lookup "PAPER_ORDER_INTENT_CREATED" =
    some "INTENT_CREATED" := rfl
  have acceptedGiven : orderEventStatus.lookup "PAPER_ORDER_ACCEPTED" = some "ACCEPTED" := rfl
  have openedGiven : orderEventStatus.lookup "PAPER_ORDER_OPENED" = some "OPEN" := rfl
  obtain ⟨created, createdReduced, firstOrders⟩ := firstCanonical.reduceEvent intentSolid
    (fun _ absent => nomatch absent) createdGiven firstStep
  obtain ⟨accepted, _, secondOrders⟩ := secondCanonical.reduceEvent intentSolid solidOrder
    acceptedGiven secondStep
  obtain ⟨order, orderReduced, thirdOrders⟩ := thirdCanonical.reduceEvent intentSolid solidOrder
    openedGiven thirdStep
  obtain ⟨filledEq, remainingEq⟩ := reducedOrder_fields values.opened.filledQuantity _
    thirdCanonical.payload rfl
    (show firstInt [ofOptionInt values.opened.remainingQuantity, _] = _ by
      rw [openedRecords.remaining]
      rfl) orderReduced
  refine ⟨created, order, ?_, reducedOrder_status createdReduced, ?_, ?_,
    reducedOrder_status orderReduced, ?_, ?_⟩
  · rw [thirdOrders, secondOrders, firstOrders]
    simp only [Option.getD_none, Option.getD_some, Assoc.set, if_neg apart, if_true]
  · rw [reducedOrder_intentId createdReduced, firstCanonical.paperOrderIntentId]
  · rw [reducedOrder_intentId orderReduced, thirdCanonical.paperOrderIntentId]
  · rw [filledEq, stages.opened_unfilled]
  · rw [remainingEq, openedRecords.remaining]

theorem stages_orders (hex : HexDigest digest) (stages : Stages digest input values)
    {opening : PipelineTrace} (openingEq : opening.events = openingEvents digest input values)
    {events : List NormalizedEvent}
    (read : List.Forall₂ (fun raw event => normalizePaperEvent (.dict raw) = .ok event)
      (emitFill digest input values.intent.toDict values.fill opening).events events)
    {finish : PaperReducedState × List String} (run : EventRun ({}, []) events finish) :
    ∃ created order, finish.1.orders = [(values.intent.paperOrderIntentId, created),
        (orderIdOf digest values.intent.toDict, order)] ∧
      created.status = "INTENT_CREATED" ∧
      created.paperOrderIntentId = some values.intent.paperOrderIntentId ∧
      order.paperOrderIntentId = some values.intent.paperOrderIntentId ∧
      ShowsFill values.fill order := by
  have outcome := simulatePaperFill_outcome stages.simulated stages.unblocked
  rw [emitFill_events outcome, openingEq] at read
  have openingRead := List.forall₂_take 3 read
  have fillRead := List.forall₂_drop 3 read
  obtain ⟨middle, openingRun, fillRun⟩ := run.split (List.take_append_drop 3 events).symm
  obtain ⟨created, order, orders, createdStatus, createdIntent, orderIntent, orderStatus, filled,
    remaining⟩ := opening_orders hex stages openingRead openingRun
  have intentSolid := stages.intentId_solid hex
  have apart := stages.intentId_ne_orderId hex values.intent.toDict
  cases outcome with
  | idle quantity readQuantity noEvent cumulative stillRemaining =>
      rw [noEvent] at fillRead
      have nothing := List.forall₂_nil_left_iff.mp fillRead
      rw [nothing] at fillRun
      cases fillRun.eq_of_nil
      obtain ⟨own, ownRead, openedRecords⟩ := stages.opened.records
      cases ownRead.symm.trans readQuantity
      refine ⟨created, order, orders, createdStatus, createdIntent, orderIntent, ?_⟩
      constructor
      · rw [orderStatus, fillStatus, noEvent]
      · rw [filled, cumulative, stages.opened_unfilled]
      · rw [remaining, stillRemaining, openedRecords.remaining, stages.opened_unfilled]
        split
        · rfl
        · rename_i zero
          rw [not_not.mp zero]
          rfl
  | moved next lifecycleEvent nextId status someRemaining =>
      rw [lifecycleEvent] at fillRead
      obtain ⟨fourth, _, fourthRead, noneRead, fillEvents⟩ := List.forall₂_cons_left_iff.mp fillRead
      cases noneRead
      rw [fillEvents] at fillRun
      obtain ⟨typeSolid, given⟩ := orderEventStatus_fill status
      have orderSolid := orderId_solid hex values.intent.toDict
      have canonical := canonicalEvent_normal typeSolid rfl intentSolid
        (canonicalOrderId_event values.intent.toDict (nextId ▸ orderSolid)) fourthRead
      rw [nextId] at canonical
      have folded := (Run.foldlM_eq_ok_iff _ _ _ _).mpr fillRun
      obtain ⟨last, fourthStep, folded⟩ := bind_eq_ok.mp folded
      cases folded
      obtain ⟨moved, movedReduced, movedOrders⟩ := canonical.reduceEvent intentSolid (by
        intro id same
        cases same
        exact orderSolid) given fourthStep
      obtain ⟨left, leftEq⟩ := Option.isSome_iff_exists.mp someRemaining
      have unnamed : (values.fill.toDict.set "lifecycle_event" (.dict next.toDict)).get
          "filled_quantity" = .none :=
        PyDict.get_set_of_ne _ _ (by decide)
      have cumulative : (values.fill.toDict.set "lifecycle_event" (.dict next.toDict)).get
          "cumulative_filled_quantity" = .int values.fill.cumulativeFilledQuantity :=
        PyDict.get_set_of_ne _ _ (by decide)
      have leftStored : (values.fill.toDict.set "lifecycle_event" (.dict next.toDict)).get
          "remaining_quantity" = ofOptionInt values.fill.remainingQuantity :=
        PyDict.get_set_of_ne _ _ (by decide)
      obtain ⟨movedFilled, movedRemaining⟩ := reducedOrder_fields
        values.fill.cumulativeFilledQuantity left canonical.payload (by
          rw [unnamed, cumulative]
          rfl) (by
          rw [leftStored, leftEq]
          rfl) movedReduced
      refine ⟨created, moved, ?_, createdStatus, createdIntent, ?_, ?_⟩
      · rw [movedOrders, orders]
        simp only [Option.getD_some, Assoc.set, if_neg apart, if_true]
      · rw [reducedOrder_intentId movedReduced, canonical.paperOrderIntentId]
      · constructor
        · rw [reducedOrder_status movedReduced, fillStatus, lifecycleEvent]
          rfl
        · exact movedFilled
        · rw [movedRemaining, leftEq]

end Entries

/-- A completed run shows its intent as an order of its own, so it never keeps one order. -/
theorem pipeline_never_one_order {digest : String → String} (hex : HexDigest digest)
    {input : PipelineInput} {result : PaperTradingPipelineResult}
    (ran : runPaperTradingPipeline digest input = .ok result)
    (completed : result.status = .completed) :
    (∃ state values, result.state = some state ∧ Stages digest input values ∧
      KeepsTwoOrders values.intent.paperOrderIntentId (orderIdOf digest values.intent.toDict)
        values.fill state) ∧
      ¬∃ state values, result.state = some state ∧ Stages digest input values ∧
        KeepsOneOrder values.intent.paperOrderIntentId values.fill state := by
  unfold runPaperTradingPipeline at ran
  dsimp only at ran
  split at ran
  · cases ran
    cases completed
  · obtain ⟨outcome, staged, ran⟩ := bind_eq_ok.mp ran
    cases outcome with
    | error report =>
        cases ran
        cases completed
    | ok reached =>
        obtain ⟨state, after⟩ := reached
        cases ran
        obtain ⟨values, opening, events, reduced, warnings, stages, openingEq, read, run, rfl⟩ :=
          pipelineStages_ok rfl staged
        obtain ⟨created, order, orders, createdStatus, createdIntent, orderIntent, shows⟩ :=
          stages_orders hex stages openingEq read run
        have two : orderCounts { reduced with summary := buildSummary reduced } = 2 := by
          rw [orderCounts_buildSummary, orders]
          rfl
        constructor
        · refine ⟨_, values, rfl, stages, ⟨created, order, ?_, createdStatus, shows⟩, two⟩
          unfold entriesOf
          rw [orders]
          refine List.filter_eq_self.mpr ?_
          intro entry member
          rcases List.mem_cons.mp member with rfl | member
          · exact decide_eq_true createdIntent
          · cases List.mem_singleton.mp member
            exact decide_eq_true orderIntent
        · rintro ⟨_, _, same, _, one⟩
          cases same
          exact absurd (two.symm.trans one.counts) (by decide)

/-! ### A partially filled order -/

section Example

/-- The first sixteen digits of the SHA-256 digests of the texts that occur below. -/
private def cycleDigest : String → String :=
  tableDigest [("c1|100.0", "ee0043a7d82ef855"),
    ("paper-ee0043a7d82ef855|c1", "263c76c488a4842f"),
    ("cycle-1|1|PAPER_ORDER_INTENT_CREATED|paper-ee0043a7d82ef855|", "7c8c5c82bde122b0"),
    ("cycle-1|2|PAPER_ORDER_ACCEPTED|paper-ee0043a7d82ef855|paper-order-263c76c488a4842f",
      "ca4d3dd86b04f10f"),
    ("cycle-1|3|PAPER_ORDER_OPENED|paper-ee0043a7d82ef855|paper-order-263c76c488a4842f",
      "de6b15e776ad2bfb"),
    ("cycle-1|4|PAPER_ORDER_PARTIALLY_FILLED|paper-ee0043a7d82ef855|paper-order-263c76c488a4842f",
      "d824047753228338")]

private theorem cycleDigest_hex : HexDigest cycleDigest :=
  tableDigest_hex (by decide)

private def partlyFilledInput : PipelineInput :=
  { cycleId := .str "cycle-1"
    topExecutable := .dict [("status", .str "SELECTED"),
      ("selected", .dict [("candidate_id", .str "c1"), ("instrument_token", .int 12345),
        ("transaction_type", .str "BUY"), ("quantity", .int 10), ("order_type", .str "LIMIT"),
        ("price", .float (.finite (201 / 2))), ("strategy", .str "orb_retest"),
        ("is_order", .bool false)]),
      ("is_order_action", .bool false)]
    executionSafety := .dict [("execution_permitted", .bool true),
      ("is_order_action", .bool false)]
    quote := .dict [("source", .str "CONTROLLED_QUOTE"), ("ts_epoch", .float (.finite 104)),
      ("ask", .float (.finite 100)), ("available_quantity", .int 4),
      ("is_order_action", .bool false), ("broker_api_called", .bool false),
      ("real_order_id", .none)]
    tsEpoch := some (.finite 100)
    nowEpoch := some (.finite 105) }

private theorem partlyFilled_counts : ∃ result,
    runPaperTradingPipeline cycleDigest partlyFilledInput = .ok result ∧
      result.status = .completed ∧
      (result.state.map fun state => state.summary.openOrderCount) = some 2 ∧
      result.state.map orderCounts = some 2 := by
  obtain ⟨result, ran, evaluated⟩ := Option.map_eq_some_iff.mp
    (show (runPaperTradingPipeline cycleDigest partlyFilledInput).toOption.map (fun result =>
      (result.status, result.state.map fun state => state.summary.openOrderCount,
        result.state.map orderCounts)) = some (.completed, some 2, some 2) by decide +kernel)
  obtain ⟨status, counts⟩ := Prod.ext_iff.mp evaluated
  obtain ⟨opened, counted⟩ := Prod.ext_iff.mp counts
  exact ⟨result, eq_ok_of_toOption ran, status, opened, counted⟩

/-- A run with a partial fill completes and counts two open orders. -/
theorem pipeline_two_open_orders : ∃ result,
    runPaperTradingPipeline cycleDigest partlyFilledInput = .ok result ∧
      result.status = .completed ∧
      (result.state.map fun state => state.summary.openOrderCount) = some 2 ∧
      ¬∃ state values, result.state = some state ∧ Stages cycleDigest partlyFilledInput values ∧
        KeepsOneOrder values.intent.paperOrderIntentId values.fill state := by
  obtain ⟨result, ran, completed, opened, counted⟩ := partlyFilled_counts
  refine ⟨result, ran, completed, opened, ?_⟩
  rintro ⟨state, values, same, _, one⟩
  rw [same, Option.map_some, one.counts] at counted
  exact absurd counted (by decide)

theorem pipeline_never_one_order_partlyFilled : ∃ result,
    runPaperTradingPipeline cycleDigest partlyFilledInput = .ok result ∧
      ∃ state values, result.state = some state ∧ Stages cycleDigest partlyFilledInput values ∧
        KeepsTwoOrders values.intent.paperOrderIntentId
          (orderIdOf cycleDigest values.intent.toDict) values.fill state := by
  obtain ⟨result, ran, completed, _, _⟩ := partlyFilled_counts
  exact ⟨result, ran, (pipeline_never_one_order cycleDigest_hex ran completed).1⟩

end Example

end Algotradify.Paper.Pipeline
