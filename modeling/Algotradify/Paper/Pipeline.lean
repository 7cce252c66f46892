/-
The in-memory paper pipeline: one selected candidate becomes an intent, an order
that is created, accepted and opened, at most one fill event, and the state that
the reducer derives from the canonical events of these stages.

What the stages of a completed pipeline run have made: an intent, its created,
accepted and opened events, a fill, and the canonical events of these.
-/

import Algotradify.Paper.FillSimulation
import Algotradify.Paper.OrderIdentity
import Algotradify.Paper.ReducedOrders

namespace Algotradify.Paper.Pipeline

open Py IntentBridge Lifecycle FillSimulation Events EventOrdering StateReducer

variable {tsEpoch : Option PyFloat}

inductive PaperTradingPipelineStatus where
  | completed
  | noop
  | blocked
deriving DecidableEq, Repr

structure PaperTradingPipelineResult where
  completed : Bool
  status : PaperTradingPipelineStatus
  cycleId : Option String := none
  candidateId : Option String := none
  strategyId : Option String := none
  events : List PyDict := []
  state : Option PaperReducedState := none
  blockers : List String := []
  warnings : List String := []
deriving Repr

structure PipelineInput where
  cycleId : PyValue
  topExecutable : PyValue
  executionSafety : PyValue
  quote : PyValue
  readiness : PyValue := .none
  marketData : PyValue := .none
  instrumentHealth : PyValue := .none
  tsEpoch : Option PyFloat := none
  nowEpoch : Option PyFloat := none
  maxQuoteAgeSec : PyFloat := .finite 5

def PipelineInput.intentInput (input : PipelineInput) : IntentInput :=
  { topExecutable := input.topExecutable
    executionSafety := input.executionSafety
    readiness := input.readiness
    marketData := input.marketData
    instrumentHealth := input.instrumentHealth
    tsEpoch := input.tsEpoch }

/-! ### Helpers -/

def strOrNone (value : PyValue) : Option String :=
  if value.isNoneOrEmpty then none
  else if strip (printValue value) = "" then none
  else some (strip (printValue value))

/-- `_ts`: the base moved by a number of milliseconds. -/
def ts (base : Option PyFloat) (offset : Int) : Option PyFloat :=
  base.map fun base => base + .finite (offset / 1000)

def prefixed (source : String) (blockers : List String) : List String :=
  blockers.map fun blocker => "PAPER_PIPELINE_" ++ source ++ "_" ++ blocker

/-- `blockers or [text]`. -/
def orBlocker (blockers : List String) (text : String) : List String :=
  if blockers = [] then [text] else blockers

def candidateId (topExecutable : PyValue) : Option String :=
  strOrNone ((topExecutable.asDict.get "selected").asDict.get "candidate_id")

def strategyId (topExecutable : PyValue) : Option String :=
  let selected := (topExecutable.asDict.get "selected").asDict
  strOrNone (((selected.get "strategy").or (selected.get "strategy_id")).or
    (selected.get "setup_family"))

mutual

/-- `_walk_dict`: every entry at every depth, with the path that leads to it. -/
def walkDict (path : String) : List (String × PyValue) → List (String × String × PyValue)
  | [] => []
  | (key, value) :: rest =>
      (path ++ "_" ++ upper key, key, value) ::
        (walkNested (path ++ "_" ++ upper key) value ++ walkDict path rest)

def walkNested (path : String) : PyValue → List (String × String × PyValue)
  | .dict entries => walkDict path entries
  | _ => []

end

/-! ### Input validation -/

def unsafeEntryBlockers (name : String) (entry : String × String × PyValue) : List String :=
  let (path, key, value) := entry
  let blocker := fun text => "PAPER_PIPELINE_" ++ name ++ "_" ++ path ++ text
  blockerIf (key == "paper_only" && !value.isTrue) (blocker "_UNSAFE_PAPER_ONLY_FLAG") ++
    blockerIf (key == "is_order_action" && !value.isFalse) (blocker "_UNSAFE_ORDER_ACTION_FLAG") ++
    blockerIf (key == "broker_api_called" && value.isTrue) (blocker "_BROKER_API_CALLED") ++
    blockerIf (key == "real_order_id" && !value.isNoneOrEmpty) (blocker "_REAL_ORDER_ID_PRESENT")

def unsafePayloadBlockers (name : String) (payload : PyValue) : List String :=
  match payload with
  | .none => []
  | .dict entries => (walkDict "ROOT" entries).flatMap (unsafeEntryBlockers name)
  | _ => ["PAPER_PIPELINE_" ++ name ++ "_MUST_BE_OBJECT"]

def validatePaperTradingPipelineInputs (input : PipelineInput) : List String :=
  dedupe
    (blockerIf (strOrNone input.cycleId).isNone "PAPER_PIPELINE_CYCLE_ID_REQUIRED" ++
      blockerIf (!input.topExecutable.isDict) "PAPER_PIPELINE_TOP_EXECUTABLE_REQUIRED" ++
      blockerIf (!input.executionSafety.isDict) "PAPER_PIPELINE_EXECUTION_SAFETY_REQUIRED" ++
      blockerIf (!input.quote.isDict) "PAPER_PIPELINE_CONTROLLED_QUOTE_REQUIRED" ++
      unsafePayloadBlockers "TOP_EXECUTABLE" input.topExecutable ++
      unsafePayloadBlockers "EXECUTION_SAFETY" input.executionSafety ++
      unsafePayloadBlockers "QUOTE" input.quote ++
      unsafePayloadBlockers "READINESS" input.readiness ++
      unsafePayloadBlockers "MARKET_DATA" input.marketData ++
      unsafePayloadBlockers "INSTRUMENT_HEALTH" input.instrumentHealth)

/-! ### Canonical events -/

def canonicalOrderId (intent lifecycle : PyDict) : Option String :=
  strOrNone ((lifecycle.get "paper_order_id").or (intent.get "paper_order_id"))

def canonicalEvent (digest : String → String) (cycleId : String) (sequence : Int)
    (eventType : String) (payload intent lifecycle : PyDict) (tsEpoch : Option PyFloat) : PyDict :=
  let paperOrderId := canonicalOrderId intent lifecycle
  let intentId := printValue (intent.get "paper_order_intent_id")
  let seed := cycleId ++ "|" ++ printInt sequence ++ "|" ++ eventType ++ "|" ++ intentId ++ "|" ++
    paperOrderId.getD ""
  [("schema_version", .str "1.0"),
    ("event_id", .str ("paper-pipeline-" ++ digest seed)),
    ("cycle_id", .str cycleId),
    ("event_sequence", .int sequence),
    ("candidate_id", ofOptionString (strOrNone (intent.get "candidate_id"))),
    ("strategy_id", ofOptionString (strOrNone (intent.get "strategy"))),
    ("paper_order_intent_id", ofOptionString (strOrNone (intent.get "paper_order_intent_id"))),
    ("paper_order_id", ofOptionString paperOrderId),
    ("event_type", .str eventType),
    ("ts_epoch", ofOptionFloat (ts tsEpoch sequence)),
    ("idempotency_key", .str (cycleId ++ ":" ++ printInt sequence ++ ":" ++ eventType ++ ":" ++
      intentId)),
    ("payload", .dict payload)] ++ safeFlags

def canonicalFillEventType (status : PyValue) : String :=
  let normalized := upperText status
  if normalized = "FILLED" then "PAPER_ORDER_FILLED"
  else if normalized = "PARTIALLY_FILLED" then "PAPER_ORDER_PARTIALLY_FILLED"
  else if normalized = "REJECTED" then "PAPER_ORDER_REJECTED"
  else if normalized = "EXPIRED" then "PAPER_ORDER_EXPIRED"
  else if normalized = "CANCELLED" then "PAPER_ORDER_CANCELLED"
  else "PAPER_ORDER_OPENED"

def validateCanonicalEvents (events : List PyDict) : Except PyError (List String) := do
  let found ← events.zipIdx.mapM fun entry => do
    let eventBlockers ← validatePaperEvent (.dict entry.1)
    pure (eventBlockers.map (eventBlocker entry.2))
  pure (dedupe found.flatten)

structure PipelineTrace where
  cycleId : PyValue
  candidateId : Option String
  strategyId : Option String
  events : List PyDict := []
  warnings : List String := []

/-- `_blocked_result`. -/
def PipelineTrace.blockedResult (trace : PipelineTrace) (blockers : List String) :
    PaperTradingPipelineResult :=
  { completed := false
    status := .blocked
    cycleId := strOrNone trace.cycleId
    candidateId := trace.candidateId
    strategyId := trace.strategyId
    events := trace.events
    blockers := dedupe blockers
    warnings := dedupe trace.warnings }

def PipelineTrace.warn (trace : PipelineTrace) (warnings : List String) : PipelineTrace :=
  { trace with warnings := trace.warnings ++ warnings }

def PipelineTrace.emit (trace : PipelineTrace) (event : PyDict) : PipelineTrace :=
  { trace with events := trace.events ++ [event] }

abbrev Stage (Result : Type) := ExceptT (PipelineTrace × List String) (Except PyError) Result

def intentStage (digest : String → String) (input : PipelineInput) (trace : PipelineTrace) :
    Stage (PyDict × PipelineTrace) := do
  let result ← ExceptT.lift (buildPaperOrderIntent digest input.intentInput)
  let trace := trace.warn result.warnings
  match result.intent with
  | some intent =>
      if result.created then
        let intent := intent.toDict
        let candidate := (intent.get "candidate_id").or
          ((ofOptionString trace.candidateId).or (.str ""))
        let strategy := (intent.get "strategy").or (ofOptionString trace.strategyId)
        pure (intent, { trace with
          candidateId := some (printValue candidate)
          strategyId := strOrNone strategy })
      else throw (trace, prefixed "INTENT"
        (orBlocker result.blockers "PAPER_PIPELINE_INTENT_NOT_CREATED"))
  | none => throw (trace, prefixed "INTENT"
      (orBlocker result.blockers "PAPER_PIPELINE_INTENT_NOT_CREATED"))

def lifecycleStage (digest : String → String) (intent : PyDict) (requestedStatus : String)
    (previousEvent : PyValue) (tsEpoch : Option PyFloat) (source missing : String)
    (trace : PipelineTrace) : Stage (PyDict × PipelineTrace) := do
  let result ← ExceptT.lift (buildPaperOrderLifecycleEvent digest (.dict intent) requestedStatus
    previousEvent tsEpoch none .none .none)
  let trace := trace.warn result.warnings
  match result.event with
  | some event =>
      if result.created then pure (event.toDict, trace)
      else throw (trace, prefixed source (orBlocker result.blockers missing))
  | none => throw (trace, prefixed source (orBlocker result.blockers missing))

def fillStage (digest : String → String) (input : PipelineInput) (intent opened : PyDict)
    (trace : PipelineTrace) : Stage (PaperFillSimulationResult × PipelineTrace) := do
  let fill ← ExceptT.lift (simulatePaperFill digest (.dict intent) (.dict opened) input.quote
    (ts input.tsEpoch 4) input.nowEpoch input.maxQuoteAgeSec)
  let trace := trace.warn fill.warnings
  if fill.status = .blocked then
    throw (trace, prefixed "FILL" (orBlocker fill.blockers "PAPER_PIPELINE_FILL_BLOCKED"))
  else pure (fill, trace)

def emitFill (digest : String → String) (input : PipelineInput) (intent : PyDict)
    (fill : PaperFillSimulationResult) (trace : PipelineTrace) : PipelineTrace :=
  match fill.toDict.get "lifecycle_event" with
  | .dict fillLifecycle =>
      trace.emit (canonicalEvent digest (printValue input.cycleId) 4
        (canonicalFillEventType (PyDict.get fillLifecycle "status"))
        (fill.toDict.set "lifecycle_event" (.dict fillLifecycle)) intent fillLifecycle
        (ts input.tsEpoch 4))
  | _ => trace

def reduceStage (trace : PipelineTrace) : Stage (PaperReducedState × PipelineTrace) := do
  let eventBlockers ← ExceptT.lift (validateCanonicalEvents trace.events)
  if eventBlockers ≠ [] then throw (trace, prefixed "CANONICAL_EVENT" eventBlockers)
  else
    let ordering ← ExceptT.lift (guardPaperEventOrdering (.list (trace.events.map .dict)))
    let trace := trace.warn ordering.warnings
    if ordering.status = .blocked then
      throw (trace, prefixed "ORDERING"
        (orBlocker ordering.blockers "PAPER_PIPELINE_ORDERING_BLOCKED"))
    else
      let reducer ← ExceptT.lift (reducePaperEvents
        (.list (ordering.orderedEvents.map fun event => .dict event.toDict)))
      let trace := trace.warn reducer.warnings
      if reducer.status = .blocked then
        throw (trace, prefixed "REDUCER"
          (orBlocker reducer.blockers "PAPER_PIPELINE_REDUCER_BLOCKED"))
      else pure (reducer.state, trace)

def pipelineStages (digest : String → String) (input : PipelineInput) (trace : PipelineTrace) :
    Stage (PaperReducedState × PipelineTrace) := do
  let cycleId := printValue input.cycleId
  let (intent, trace) ← intentStage digest input trace
  let trace := trace.emit (canonicalEvent digest cycleId 1 "PAPER_ORDER_INTENT_CREATED" intent
    intent [] input.tsEpoch)
  let (created, trace) ← lifecycleStage digest intent "CREATED" .none (ts input.tsEpoch 1)
    "LIFECYCLE_CREATED" "PAPER_PIPELINE_CREATED_EVENT_NOT_CREATED" trace
  let (accepted, trace) ← lifecycleStage digest intent "ACCEPTED" (.dict created)
    (ts input.tsEpoch 2) "LIFECYCLE_ACCEPTED" "PAPER_PIPELINE_ACCEPTED_EVENT_NOT_CREATED" trace
  let trace := trace.emit (canonicalEvent digest cycleId 2 "PAPER_ORDER_ACCEPTED" accepted intent
    accepted (ts input.tsEpoch 2))
  let (opened, trace) ← lifecycleStage digest intent "OPEN" (.dict accepted) (ts input.tsEpoch 3)
    "LIFECYCLE_OPENED" "PAPER_PIPELINE_OPEN_EVENT_NOT_CREATED" trace
  let trace := trace.emit (canonicalEvent digest cycleId 3 "PAPER_ORDER_OPENED" opened intent
    opened (ts input.tsEpoch 3))
  let (fill, trace) ← fillStage digest input intent opened trace
  reduceStage (emitFill digest input intent fill trace)

def runPaperTradingPipeline (digest : String → String) (input : PipelineInput) :
    Except PyError PaperTradingPipelineResult := do
  let trace : PipelineTrace :=
    { cycleId := input.cycleId
      candidateId := candidateId input.topExecutable
      strategyId := strategyId input.topExecutable }
  let inputBlockers := validatePaperTradingPipelineInputs input
  if inputBlockers ≠ [] then
    pure
      { completed := false
        status := .blocked
        cycleId := strOrNone input.cycleId
        candidateId := trace.candidateId
        strategyId := trace.strategyId
        blockers := inputBlockers }
  else
    match ← (pipelineStages digest input trace).run with
    | .error (trace, blockers) => pure (trace.blockedResult blockers)
    | .ok (state, trace) =>
        pure
          { completed := true
            status := .completed
            cycleId := some (printValue input.cycleId)
            candidateId := trace.candidateId
            strategyId := trace.strategyId
            events := trace.events
            state := some state
            warnings := dedupe trace.warnings }

/-! ### The stages -/

open PaperOrderLifecycleStatus

open StateReducer OrderIdentity Transition

/-! ### The fill stage -/

def orderIdOf (digest : String → String) (intent : PyDict) : String :=
  stablePaperOrderId digest (printValue (intent.get "paper_order_intent_id"))
    (printValue (intent.get "candidate_id"))

inductive FillOutcome (digest : String → String) (intent : PyDict)
    (opened : PaperOrderLifecycleEvent) (fill : PaperFillSimulationResult) : Prop where
  | idle (quantity : Int) (readQuantity : intOrZero (intent.get "quantity") = .ok quantity)
      (noEvent : fill.lifecycleEvent = none)
      (cumulative : fill.cumulativeFilledQuantity = opened.filledQuantity)
      (remaining : fill.remainingQuantity = some (max (quantity - opened.filledQuantity) 0))
  | moved (next : PaperOrderLifecycleEvent) (lifecycleEvent : fill.lifecycleEvent = some next.toDict)
      (paperOrderId : next.paperOrderId = orderIdOf digest intent)
      (status : next.status ∈ [partiallyFilled, filled, rejected, expired])
      (remaining : fill.remainingQuantity.isSome = true)

section Fill

variable {digest : String → String} {intent : PyDict} {opened : PaperOrderLifecycleEvent}
variable {fill : PaperFillSimulationResult}

private theorem terminal_moved {status : PaperFillSimulationStatus}
    (ended : PaperOrderLifecycleStatus) (terminal : ended = .rejected ∨ ended = .expired)
    {quote : PyDict} {reason : String} {previousFilled remainingBefore : Int}
    {warnings : List String} {evidence : PyDict}
    (simulated : terminalSimulationResult digest status ended.value intent opened.toDict quote tsEpoch
      reason previousFilled remainingBefore warnings evidence = .ok fill)
    (unblocked : fill.status ≠ .blocked) : FillOutcome digest intent opened fill := by
  obtain ⟨lifecycle, built, made⟩ := bind_eq_ok.mp simulated
  have call : buildPaperOrderLifecycleEvent digest (.dict intent) ended.value
      (eventValue (some opened)) tsEpoch (some reason) (.int 0) .none = .ok lifecycle := built
  cases build_outcome call with
  | blocked created event =>
      rw [created, if_neg Bool.false_ne_true] at made
      cases made
      exact absurd rfl unblocked
  | created status quantity wanted next created eventEq coerced readQuantity readFill accepts
      records =>
      rw [created, if_pos rfl] at made
      cases made
      cases (coerceStatus_value ended).symm.trans coerced
      refine .moved next (by rw [eventEq]; rfl) records.paperOrderId ?_ rfl
      rw [records.statusEq]
      rcases terminal with rfl | rfl <;> decide

private theorem fillResult_moved {quantity previousFilled fillQuantity : Int} {fillPrice : PyFloat}
    {warnings : List String} {evidence : PyDict}
    (simulated : fillResult digest intent opened.toDict tsEpoch quantity previousFilled fillQuantity
      fillPrice warnings evidence = .ok fill) (unblocked : fill.status ≠ .blocked) :
    FillOutcome digest intent opened fill := by
  obtain ⟨lifecycle, built, made⟩ := bind_eq_ok.mp simulated
  generalize requestedEq : (if max (quantity - (previousFilled + fillQuantity)) 0 = 0 then "FILLED"
    else "PARTIALLY_FILLED") = requested at built made
  have call : buildPaperOrderLifecycleEvent digest (.dict intent) requested
      (eventValue (some opened)) tsEpoch (some "paper fill simulation from controlled quote")
      (.int (previousFilled + fillQuantity)) (.float fillPrice) = .ok lifecycle := built
  cases build_outcome call with
  | blocked created event =>
      rw [created, if_neg Bool.false_ne_true] at made
      cases made
      exact absurd rfl unblocked
  | created status wholeQuantity wanted next created eventEq coerced readQuantity readFill accepts
      records =>
      rw [created, if_pos rfl] at made
      cases made
      have isFill : status = .filled ∨ status = .partiallyFilled := by
        subst requestedEq
        split at coerced
        · exact .inl (Option.some.inj (coerced.symm.trans (coerceStatus_value .filled)))
        · exact .inr (Option.some.inj (coerced.symm.trans (coerceStatus_value .partiallyFilled)))
      refine .moved next (by rw [eventEq]; rfl) records.paperOrderId ?_ rfl
      rw [records.statusEq]
      rcases isFill with rfl | rfl <;> decide

theorem simulatePaperFill_outcome {quote : PyValue} {nowEpoch : Option PyFloat}
    {maxQuoteAgeSec : PyFloat}
    (simulated : simulatePaperFill digest (.dict intent) (.dict opened.toDict) quote tsEpoch nowEpoch
      maxQuoteAgeSec = .ok fill) (unblocked : fill.status ≠ .blocked) :
    FillOutcome digest intent opened fill := by
  unfold simulatePaperFill at simulated
  obtain ⟨⟨blockers, warnings⟩, validated, simulated⟩ := bind_eq_ok.mp simulated
  dsimp only at simulated
  split at simulated
  · cases simulated
    exact absurd rfl unblocked
  · obtain ⟨quantity, readQuantity, simulated⟩ := bind_eq_ok.mp simulated
    obtain ⟨previousFilled, readFilled, simulated⟩ := bind_eq_ok.mp simulated
    cases (rfl : intOrZero (PyDict.get opened.toDict "filled_quantity") =
      .ok opened.filledQuantity).symm.trans readFilled
    split at simulated
    · exact terminal_moved .expired (.inr rfl) simulated unblocked
    · split at simulated
      · exact terminal_moved .rejected (.inl rfl) simulated unblocked
      · split at simulated
        · cases simulated
          exact .idle quantity readQuantity rfl rfl rfl
        · obtain ⟨available, _, simulated⟩ := bind_eq_ok.mp simulated
          split at simulated
          · cases simulated
            exact .idle quantity readQuantity rfl rfl rfl
          · exact fillResult_moved simulated unblocked

end Fill

/-! ### The stages of a run -/

structure StageValues where
  intent : PaperOrderIntent
  created : PaperOrderLifecycleEvent
  accepted : PaperOrderLifecycleEvent
  opened : PaperOrderLifecycleEvent
  fill : PaperFillSimulationResult

def StageEvent (digest : String → String) (intent : PaperOrderIntent)
    (status : PaperOrderLifecycleStatus) (previous : Option PaperOrderLifecycleEvent)
    (tsEpoch : Option PyFloat) (event : PaperOrderLifecycleEvent) : Prop :=
  ∃ result, buildPaperOrderLifecycleEvent digest (.dict intent.toDict) status.value
    (eventValue previous) tsEpoch none .none .none = .ok result ∧ result.event = some event

structure Stages (digest : String → String) (input : PipelineInput) (values : StageValues) :
    Prop where
  creates : Creates digest input.intentInput values.intent
  created : StageEvent digest values.intent .created none (ts input.tsEpoch 1) values.created
  accepted : StageEvent digest values.intent .accepted (some values.created) (ts input.tsEpoch 2)
    values.accepted
  opened : StageEvent digest values.intent .opened (some values.accepted) (ts input.tsEpoch 3)
    values.opened
  simulated : simulatePaperFill digest (.dict values.intent.toDict) (.dict values.opened.toDict)
    input.quote (ts input.tsEpoch 4) input.nowEpoch input.maxQuoteAgeSec = .ok values.fill
  unblocked : values.fill.status ≠ .blocked

section StageProofs

variable {digest : String → String} {input : PipelineInput} {values : StageValues}
variable {trace after : PipelineTrace}

theorem StageEvent.records {intent : PaperOrderIntent} {status : PaperOrderLifecycleStatus}
    {previous : Option PaperOrderLifecycleEvent} {event : PaperOrderLifecycleEvent}
    (staged : StageEvent digest intent status previous tsEpoch event) :
    ∃ quantity, intOrZero (PyDict.get intent.toDict "quantity") = .ok quantity ∧
      Records digest intent.toDict status previous quantity none .none event := by
  obtain ⟨result, built, same⟩ := staged
  cases build_outcome built with
  | blocked _ event =>
      rw [event] at same
      cases same
  | created own quantity wanted own created eventEq coerced readQuantity readFill accepts records =>
      rw [eventEq] at same
      cases same
      cases (coerceStatus_value status).symm.trans coerced
      cases (intOrNone_none).symm.trans readFill
      exact ⟨quantity, readQuantity, records⟩

theorem intentStage_ok {intent : PyDict}
    (staged : (intentStage digest input trace).run = .ok (.ok (intent, after))) :
    ∃ made, Creates digest input.intentInput made ∧ intent = made.toDict ∧
      after.events = trace.events := by
  obtain ⟨result, built, staged⟩ := run_bind_eq_ok.mp staged
  rw [run_lift_eq_ok] at built
  dsimp only at staged
  cases madeEq : result.intent with
  | none =>
      rw [madeEq] at staged
      cases staged
  | some made =>
      rw [madeEq] at staged
      dsimp only at staged
      split at staged
      · cases staged
        exact ⟨made, ⟨result, built, madeEq⟩, rfl, rfl⟩
      · cases staged

theorem lifecycleStage_ok {intent : PaperOrderIntent} (status : PaperOrderLifecycleStatus)
    (previous : Option PaperOrderLifecycleEvent) {source missing : String} {event : PyDict}
    (staged : (lifecycleStage digest intent.toDict status.value
      (eventValue previous) tsEpoch source missing trace).run = .ok (.ok (event, after))) :
    ∃ made, StageEvent digest intent status previous tsEpoch made ∧ event = made.toDict ∧
      after.events = trace.events := by
  obtain ⟨result, built, staged⟩ := run_bind_eq_ok.mp staged
  rw [run_lift_eq_ok] at built
  dsimp only at staged
  cases madeEq : result.event with
  | none =>
      rw [madeEq] at staged
      cases staged
  | some made =>
      rw [madeEq] at staged
      dsimp only at staged
      split at staged
      · cases staged
        exact ⟨made, ⟨result, built, madeEq⟩, rfl, rfl⟩
      · cases staged

theorem fillStage_ok {intent opened : PyDict} {fill : PaperFillSimulationResult}
    (staged : (fillStage digest input intent opened trace).run = .ok (.ok (fill, after))) :
    simulatePaperFill digest (.dict intent) (.dict opened) input.quote (ts input.tsEpoch 4)
      input.nowEpoch input.maxQuoteAgeSec = .ok fill ∧ fill.status ≠ .blocked ∧
      after.events = trace.events := by
  obtain ⟨own, simulated, staged⟩ := run_bind_eq_ok.mp staged
  rw [run_lift_eq_ok] at simulated
  split at staged
  · cases staged
  · rename_i unblocked
    cases staged
    exact ⟨simulated, unblocked, rfl⟩

private theorem normalized_again {raws : List PyDict} {first second : List NormalizedEvent}
    (read : List.Forall₂ (fun raw event => normalizePaperEvent (.dict raw) = .ok event ∧
      normalizedEventBlockers event = []) raws first)
    (again : List.Forall₂ (fun (event : NormalizedEvent) other =>
      normalizePaperEvent (.dict event.toDict) = .ok other ∧ normalizedEventBlockers other = [])
      first second) : second = first := by
  induction read generalizing second with
  | nil =>
      cases again
      rfl
  | cons head _ ih =>
      obtain ⟨other, rest, headAgain, tailAgain, rfl⟩ := List.forall₂_cons_left_iff.mp again
      cases (normalizePaperEvent_toDict head.1).symm.trans headAgain.1
      rw [ih tailAgain]

theorem reduceStage_ok {state : PaperReducedState}
    (staged : (reduceStage trace).run = .ok (.ok (state, after))) :
    ∃ events reduced warnings,
      List.Forall₂ (fun raw event => normalizePaperEvent (.dict raw) = .ok event) trace.events
        events ∧
      EventRun ({}, []) events (reduced, warnings) ∧
      state = { reduced with summary := buildSummary reduced } := by
  obtain ⟨eventBlockers, _, staged⟩ := run_bind_eq_ok.mp staged
  split at staged
  · cases staged
  · obtain ⟨ordering, guarded, staged⟩ := run_bind_eq_ok.mp staged
    rw [run_lift_eq_ok] at guarded
    dsimp only at staged
    split at staged
    · cases staged
    · rename_i unguarded
      obtain ⟨reducer, called, staged⟩ := run_bind_eq_ok.mp staged
      rw [run_lift_eq_ok] at called
      split at staged
      · cases staged
      · rename_i unblocked
        cases staged
        obtain ⟨events, reduced, reduces, stateEq⟩ := reduces_of_unblocked called unblocked
        have guardRead := guard_orderedEvents guarded unguarded
        have again := reduces.normalized
        obtain ⟨_, warnings, _, _, _, run⟩ := reduces
        rw [List.forall₂_map_left_iff] at guardRead again
        -- The reducer normalizes what the guard has normalized already.
        have stable := normalized_again guardRead again
        refine ⟨events, reduced, warnings, ?_, run, stateEq⟩
        rw [stable]
        exact guardRead.imp fun _ _ both => both.1

end StageProofs

def openingEvents (digest : String → String) (input : PipelineInput) (values : StageValues) :
    List PyDict :=
  let cycleId := printValue input.cycleId
  let intent := values.intent.toDict
  [canonicalEvent digest cycleId 1 "PAPER_ORDER_INTENT_CREATED" intent intent [] input.tsEpoch,
    canonicalEvent digest cycleId 2 "PAPER_ORDER_ACCEPTED" values.accepted.toDict intent
      values.accepted.toDict (ts input.tsEpoch 2),
    canonicalEvent digest cycleId 3 "PAPER_ORDER_OPENED" values.opened.toDict intent
      values.opened.toDict (ts input.tsEpoch 3)]

section Run

variable {digest : String → String} {input : PipelineInput} {values : StageValues}
variable {trace after : PipelineTrace} {state : PaperReducedState}

theorem pipelineStages_ok (unstarted : trace.events = [])
    (staged : (pipelineStages digest input trace).run = .ok (.ok (state, after))) :
    ∃ values opening events reduced warnings, Stages digest input values ∧
      opening.events = openingEvents digest input values ∧
      List.Forall₂ (fun raw event => normalizePaperEvent (.dict raw) = .ok event)
        (emitFill digest input values.intent.toDict values.fill opening).events events ∧
      EventRun ({}, []) events (reduced, warnings) ∧
      state = { reduced with summary := buildSummary reduced } := by
  unfold pipelineStages at staged
  obtain ⟨⟨_, _⟩, intentStaged, staged⟩ := run_bind_eq_ok.mp staged
  obtain ⟨intent, creates, rfl, intentEvents⟩ := intentStage_ok intentStaged
  obtain ⟨⟨_, _⟩, createdStaged, staged⟩ := run_bind_eq_ok.mp staged
  obtain ⟨created, createdStage, rfl, createdEvents⟩ :=
    lifecycleStage_ok .created none createdStaged
  obtain ⟨⟨_, _⟩, acceptedStaged, staged⟩ := run_bind_eq_ok.mp staged
  obtain ⟨accepted, acceptedStage, rfl, acceptedEvents⟩ :=
    lifecycleStage_ok .accepted (some created) acceptedStaged
  obtain ⟨⟨_, _⟩, openedStaged, staged⟩ := run_bind_eq_ok.mp staged
  obtain ⟨opened, openedStage, rfl, openedEvents⟩ :=
    lifecycleStage_ok .opened (some accepted) openedStaged
  obtain ⟨⟨fill, _⟩, fillStaged, staged⟩ := run_bind_eq_ok.mp staged
  obtain ⟨simulated, unblocked, fillEvents⟩ := fillStage_ok fillStaged
  obtain ⟨events, reduced, warnings, read, run, stateEq⟩ := reduceStage_ok staged
  refine ⟨⟨intent, created, accepted, opened, fill⟩, _, events, reduced, warnings,
    ⟨creates, createdStage, acceptedStage, openedStage, simulated, unblocked⟩, ?_, read, run,
    stateEq⟩
  rw [fillEvents]
  change _ ++ [_] = _
  rw [openedEvents]
  change (_ ++ [_]) ++ [_] = _
  rw [acceptedEvents, createdEvents]
  change ((_ ++ [_]) ++ [_]) ++ [_] = _
  rw [intentEvents, unstarted]
  rfl

theorem emitFill_events {opened : PaperOrderLifecycleEvent} {fill : PaperFillSimulationResult}
    {intent : PyDict} (outcome : FillOutcome digest intent opened fill) :
    (emitFill digest input intent fill trace).events = trace.events ++
      match fill.lifecycleEvent with
      | some next => [canonicalEvent digest (printValue input.cycleId) 4
          (canonicalFillEventType (next.get "status"))
          (fill.toDict.set "lifecycle_event" (.dict next)) intent next (ts input.tsEpoch 4)]
      | none => [] := by
  have stored : PyDict.get fill.toDict "lifecycle_event" = match fill.lifecycleEvent with
      | some event => if event.isEmpty then .none else .dict event
      | none => .none := rfl
  unfold emitFill
  rw [stored]
  cases outcome with
  | idle _ _ noEvent =>
      rw [noEvent, List.append_nil]
  | moved next lifecycleEvent =>
      rw [lifecycleEvent]
      rfl

end Run

end Algotradify.Paper.Pipeline
