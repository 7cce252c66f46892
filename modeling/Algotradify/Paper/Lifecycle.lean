/-
The paper order lifecycle: which status may follow which, what a lifecycle event
records, and when one is created.

A lifecycle event object and its dictionary are read alike by the code, so a
previous event is a value that is a dictionary or is no event at all.

The order machine behind the lifecycle builder: an order has a status, a
cumulative fill and an event number, and moves along the transition table.

The builder reads texts and dictionaries; on the events it has made itself it
creates an event exactly for the moves of this machine.
-/

import Algotradify.Paper.Common

namespace Algotradify.Paper.Lifecycle

open Py

/-! ### States and transitions -/

inductive PaperOrderLifecycleStatus where
  | created
  | accepted
  | opened
  | partiallyFilled
  | filled
  | rejected
  | cancelled
  | expired
deriving DecidableEq, Repr

namespace PaperOrderLifecycleStatus

def value : PaperOrderLifecycleStatus → String
  | .created => "CREATED"
  | .accepted => "ACCEPTED"
  | .opened => "OPEN"
  | .partiallyFilled => "PARTIALLY_FILLED"
  | .filled => "FILLED"
  | .rejected => "REJECTED"
  | .cancelled => "CANCELLED"
  | .expired => "EXPIRED"

def all : List PaperOrderLifecycleStatus :=
  [.created, .accepted, .opened, .partiallyFilled, .filled, .rejected, .cancelled, .expired]

end PaperOrderLifecycleStatus

/-- `TERMINAL_PAPER_ORDER_STATES`. -/
def terminalPaperOrderStates : List String := ["FILLED", "REJECTED", "CANCELLED", "EXPIRED"]

/-- `VALID_PAPER_ORDER_STATES`. -/
def validPaperOrderStates : List String :=
  ["CREATED", "ACCEPTED", "OPEN", "PARTIALLY_FILLED", "FILLED", "REJECTED", "CANCELLED", "EXPIRED"]

/-- `VALID_TRANSITIONS`; a text that is no key has no entry. -/
def validTransitions : Option String → Option (List String)
  | none => some ["CREATED"]
  | some previous =>
      [("CREATED", ["ACCEPTED", "REJECTED", "CANCELLED", "EXPIRED"]),
        ("ACCEPTED", ["OPEN", "REJECTED", "CANCELLED", "EXPIRED"]),
        ("OPEN", ["PARTIALLY_FILLED", "FILLED", "CANCELLED", "EXPIRED", "REJECTED"]),
        ("PARTIALLY_FILLED", ["PARTIALLY_FILLED", "FILLED", "CANCELLED", "EXPIRED"]),
        ("FILLED", []), ("REJECTED", []), ("CANCELLED", []), ("EXPIRED", [])].lookup previous

/-! ### Events -/

structure PaperOrderLifecycleEvent where
  paperOrderId : String
  paperOrderIntentId : String
  candidateId : String
  status : PaperOrderLifecycleStatus
  tsEpoch : Option PyFloat := none
  reason : Option String := none
  filledQuantity : Int := 0
  remainingQuantity : Option Int := none
  averageFillPrice : Option PyFloat := none
  eventSequence : Int := 1
  source : String := "paper_order_lifecycle"
  intentSnapshot : PyDict := []
  evidence : PyDict := []
deriving Repr

def PaperOrderLifecycleEvent.toDict (event : PaperOrderLifecycleEvent) : PyDict :=
  [("schema_version", .str "1.0"),
    ("event_type", .str "PAPER_ORDER_LIFECYCLE_EVENT"),
    ("paper_order_id", .str event.paperOrderId),
    ("paper_order_intent_id", .str event.paperOrderIntentId),
    ("candidate_id", .str event.candidateId),
    ("status", .str event.status.value),
    ("terminal", .bool (terminalPaperOrderStates.contains event.status.value)),
    ("ts_epoch", ofOptionFloat event.tsEpoch),
    ("reason", ofOptionString event.reason),
    ("filled_quantity", .int event.filledQuantity),
    ("remaining_quantity", ofOptionInt event.remainingQuantity),
    ("average_fill_price", ofOptionFloat event.averageFillPrice),
    ("event_sequence", .int event.eventSequence),
    ("source", .str event.source),
    ("intent_snapshot", .dict event.intentSnapshot),
    ("evidence", .dict event.evidence)] ++ safeFlags

structure PaperOrderLifecycleResult where
  created : Bool
  event : Option PaperOrderLifecycleEvent := none
  blockers : List String := []
  warnings : List String := []
  previousStatus : Option String := none
  requestedStatus : Option String := none
deriving Repr

/-! ### Validation -/

def coerceStatus (text : String) : Option PaperOrderLifecycleStatus :=
  PaperOrderLifecycleStatus.all.find? fun status => status.value = upper text

def lifecycleIntentBlockers (intent : PyDict) : List String :=
  if intent.isEmpty then ["PAPER_INTENT_REQUIRED"]
  else
    validateSafeFlags intent "PAPER_INTENT" ++
      blockerIf (intent.get "paper_order_intent_id").isNoneOrEmpty
        "PAPER_ORDER_INTENT_ID_REQUIRED" ++
      blockerIf (intent.get "candidate_id").isNoneOrEmpty "CANDIDATE_ID_REQUIRED"

def transitionBlockers (requested : String) (previous : Option String) : List String :=
  match validTransitions previous with
  | none => ["UNKNOWN_PREVIOUS_PAPER_ORDER_STATUS"]
  | some allowed =>
      blockerIf (validPaperOrderStates.contains requested && !allowed.contains requested)
        "INVALID_PAPER_ORDER_TRANSITION"

def isFillStatus (requested : String) : Bool :=
  ["PARTIALLY_FILLED", "FILLED"].contains requested

def fillQuantityBlockers (requested : String) (quantity : Int) : Option Int → List String
  | none => ["FILLED_QUANTITY_REQUIRED"]
  | some fill =>
      if fill ≤ 0 then ["FILLED_QUANTITY_MUST_BE_POSITIVE"]
      else if quantity ≠ 0 ∧ fill > quantity then ["FILLED_QUANTITY_EXCEEDS_ORDER_QUANTITY"]
      else if requested = "PARTIALLY_FILLED" ∧ quantity ≠ 0 ∧ fill ≥ quantity then
        ["PARTIAL_FILL_MUST_BE_LESS_THAN_ORDER_QUANTITY"]
      else []

def fillBlockers (requested : String) (quantity : Int) (requestedFill : Option Int) : List String :=
  if isFillStatus requested then
    blockerIf (decide (quantity ≤ 0)) "PAPER_ORDER_QUANTITY_REQUIRED_FOR_FILL" ++
      fillQuantityBlockers requested quantity requestedFill
  else []

def validatePaperOrderLifecycleTransition (intent : PyValue) (requestedStatus : String)
    (previousStatus : Option String) (filledQuantity : PyValue) :
    Except PyError (List String × List String) := do
  let requested := upper requestedStatus
  let previous := (previousStatus.filter (· ≠ "")).map upper
  let quantity ← intOrZero (intent.asDict.get "quantity")
  let requestedFill ← intOrNone filledQuantity
  let warnings := blockerIf (!isFillStatus requested && requestedFill.getD 0 != 0)
    "FILLED_QUANTITY_IGNORED_FOR_NON_FILL_STATUS"
  pure (dedupe (blockerIf (!validPaperOrderStates.contains requested) "INVALID_PAPER_ORDER_STATUS" ++
    lifecycleIntentBlockers intent.asDict ++ transitionBlockers requested previous ++
    fillBlockers requested quantity requestedFill), dedupe warnings)

/-! ### Creating an event -/

/-- `_previous_status`: a previous event that is no dictionary has no status. -/
def previousStatus (previousEvent : PyValue) : Option String :=
  let status := previousEvent.asDict.get "status"
  if status.isNoneOrEmpty then none else some (upper (printValue status))

def previousSequence (previousEvent : PyValue) : Except PyError Int :=
  intOrZero (previousEvent.asDict.get "event_sequence")

/-- `_filled_quantity`: the caller's quantity for a fill, else what was filled before. -/
def filledQuantity (status : PaperOrderLifecycleStatus) (previousEvent requestedFill : PyValue)
    (quantity : Int) : Except PyError Int := do
  let previousFill ← intOrZero (previousEvent.asDict.get "filled_quantity")
  match status with
  | .filled =>
      let requested ← intOrZero requestedFill
      pure (if requested ≠ 0 then requested else quantity)
  | .partiallyFilled => intOrZero requestedFill
  | _ => pure previousFill

def stablePaperOrderId (digest : String → String) (paperOrderIntentId candidateId : String) :
    String :=
  "paper-order-" ++ digest (paperOrderIntentId ++ "|" ++ candidateId)

def newEvent (digest : String → String) (intent : PyDict) (status : PaperOrderLifecycleStatus)
    (previousEvent : PyValue) (tsEpoch : Option PyFloat) (reason : Option String)
    (requestedFill averageFillPrice : PyValue) : Except PyError PaperOrderLifecycleEvent := do
  let quantity ← intOrZero (intent.get "quantity")
  let filled ← filledQuantity status previousEvent requestedFill quantity
  let sequence ← previousSequence previousEvent
  pure
    { paperOrderId := stablePaperOrderId digest (printValue (intent.get "paper_order_intent_id"))
        (printValue (intent.get "candidate_id"))
      paperOrderIntentId := printValue (intent.get "paper_order_intent_id")
      candidateId := printValue (intent.get "candidate_id")
      status := status
      tsEpoch := tsEpoch
      reason := reason
      filledQuantity := filled
      remainingQuantity := some (if quantity ≠ 0 then max (quantity - filled) 0 else 0)
      averageFillPrice := floatOrNone averageFillPrice
      eventSequence := sequence + 1
      intentSnapshot := intent
      evidence := [("previous_status", ofOptionString (previousStatus previousEvent)),
        ("requested_status", .str status.value)] ++ safeFlags }

def buildPaperOrderLifecycleEvent (digest : String → String) (intent : PyValue)
    (requestedStatus : String) (previousEvent : PyValue) (tsEpoch : Option PyFloat)
    (reason : Option String) (requestedFill averageFillPrice : PyValue) :
    Except PyError PaperOrderLifecycleResult := do
  let status := coerceStatus requestedStatus
  let requested := (status.map PaperOrderLifecycleStatus.value).getD requestedStatus
  let previous := previousStatus previousEvent
  let (blockers, warnings) ←
    validatePaperOrderLifecycleTransition intent requested previous requestedFill
  match blockers, status with
  | [], some status =>
      let event ← newEvent digest intent.asDict status previousEvent tsEpoch reason requestedFill
        averageFillPrice
      pure
        { created := true
          event := some event
          warnings := warnings
          previousStatus := previous
          requestedStatus := some status.value }
  | _, _ =>
      pure
        { created := false
          blockers := if blockers = [] then ["INVALID_PAPER_ORDER_STATUS"] else blockers
          warnings := warnings
          previousStatus := previous
          requestedStatus := some requested }

/-! ### The machine -/

namespace PaperOrderLifecycleStatus

def next : Option PaperOrderLifecycleStatus → List PaperOrderLifecycleStatus
  | none => [.created]
  | some .created => [.accepted, .rejected, .cancelled, .expired]
  | some .accepted => [.opened, .rejected, .cancelled, .expired]
  | some .opened => [.partiallyFilled, .filled, .cancelled, .expired, .rejected]
  | some .partiallyFilled => [.partiallyFilled, .filled, .cancelled, .expired]
  | some _ => []

def IsFill (status : PaperOrderLifecycleStatus) : Prop :=
  status = .partiallyFilled ∨ status = .filled

def IsTerminal (status : PaperOrderLifecycleStatus) : Prop :=
  status = .filled ∨ status = .rejected ∨ status = .cancelled ∨ status = .expired

instance (status : PaperOrderLifecycleStatus) : Decidable status.IsFill :=
  inferInstanceAs (Decidable (_ ∨ _))

instance (status : PaperOrderLifecycleStatus) : Decidable status.IsTerminal :=
  inferInstanceAs (Decidable (_ ∨ _))

theorem upper_value (status : PaperOrderLifecycleStatus) : upper status.value = status.value := by
  cases status <;> decide

theorem value_injective : Function.Injective value := by
  intro left right same
  cases left <;> cases right <;> first | rfl | exact absurd same (by decide)

theorem value_ne_empty (status : PaperOrderLifecycleStatus) : status.value ≠ "" := by
  cases status <;> decide

theorem valid_value (status : PaperOrderLifecycleStatus) :
    validPaperOrderStates.contains status.value = true := by
  cases status <;> decide

theorem isFillStatus_value (status : PaperOrderLifecycleStatus) :
    isFillStatus status.value = true ↔ status.IsFill := by
  cases status <;> decide

theorem validTransitions_value (previous : Option PaperOrderLifecycleStatus) :
    validTransitions (previous.map value) = some ((next previous).map value) := by
  cases previous with
  | none => rfl
  | some status => cases status <;> rfl

theorem coerceStatus_value (status : PaperOrderLifecycleStatus) :
    coerceStatus status.value = some status := by
  cases status <;> decide

theorem next_of_terminal {status : PaperOrderLifecycleStatus} (terminal : status.IsTerminal) :
    next (some status) = [] := by
  rcases terminal with rfl | rfl | rfl | rfl <;> rfl

end PaperOrderLifecycleStatus

open PaperOrderLifecycleStatus

/-! ### When a call is accepted -/

structure Accepts (intent : PyDict) (previous : Option PaperOrderLifecycleStatus)
    (status : PaperOrderLifecycleStatus) (quantity : Int) (requestedFill : Option Int) : Prop where
  intent : dedupe (lifecycleIntentBlockers intent) = []
  allowed : status ∈ next previous
  fill : status.IsFill → ∃ fill, requestedFill = some fill ∧ 0 < fill ∧ fill ≤ quantity ∧
    (status = .partiallyFilled → fill < quantity)

private theorem transitionBlockers_value (previous : Option PaperOrderLifecycleStatus)
    (status : PaperOrderLifecycleStatus) :
    dedupe (transitionBlockers status.value (previous.map value)) = [] ↔ status ∈ next previous := by
  unfold transitionBlockers
  rw [validTransitions_value]
  dsimp only
  rw [valid_value, Bool.true_and, dedupe_blockerIf_eq_nil _ (by decide), Bool.not_eq_false',
    List.contains_iff_mem]
  constructor
  · intro member
    obtain ⟨other, present, same⟩ := List.mem_map.mp member
    exact value_injective same ▸ present
  · intro member
    exact List.mem_map_of_mem member

private theorem fillQuantityBlockers_value (status : PaperOrderLifecycleStatus) {quantity : Int}
    (positive : 0 < quantity) (requestedFill : Option Int) :
    dedupe (fillQuantityBlockers status.value quantity requestedFill) = [] ↔
      ∃ fill, requestedFill = some fill ∧ 0 < fill ∧ fill ≤ quantity ∧
        (status = .partiallyFilled → fill < quantity) := by
  have partly : status.value = "PARTIALLY_FILLED" ↔ status = .partiallyFilled := by
    cases status <;> decide
  have nonzero : quantity ≠ 0 := by omega
  cases requestedFill with
  | none =>
      have required : dedupe (fillQuantityBlockers status.value quantity none) ≠ [] := by
        change dedupe ["FILLED_QUANTITY_REQUIRED"] ≠ []
        decide
      refine iff_of_false required ?_
      rintro ⟨fill, impossible, _⟩
      cases impossible
  | some fill =>
      unfold fillQuantityBlockers
      dsimp only
      by_cases nonpositive : fill ≤ 0
      · rw [if_pos nonpositive]
        refine iff_of_false (by decide) ?_
        rintro ⟨other, same, above, _⟩
        cases same
        omega
      rw [if_neg nonpositive]
      by_cases exceeds : quantity ≠ 0 ∧ fill > quantity
      · rw [if_pos exceeds]
        refine iff_of_false (by decide) ?_
        rintro ⟨other, same, _, within, _⟩
        cases same
        omega
      rw [if_neg exceeds]
      by_cases whole : status.value = "PARTIALLY_FILLED" ∧ quantity ≠ 0 ∧ fill ≥ quantity
      · rw [if_pos whole]
        refine iff_of_false (by decide) ?_
        rintro ⟨other, same, _, _, less⟩
        cases same
        have below := less (partly.mp whole.1)
        omega
      · rw [if_neg whole]
        refine iff_of_true rfl ⟨fill, rfl, by omega, by omega, ?_⟩
        intro isPartial
        have text := partly.mpr isPartial
        by_contra atLeast
        exact whole ⟨text, nonzero, by omega⟩

theorem fillBlockers_value (status : PaperOrderLifecycleStatus) (quantity : Int)
    (requestedFill : Option Int) :
    dedupe (fillBlockers status.value quantity requestedFill) = [] ↔
      (status.IsFill → ∃ fill, requestedFill = some fill ∧ 0 < fill ∧ fill ≤ quantity ∧
        (status = .partiallyFilled → fill < quantity)) := by
  unfold fillBlockers
  by_cases isFill : status.IsFill
  · rw [if_pos ((isFillStatus_value status).mpr isFill), dedupe_append_eq_nil,
      dedupe_blockerIf_eq_nil _ (by decide), decide_eq_false_iff_not, not_le]
    constructor
    · rintro ⟨positive, quantities⟩ _
      exact (fillQuantityBlockers_value status positive requestedFill).mp quantities
    · intro fills
      have wanted := fills isFill
      obtain ⟨fill, _, above, within, _⟩ := fills isFill
      have positive : 0 < quantity := lt_of_lt_of_le above within
      exact ⟨positive, (fillQuantityBlockers_value status positive requestedFill).mpr wanted⟩
  · rw [if_neg (fun text => isFill ((isFillStatus_value status).mp text))]
    exact iff_of_true rfl (fun impossible => absurd impossible isFill)

theorem validate_value {intent requestedFill : PyValue} {quantity : Int} {fill : Option Int}
    (previous : Option PaperOrderLifecycleStatus) (status : PaperOrderLifecycleStatus)
    (readQuantity : intOrZero (intent.asDict.get "quantity") = .ok quantity)
    (readFill : intOrNone requestedFill = .ok fill) :
    ∃ blockers warnings, validatePaperOrderLifecycleTransition intent status.value
        (previous.map value) requestedFill = .ok (blockers, warnings) ∧
      (blockers = [] ↔ Accepts intent.asDict previous status quantity fill) := by
  have unfiltered : ((previous.map value).filter (· ≠ "")).map upper = previous.map value := by
    cases previous with
    | none => rfl
    | some status =>
        have kept : (some status.value).filter (fun text => decide (text ≠ "")) =
            some status.value :=
          Option.filter_some_pos (decide_eq_true (value_ne_empty status))
        rw [Option.map_some, kept, Option.map_some, upper_value]
  unfold validatePaperOrderLifecycleTransition
  rw [readQuantity, readFill]
  simp only [bind, Except.bind, pure, Except.pure, unfiltered, upper_value]
  refine ⟨_, _, rfl, ?_⟩
  have known : blockerIf (!validPaperOrderStates.contains status.value)
      "INVALID_PAPER_ORDER_STATUS" = [] := by
    rw [valid_value]
    rfl
  rw [known, List.nil_append, dedupe_append_eq_nil, dedupe_append_eq_nil,
    transitionBlockers_value, fillBlockers_value]
  constructor
  · rintro ⟨⟨ofIntent, allowed⟩, fills⟩
    exact ⟨ofIntent, allowed, fills⟩
  · intro accepts
    exact ⟨⟨accepts.intent, accepts.allowed⟩, accepts.fill⟩

/-! ### What an accepted call records -/

def eventValue : Option PaperOrderLifecycleEvent → PyValue
  | none => .none
  | some event => .dict event.toDict

def filledBefore (previous : Option PaperOrderLifecycleEvent) : Int :=
  (previous.map PaperOrderLifecycleEvent.filledQuantity).getD 0

def sequenceBefore (previous : Option PaperOrderLifecycleEvent) : Int :=
  (previous.map PaperOrderLifecycleEvent.eventSequence).getD 0

theorem previousStatus_eventValue (previous : Option PaperOrderLifecycleEvent) :
    previousStatus (eventValue previous) =
      (previous.map PaperOrderLifecycleEvent.status).map value := by
  cases previous with
  | none => rfl
  | some event =>
      have stored : PyDict.get event.toDict "status" = .str event.status.value := rfl
      unfold previousStatus
      rw [eventValue, PyValue.asDict_dict, stored]
      dsimp only
      rw [PyValue.isNoneOrEmpty, if_neg (by simp only [value_ne_empty, decide_false,
        Bool.false_eq_true, not_false_eq_true]), printValue_str, upper_value]
      rfl

structure Records (digest : String → String) (intent : PyDict) (status : PaperOrderLifecycleStatus)
    (previous : Option PaperOrderLifecycleEvent) (quantity : Int) (requestedFill : Option Int)
    (averageFillPrice : PyValue) (event : PaperOrderLifecycleEvent) : Prop where
  statusEq : event.status = status
  paperOrderId : event.paperOrderId = stablePaperOrderId digest
    (printValue (intent.get "paper_order_intent_id")) (printValue (intent.get "candidate_id"))
  paperOrderIntentId : event.paperOrderIntentId = printValue (intent.get "paper_order_intent_id")
  candidateId : event.candidateId = printValue (intent.get "candidate_id")
  filled : status.IsFill → ∀ fill, requestedFill = some fill → 0 < fill → event.filledQuantity = fill
  carried : ¬status.IsFill → event.filledQuantity = filledBefore previous
  remaining : event.remainingQuantity =
    some (if quantity ≠ 0 then max (quantity - event.filledQuantity) 0 else 0)
  priceEq : event.averageFillPrice = floatOrNone averageFillPrice
  sequence : event.eventSequence = sequenceBefore previous + 1

private theorem filledQuantity_eventValue {requestedFill : PyValue} {fill : Option Int}
    (status : PaperOrderLifecycleStatus) (previous : Option PaperOrderLifecycleEvent)
    (quantity : Int) (readFill : intOrNone requestedFill = .ok fill) :
    ∃ filled, filledQuantity status (eventValue previous) requestedFill quantity = .ok filled ∧
      (status.IsFill → ∀ wanted, fill = some wanted → 0 < wanted → filled = wanted) ∧
      (¬status.IsFill → filled = filledBefore previous) := by
  have previousFill : intOrZero ((eventValue previous).asDict.get "filled_quantity") =
      .ok (filledBefore previous) := by
    cases previous <;> rfl
  have requested : intOrZero requestedFill = .ok (fill.getD 0) := by
    rw [intOrZero, readFill]
    rfl
  unfold filledQuantity
  rw [previousFill, requested]
  simp only [bind, Except.bind, pure, Except.pure]
  cases status with
  | filled =>
      refine ⟨_, rfl, ?_, fun carried => absurd (.inr rfl) carried⟩
      intro _ wanted same positive
      subst same
      exact if_pos (by rw [Option.getD_some]; omega)
  | partiallyFilled =>
      refine ⟨_, rfl, ?_, fun carried => absurd (.inl rfl) carried⟩
      intro _ wanted same _
      rw [same, Option.getD_some]
  | created | accepted | opened | rejected | cancelled | expired =>
      refine ⟨_, rfl, ?_, fun _ => rfl⟩
      intro isFill
      exact absurd isFill (by decide)

section Build

variable {digest : String → String} {previous : Option PaperOrderLifecycleEvent}
variable {tsEpoch : Option PyFloat} {reason : Option String}
variable {requestedFill averageFillPrice : PyValue} {quantity : Int} {fill : Option Int}

variable (digest previous tsEpoch reason averageFillPrice) in
theorem newEvent_records {intent : PyDict} (status : PaperOrderLifecycleStatus)
    (readQuantity : intOrZero (intent.get "quantity") = .ok quantity)
    (readFill : intOrNone requestedFill = .ok fill) :
    ∃ event, newEvent digest intent status (eventValue previous) tsEpoch reason requestedFill
        averageFillPrice = .ok event ∧
      Records digest intent status previous quantity fill averageFillPrice event := by
  obtain ⟨filled, filledEq, isFill, carried⟩ :=
    filledQuantity_eventValue status previous quantity readFill
  have sequence : previousSequence (eventValue previous) = .ok (sequenceBefore previous) := by
    cases previous <;> rfl
  unfold newEvent
  rw [readQuantity, sequence]
  simp only [bind, Except.bind, pure, Except.pure, filledEq]
  exact ⟨_, rfl, rfl, rfl, rfl, rfl, isFill, carried, rfl, rfl, rfl⟩

inductive BuildOutcome (digest : String → String) (intent : PyValue) (requestedStatus : String)
    (previous : Option PaperOrderLifecycleEvent) (requestedFill averageFillPrice : PyValue)
    (result : PaperOrderLifecycleResult) : Prop where
  | blocked (created : result.created = false) (event : result.event = none)
  | created (status : PaperOrderLifecycleStatus) (quantity : Int) (fill : Option Int)
      (event : PaperOrderLifecycleEvent) (created : result.created = true)
      (eventEq : result.event = some event) (coerced : coerceStatus requestedStatus = some status)
      (readQuantity : intOrZero (intent.asDict.get "quantity") = .ok quantity)
      (readFill : intOrNone requestedFill = .ok fill)
      (accepts : Accepts intent.asDict (previous.map PaperOrderLifecycleEvent.status) status
        quantity fill)
      (records : Records digest intent.asDict status previous quantity fill averageFillPrice event)

theorem build_outcome {intent : PyValue} {requestedStatus : String}
    {result : PaperOrderLifecycleResult}
    (built : buildPaperOrderLifecycleEvent digest intent requestedStatus (eventValue previous)
      tsEpoch reason requestedFill averageFillPrice = .ok result) :
    BuildOutcome digest intent requestedStatus previous requestedFill averageFillPrice result := by
  unfold buildPaperOrderLifecycleEvent at built
  obtain ⟨⟨blockers, warnings⟩, validated, built⟩ := bind_eq_ok.mp built
  cases coerced : coerceStatus requestedStatus with
  | none =>
      rw [coerced] at built
      cases blockers <;> (cases built; exact .blocked rfl rfl)
  | some status =>
      rw [coerced] at built validated
      cases blockers with
      | cons blocker rest =>
          cases built
          exact .blocked rfl rfl
      | nil =>
          have reads := validated
          unfold validatePaperOrderLifecycleTransition at reads
          obtain ⟨quantity, readQuantity, reads⟩ := bind_eq_ok.mp reads
          obtain ⟨fill, readFill, _⟩ := bind_eq_ok.mp reads
          obtain ⟨_, _, same, accepted⟩ := validate_value
            (previous.map PaperOrderLifecycleEvent.status) status readQuantity readFill
          rw [previousStatus_eventValue] at validated
          cases validated.symm.trans same
          obtain ⟨event, made, records⟩ := newEvent_records digest previous tsEpoch reason
            averageFillPrice status readQuantity readFill
          dsimp only at built
          rw [made] at built
          cases built
          exact .created status quantity fill event rfl rfl coerced readQuantity readFill
            (accepted.mp rfl) records

variable (digest previous tsEpoch reason averageFillPrice) in
theorem build_accepted (intent : PyValue) {requestedStatus : String}
    {status : PaperOrderLifecycleStatus} (coerced : coerceStatus requestedStatus = some status)
    (readQuantity : intOrZero (intent.asDict.get "quantity") = .ok quantity)
    (readFill : intOrNone requestedFill = .ok fill)
    (accepts : Accepts intent.asDict (previous.map PaperOrderLifecycleEvent.status) status
      quantity fill) :
    ∃ result event, buildPaperOrderLifecycleEvent digest intent requestedStatus (eventValue previous)
        tsEpoch reason requestedFill averageFillPrice = .ok result ∧
      result.created = true ∧ result.event = some event ∧
      Records digest intent.asDict status previous quantity fill averageFillPrice event := by
  obtain ⟨blockers, warnings, validated, accepted⟩ := validate_value
    (previous.map PaperOrderLifecycleEvent.status) status readQuantity readFill
  have empty := accepted.mpr accepts
  subst empty
  obtain ⟨event, made, records⟩ := newEvent_records digest previous tsEpoch reason
    averageFillPrice status readQuantity readFill
  unfold buildPaperOrderLifecycleEvent
  rw [coerced, previousStatus_eventValue]
  dsimp only [Option.map_some, Option.getD_some]
  rw [validated]
  simp only [bind, Except.bind, pure, Except.pure, made]
  exact ⟨_, event, rfl, rfl, rfl, records⟩

end Build

end Algotradify.Paper.Lifecycle
