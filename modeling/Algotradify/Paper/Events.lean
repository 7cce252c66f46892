/-
Canonical paper events: the normal form of a journal row, the checks of a row, and
the loop in which the ordering guard and the state reducer read a list of rows.

An event object is normalized through its dictionary, so a row is a value that is
a dictionary or is no event.

The journal row of a normalized event, and the event that is read back from it.

Reading a row gives the event with the keys of its payload in order, which is the same
dictionary.
-/

import Algotradify.Paper.Common
import Algotradify.Transition.Interleaving

namespace Algotradify.Paper.Events

open Py Transition

variable {raw : PyValue}

/-- `VALID_PAPER_EVENT_TYPES`. -/
def validPaperEventTypes : List String :=
  ["PAPER_ORDER_INTENT_CREATED", "PAPER_ORDER_ACCEPTED", "PAPER_ORDER_REJECTED",
    "PAPER_ORDER_OPENED", "PAPER_ORDER_PARTIALLY_FILLED", "PAPER_ORDER_FILLED",
    "PAPER_ORDER_CANCELLED", "PAPER_ORDER_EXPIRED", "PAPER_POSITION_OPENED",
    "PAPER_POSITION_INCREASED", "PAPER_POSITION_REDUCED", "PAPER_POSITION_CLOSED",
    "PAPER_POSITION_REVERSED", "PAPER_PNL_MARKED", "PAPER_SLIPPAGE_MEASURED",
    "PAPER_PERFORMANCE_SNAPSHOT_CREATED"]

structure NormalizedEvent where
  schemaVersion : String
  eventId : Option String
  cycleId : Option String
  eventSequence : Option Int
  candidateId : Option String
  strategyId : Option String
  paperOrderIntentId : Option String
  paperOrderId : Option String
  eventType : Option String
  tsEpoch : Option PyFloat
  idempotencyKey : Option String
  payload : PyValue
  paperOnly : PyValue
  isOrderAction : PyValue
  brokerApiCalled : PyValue
  realOrderId : PyValue
deriving Repr

def NormalizedEvent.toDict (event : NormalizedEvent) : PyDict :=
  [("schema_version", .str event.schemaVersion),
    ("event_id", ofOptionString event.eventId),
    ("cycle_id", ofOptionString event.cycleId),
    ("event_sequence", ofOptionInt event.eventSequence),
    ("candidate_id", ofOptionString event.candidateId),
    ("strategy_id", ofOptionString event.strategyId),
    ("paper_order_intent_id", ofOptionString event.paperOrderIntentId),
    ("paper_order_id", ofOptionString event.paperOrderId),
    ("event_type", ofOptionString event.eventType),
    ("ts_epoch", ofOptionFloat event.tsEpoch),
    ("idempotency_key", ofOptionString event.idempotencyKey),
    ("payload", event.payload),
    ("paper_only", event.paperOnly),
    ("is_order_action", event.isOrderAction),
    ("broker_api_called", event.brokerApiCalled),
    ("real_order_id", event.realOrderId)]

/-! ### Normal form and checks -/

/-- `_optional_str`. -/
def optionalStr (value : PyValue) : Option String :=
  if value.isNone then none
  else if strip (printValue value) = "" then none
  else some (strip (printValue value))

def normalizePaperEvent : PyValue → Except PyError NormalizedEvent
  | .dict raw => do
      let eventSequence ← intOrNone (PyDict.get raw "event_sequence")
      pure
        { schemaVersion := printValue ((PyDict.get raw "schema_version").or (.str "1.0"))
          eventId := optionalStr (PyDict.get raw "event_id")
          cycleId := optionalStr (PyDict.get raw "cycle_id")
          eventSequence := eventSequence
          candidateId := optionalStr (PyDict.get raw "candidate_id")
          strategyId := optionalStr (PyDict.get raw "strategy_id")
          paperOrderIntentId := optionalStr (PyDict.get raw "paper_order_intent_id")
          paperOrderId := optionalStr (PyDict.get raw "paper_order_id")
          eventType := optionalStr (PyDict.get raw "event_type")
          tsEpoch := floatOrNone (PyDict.get raw "ts_epoch")
          idempotencyKey := optionalStr (PyDict.get raw "idempotency_key")
          payload := PyDict.get raw "payload"
          paperOnly := PyDict.get raw "paper_only"
          isOrderAction := PyDict.get raw "is_order_action"
          brokerApiCalled := PyDict.get raw "broker_api_called"
          realOrderId := PyDict.get raw "real_order_id" }
  | _ => .error (.typeError "paper event must be a PaperEvent or dict")

/-- `not text` for an optional text. -/
def isBlank (text : Option String) : Bool :=
  decide (text.getD "" = "")

def eventTypeBlockers (eventType : Option String) : List String :=
  if isBlank eventType then ["PAPER_EVENT_MISSING_EVENT_TYPE"]
  else blockerIf (!validPaperEventTypes.contains (eventType.getD ""))
    "PAPER_EVENT_TYPE_UNSUPPORTED"

def normalizedEventBlockers (event : NormalizedEvent) : List String :=
  blockerIf (event.schemaVersion != "1.0") "PAPER_EVENT_SCHEMA_VERSION_UNSUPPORTED" ++
    blockerIf (isBlank event.eventId) "PAPER_EVENT_MISSING_EVENT_ID" ++
    blockerIf (isBlank event.cycleId) "PAPER_EVENT_MISSING_CYCLE_ID" ++
    blockerIf (decide (event.eventSequence.getD 0 < 1)) "PAPER_EVENT_INVALID_EVENT_SEQUENCE" ++
    eventTypeBlockers event.eventType ++
    blockerIf event.tsEpoch.isNone "PAPER_EVENT_MISSING_TS_EPOCH" ++
    blockerIf (isBlank event.idempotencyKey) "PAPER_EVENT_MISSING_IDEMPOTENCY_KEY" ++
    blockerIf (!event.payload.isDict) "PAPER_EVENT_PAYLOAD_NOT_OBJECT" ++
    blockerIf (!event.paperOnly.isTrue) "PAPER_EVENT_UNSAFE_PAPER_ONLY_FLAG" ++
    blockerIf (!event.isOrderAction.isFalse) "PAPER_EVENT_UNSAFE_ORDER_ACTION_FLAG" ++
    blockerIf (!event.brokerApiCalled.isFalse) "PAPER_EVENT_UNSAFE_BROKER_API_FLAG" ++
    blockerIf (!event.realOrderId.isNone) "PAPER_EVENT_UNSAFE_REAL_ORDER_ID"

/-- `except (TypeError, ValueError)` around a normalization: an infinite sequence
number still raises OverflowError. -/
def normalizedOrNone (rawEvent : PyValue) : Except PyError (Option NormalizedEvent) :=
  match normalizePaperEvent rawEvent with
  | .ok event => .ok (some event)
  | .error (.typeError _) => .ok none
  | .error (.valueError _) => .ok none
  | .error raised => .error raised

def validatePaperEvent (rawEvent : PyValue) : Except PyError (List String) := do
  match ← normalizedOrNone rawEvent with
  | none => pure ["PAPER_EVENT_NOT_OBJECT"]
  | some event => pure (normalizedEventBlockers event)

/-! ### Normal forms are stable -/

@[simp] theorem optionalStr_none : optionalStr .none = none := rfl

theorem optionalStr_str (text : String) :
    optionalStr (.str text) = if strip text = "" then none else some (strip text) := rfl

theorem optionalStr_cases (value : PyValue) :
    optionalStr value = none ∨ ∃ text, strip text ≠ "" ∧ optionalStr value = some (strip text) := by
  unfold optionalStr
  split
  · exact .inl rfl
  · split
    · exact .inl rfl
    · rename_i visible
      exact .inr ⟨printValue value, visible, rfl⟩

theorem optionalStr_optionalStr (value : PyValue) :
    optionalStr (ofOptionString (optionalStr value)) = optionalStr value := by
  rcases optionalStr_cases value with absent | ⟨text, visible, present⟩
  · rw [absent]
    rfl
  · rw [present, ofOptionString, optionalStr_str, strip_strip, if_neg visible]

theorem printValue_or_default (value : PyValue) (default : String) (text : default ≠ "") :
    printValue ((PyValue.str (printValue (value.or (.str default)))).or (.str default)) =
      printValue (value.or (.str default)) := by
  have nonempty : printValue (value.or (.str default)) ≠ "" := by
    apply printValue_ne_empty
    unfold PyValue.or
    split
    · assumption
    · exact decide_eq_true text
  rw [PyValue.or, PyValue.truthy, if_pos (decide_eq_true nonempty), printValue_str]

theorem normalizePaperEvent_toDict {event : NormalizedEvent}
    (normalized : normalizePaperEvent raw = .ok event) :
    normalizePaperEvent (.dict event.toDict) = .ok event := by
  cases raw with
  | none | bool | int | float | str | list => cases normalized
  | dict raw =>
      obtain ⟨eventSequence, readSequence, made⟩ := bind_eq_ok.mp normalized
      cases made
      have sequence : intOrNone (ofOptionInt eventSequence) = .ok eventSequence := by
        cases eventSequence <;> rfl
      unfold normalizePaperEvent
      apply bind_eq_ok.mpr
      refine ⟨eventSequence, sequence, ?_⟩
      refine congrArg Except.ok ?_
      rw [NormalizedEvent.mk.injEq]
      exact ⟨printValue_or_default _ _ (by decide), optionalStr_optionalStr _,
        optionalStr_optionalStr _, rfl, optionalStr_optionalStr _, optionalStr_optionalStr _,
        optionalStr_optionalStr _, optionalStr_optionalStr _, optionalStr_optionalStr _,
        floatOrNone_ofOptionFloat _, optionalStr_optionalStr _, rfl, rfl, rfl, rfl, rfl⟩

theorem validatePaperEvent_toDict {event : NormalizedEvent}
    (normalized : normalizePaperEvent raw = .ok event) :
    validatePaperEvent (.dict event.toDict) = .ok (normalizedEventBlockers event) := by
  unfold validatePaperEvent normalizedOrNone
  rw [normalizePaperEvent_toDict normalized]
  rfl

/-! ### Rows as events -/

def RowReads (raw : PyValue) (event : NormalizedEvent) : Prop :=
  normalizePaperEvent raw = .ok event ∧ normalizedEventBlockers event = []

def rowEvent (row : PyValue) : Option NormalizedEvent :=
  (normalizePaperEvent row).toOption

theorem RowReads.rowEvent {event : NormalizedEvent} (read : RowReads raw event) :
    rowEvent raw = some event := by
  unfold Events.rowEvent
  rw [read.1]
  rfl

theorem forall₂_rowReads_iff {rows : List PyValue} {events : List NormalizedEvent} :
    List.Forall₂ RowReads rows events ↔
      (∀ row ∈ rows, ∃ event, RowReads row event) ∧ events = rows.filterMap rowEvent := by
  constructor
  · intro read
    induction read with
    | nil => exact ⟨fun row member => absurd member List.not_mem_nil, rfl⟩
    | @cons row event rows events head _rest ih =>
        refine ⟨List.forall_mem_cons.mpr ⟨⟨event, head⟩, ih.1⟩, ?_⟩
        rw [List.filterMap_cons_some head.rowEvent, ← ih.2]
  · rintro ⟨valid, rfl⟩
    induction rows with
    | nil => exact .nil
    | cons row rows ih =>
        obtain ⟨⟨event, head⟩, rest⟩ := List.forall_mem_cons.mp valid
        rw [List.filterMap_cons_some head.rowEvent]
        exact .cons head (ih rest)

theorem valid_of_mem_events {rows : List PyValue}
    (valid : ∀ row ∈ rows, ∃ event, RowReads row event) {event : NormalizedEvent}
    (member : event ∈ rows.filterMap rowEvent) : normalizedEventBlockers event = [] := by
  obtain ⟨row, rowMember, found⟩ := List.mem_filterMap.mp member
  obtain ⟨own, read⟩ := valid row rowMember
  rw [read.rowEvent] at found
  cases found
  exact read.2

theorem valid_event_present {event : NormalizedEvent} (valid : normalizedEventBlockers event = []) :
    (∃ cycleId, event.cycleId = some cycleId) ∧ (∃ number, event.eventSequence = some number) ∧
      ∃ time, event.tsEpoch = some time := by
  simp only [normalizedEventBlockers, List.append_eq_nil_iff, blockerIf_eq_nil] at valid
  obtain ⟨⟨⟨⟨⟨⟨⟨⟨⟨⟨⟨_, _⟩, ofCycle⟩, ofSequence⟩, _⟩, ofTime⟩, _⟩, _⟩, _⟩, _⟩, _⟩, _⟩ := valid
  refine ⟨?_, ?_, ?_⟩
  · cases found : event.cycleId with
    | none =>
        rw [found] at ofCycle
        exact absurd ofCycle (by decide)
    | some cycleId => exact ⟨cycleId, rfl⟩
  · cases found : event.eventSequence with
    | none =>
        rw [found] at ofSequence
        exact absurd ofSequence (by decide)
    | some number => exact ⟨number, rfl⟩
  · cases found : event.tsEpoch with
    | none =>
        rw [found] at ofTime
        exact absurd ofTime (by decide)
    | some time => exact ⟨time, rfl⟩

/-! ### Reading a list of rows -/

/-- What a loop over rows has collected: blockers, accepted rows, and what a later
row is compared with. -/
structure EventScan (Seen : Type) where
  blockers : List String := []
  normalizedEvents : List NormalizedEvent := []
  seen : Seen

def eventBlocker (index : Nat) (text : String) : String :=
  "EVENT_" ++ printInt index ++ "_" ++ text

theorem eventBlocker_visible (index : Nat) (text : String) : strip (eventBlocker index text) ≠ "" := by
  intro blank
  have spaces := (strip_eq_empty _).mp blank 'E'
  have letter : 'E' ∈ (eventBlocker index text).toList := by
    unfold eventBlocker
    simp only [String.toList_append, List.mem_append]
    exact .inl (.inl (.inl (by decide)))
  exact absurd (spaces letter) (by decide)

section Scan

variable {Seen : Type} (check : Nat → NormalizedEvent → Seen → Except PyError (List String × Seen))

/-- One turn of a loop over rows; `check` is what the loop asks of a valid event. -/
def scanEvent (scan : EventScan Seen) (row : PyValue × Nat) : Except PyError (EventScan Seen) := do
  match ← normalizedOrNone row.1 with
  | none =>
      pure { scan with
        blockers := scan.blockers ++ [eventBlocker row.2 "PAPER_EVENT_NOT_OBJECT"] }
  | some event =>
      let eventBlockers ← validatePaperEvent (.dict event.toDict)
      if eventBlockers ≠ [] then
        pure { scan with blockers := scan.blockers ++ eventBlockers.map (eventBlocker row.2) }
      else
        let (found, seen) ← check row.2 event scan.seen
        pure
          { blockers := scan.blockers ++ found
            normalizedEvents := scan.normalizedEvents ++ [event]
            seen := seen }

def scanEvents (seen : Seen) (events : List PyValue) : Except PyError (EventScan Seen) :=
  events.zipIdx.foldlM (scanEvent check) { seen := seen }

/-- A row is refused with a blocker, or it is a valid event and goes to the check. -/
inductive ScanOutcome (scan : EventScan Seen) (row : PyValue × Nat) (after : EventScan Seen) :
    Prop where
  | refused (found : List String) (reported : found ≠ [])
      (visible : ∀ text ∈ found, strip text ≠ "")
      (afterEq : after = { scan with blockers := scan.blockers ++ found })
  | kept (event : NormalizedEvent) (found : List String) (seen : Seen)
      (normalized : normalizePaperEvent row.1 = .ok event)
      (valid : normalizedEventBlockers event = [])
      (checked : check row.2 event scan.seen = .ok (found, seen))
      (afterEq : after =
        { blockers := scan.blockers ++ found
          normalizedEvents := scan.normalizedEvents ++ [event]
          seen := seen })

variable {check} {scan after : EventScan Seen} {row : PyValue × Nat}

private theorem normalizePaperEvent_of_some {event : NormalizedEvent}
    (found : normalizedOrNone raw = .ok (some event)) : normalizePaperEvent raw = .ok event := by
  unfold normalizedOrNone at found
  split at found
  · rename_i own normalized
    cases found
    exact normalized
  · cases found
  · cases found
  · cases found

theorem scanEvent_outcome (scanned : scanEvent check scan row = .ok after) :
    ScanOutcome check scan row after := by
  obtain ⟨normal, normalEq, scanned⟩ := bind_eq_ok.mp scanned
  cases normal with
  | none =>
      cases scanned
      refine .refused _ (List.cons_ne_nil _ _) ?_ rfl
      intro text member
      cases List.mem_singleton.mp member
      exact eventBlocker_visible _ _
  | some event =>
      have normalized := normalizePaperEvent_of_some normalEq
      dsimp only at scanned
      rw [validatePaperEvent_toDict normalized] at scanned
      obtain ⟨blockers, same, scanned⟩ := bind_eq_ok.mp scanned
      cases same
      by_cases valid : normalizedEventBlockers event = []
      · rw [if_neg (not_not.mpr valid)] at scanned
        obtain ⟨⟨found, seen⟩, checked, made⟩ := bind_eq_ok.mp scanned
        cases made
        exact .kept event found seen normalized valid checked rfl
      · rw [if_pos valid] at scanned
        cases scanned
        refine .refused _ (fun empty => valid (List.map_eq_nil_iff.mp empty)) ?_ rfl
        intro text member
        obtain ⟨_, _, rfl⟩ := List.mem_map.mp member
        exact eventBlocker_visible _ _

theorem scanEvents_run {seen : Seen} {events : List PyValue}
    (scanned : scanEvents check seen events = .ok scan) :
    Run (fun before row after => scanEvent check before row = .ok after) { seen := seen }
      events.zipIdx scan :=
  (Run.foldlM_eq_ok_iff _ _ _ _).mp scanned

theorem scanEvents_visible
    (visible : ∀ index event seen found next, check index event seen = .ok (found, next) →
      ∀ text ∈ found, strip text ≠ "")
    {seen : Seen} {events : List PyValue} (scanned : scanEvents check seen events = .ok scan) :
    ∀ text ∈ scan.blockers, strip text ≠ "" := by
  refine (scanEvents_run scanned).invariant (motive := fun scan =>
    ∀ text ∈ scan.blockers, strip text ≠ "") (fun text member => absurd member List.not_mem_nil) ?_
  intro before row after held stepped text member
  cases scanEvent_outcome stepped with
  | refused found reported visibleFound afterEq =>
      subst afterEq
      exact (List.mem_append.mp member).elim (held text) (visibleFound text)
  | kept event found seen normalized valid checked afterEq =>
      subst afterEq
      exact (List.mem_append.mp member).elim (held text)
        (visible _ _ _ _ _ checked text)

theorem scanEvents_append {seen : Seen} {first second : List PyValue}
    (scanned : scanEvents check seen (first ++ second) = .ok scan) :
    ∃ middle, scanEvents check seen first = .ok middle ∧ middle.blockers <+: scan.blockers ∧
      middle.normalizedEvents <+: scan.normalizedEvents := by
  obtain ⟨middle, initial, later⟩ := (scanEvents_run scanned).split List.zipIdx_append
  refine ⟨middle, (Run.foldlM_eq_ok_iff _ _ _ _).mpr initial, ?_⟩
  refine later.invariant (motive := fun scan => middle.blockers <+: scan.blockers ∧
    middle.normalizedEvents <+: scan.normalizedEvents)
    ⟨List.prefix_refl _, List.prefix_refl _⟩ ?_
  rintro before row after ⟨blockers, events⟩ stepped
  cases scanEvent_outcome stepped with
  | refused found reported visible afterEq =>
      subst afterEq
      exact ⟨blockers.trans (List.prefix_append _ _), events⟩
  | kept event found seen normalized valid checked afterEq =>
      subst afterEq
      exact ⟨blockers.trans (List.prefix_append _ _), events.trans (List.prefix_append _ _)⟩

theorem scanEvents_kept {seen : Seen} {events : List PyValue}
    (scanned : scanEvents check seen events = .ok scan) (clear : scan.blockers = []) :
    List.Forall₂ (fun raw event => normalizePaperEvent raw = .ok event ∧
      normalizedEventBlockers event = []) events scan.normalizedEvents := by
  have rows : scan.blockers = [] → List.Forall₂ (fun (row : PyValue × Nat) event =>
      normalizePaperEvent row.1 = .ok event ∧ normalizedEventBlockers event = [])
      events.zipIdx scan.normalizedEvents := by
    refine (scanEvents_run scanned).history_invariant (motive := fun rows scan =>
      scan.blockers = [] → List.Forall₂ (fun (row : PyValue × Nat) event =>
        normalizePaperEvent row.1 = .ok event ∧ normalizedEventBlockers event = [])
        rows scan.normalizedEvents) (fun _ => .nil) ?_
    intro rows before row after held stepped afterClear
    cases scanEvent_outcome stepped with
    | refused found reported visible afterEq =>
        subst afterEq
        exact absurd (List.append_eq_nil_iff.mp afterClear).2 reported
    | kept event found seen normalized valid checked afterEq =>
        subst afterEq
        have clearBefore := (List.append_eq_nil_iff.mp afterClear).1
        exact List.rel_append (held clearBefore) (.cons ⟨normalized, valid⟩ .nil)
  have mapped := rows clear
  rw [← List.zipIdx_map_fst 0 events]
  exact List.forall₂_map_left_iff.mpr mapped

theorem scanEvent_clear {event : NormalizedEvent} {next : Seen}
    (normalized : normalizePaperEvent row.1 = .ok event)
    (valid : normalizedEventBlockers event = [])
    (checked : check row.2 event scan.seen = .ok ([], next)) :
    scanEvent check scan row = .ok
      { blockers := scan.blockers
        normalizedEvents := scan.normalizedEvents ++ [event]
        seen := next } := by
  have normal : normalizedOrNone row.1 = .ok (some event) := by
    unfold normalizedOrNone
    rw [normalized]
  unfold scanEvent
  refine bind_eq_ok.mpr ⟨some event, normal, ?_⟩
  dsimp only
  refine bind_eq_ok.mpr ⟨_, validatePaperEvent_toDict normalized, ?_⟩
  rw [if_neg (not_not.mpr valid)]
  refine bind_eq_ok.mpr ⟨([], next), checked, ?_⟩
  rw [List.append_nil]
  rfl

section Clear

variable {Clear : Seen → NormalizedEvent → Seen → Prop} {seen finish : Seen}
variable {rows : List PyValue} {events : List NormalizedEvent}

private theorem scanEvents_clear_run
    (clear : ∀ index event before after, normalizedEventBlockers event = [] →
      (check index event before = .ok ([], after) ↔ Clear before event after))
    (scanned : scanEvents check seen rows = .ok scan) (none : scan.blockers = []) :
    Run Clear seen scan.normalizedEvents scan.seen := by
  have kept : scan.blockers = [] → Run Clear seen scan.normalizedEvents scan.seen := by
    refine (scanEvents_run scanned).invariant (motive := fun scan =>
      scan.blockers = [] → Run Clear seen scan.normalizedEvents scan.seen) (fun _ => .nil) ?_
    intro before row after held stepped afterClear
    cases scanEvent_outcome stepped with
    | refused found reported visible afterEq =>
        subst afterEq
        exact absurd (List.append_eq_nil_iff.mp afterClear).2 reported
    | kept event found seen normalized valid checked afterEq =>
        subst afterEq
        obtain ⟨clearBefore, rfl⟩ := List.append_eq_nil_iff.mp afterClear
        exact .snoc (held clearBefore) ((clear _ _ _ _ valid).mp checked)
  exact kept none

private theorem foldlM_scanEvent_clear
    (clear : ∀ index event before after, normalizedEventBlockers event = [] →
      (check index event before = .ok ([], after) ↔ Clear before event after))
    (read : List.Forall₂ (fun raw event => normalizePaperEvent raw = .ok event ∧
      normalizedEventBlockers event = []) rows events) (index : Nat)
    (empty : scan.blockers = []) (run : Run Clear scan.seen events finish) :
    (rows.zipIdx index).foldlM (scanEvent check) scan = .ok
      { blockers := []
        normalizedEvents := scan.normalizedEvents ++ events
        seen := finish } := by
  induction read generalizing scan index with
  | nil =>
      obtain ⟨blockers, normalizedEvents, seen⟩ := scan
      rw [run.eq_of_nil, List.append_nil]
      dsimp only at empty
      rw [empty]
      rfl
  | @cons raw event rows events head _rest ih =>
      obtain ⟨after, stepped, later⟩ := run.cons_inv
      have checked := (clear index event scan.seen after head.2).mpr stepped
      have kept : scanEvent check scan (raw, index) = _ := scanEvent_clear head.1 head.2 checked
      rw [List.zipIdx_cons, List.foldlM_cons, kept]
      have rest := @ih { scan with
        normalizedEvents := scan.normalizedEvents ++ [event], seen := after } (index + 1) empty later
      rw [List.append_assoc, List.singleton_append] at rest
      exact rest

theorem scanEvents_clear_iff
    (clear : ∀ index event before after, normalizedEventBlockers event = [] →
      (check index event before = .ok ([], after) ↔ Clear before event after)) :
    (∃ scan, scanEvents check seen rows = .ok scan ∧ scan.blockers = [] ∧
        scan.normalizedEvents = events) ↔
      List.Forall₂ (fun raw event => normalizePaperEvent raw = .ok event ∧
        normalizedEventBlockers event = []) rows events ∧ ∃ finish, Run Clear seen events finish := by
  constructor
  · rintro ⟨scan, scanned, none, rfl⟩
    exact ⟨scanEvents_kept scanned none, scan.seen, scanEvents_clear_run clear scanned none⟩
  · rintro ⟨read, finish, run⟩
    exact ⟨_, foldlM_scanEvent_clear clear read 0 rfl run, rfl, rfl⟩

end Clear

theorem scanEvents_total
    (anywhere : ∀ index event seen found next index' seen',
      check index event seen = .ok (found, next) → ∃ result, check index' event seen' = .ok result)
    {seen : Seen} {first second : List PyValue} (scanned : scanEvents check seen first = .ok scan)
    (found : ∀ row ∈ second, row ∈ first) : ∃ other, scanEvents check seen second = .ok other := by
  have blind (label other : PyValue × Nat) (before after state : EventScan Seen)
      (like : label.1 = other.1) (stepped : scanEvent check before label = .ok after) :
      ∃ next, scanEvent check state other = .ok next := by
    obtain ⟨normal, normalEq, stepped⟩ := bind_eq_ok.mp stepped
    rw [like] at normalEq
    apply exists_ok_bind normalEq
    cases normal with
    | none => exact ⟨_, rfl⟩
    | some event =>
        obtain ⟨blockers, validated, stepped⟩ := bind_eq_ok.mp stepped
        apply exists_ok_bind validated
        by_cases valid : blockers = []
        · rw [if_neg (not_not.mpr valid)] at stepped ⊢
          obtain ⟨⟨own, seen⟩, checked, _⟩ := bind_eq_ok.mp stepped
          obtain ⟨result, again⟩ := anywhere _ _ _ _ _ other.2 state.seen checked
          exact exists_ok_bind again ⟨_, rfl⟩
        · rw [if_pos valid]
          exact ⟨_, rfl⟩
  have originals (label : PyValue × Nat) (member : label ∈ second.zipIdx) :
      ∃ original ∈ first.zipIdx, original.1 = label.1 := by
    have row : label.1 ∈ second.zipIdx.map Prod.fst := List.mem_map_of_mem member
    rw [List.zipIdx_map_fst] at row
    have original := found label.1 row
    rw [← List.zipIdx_map_fst 0 first] at original
    exact List.mem_map.mp original
  obtain ⟨last, run⟩ := (scanEvents_run scanned).transfer blind originals { seen := seen }
  exact ⟨last, (Run.foldlM_eq_ok_iff _ _ _ _).mpr run⟩

end Scan

/-! ### Texts -/

open Json

/-- `_stable_json` of a normalized event. -/
def stableJson (event : NormalizedEvent) : String :=
  jsonDumps compact (.dict event.toDict)

def NormalizedEvent.canonical (event : NormalizedEvent) : NormalizedEvent :=
  { event with payload := sortKeys event.payload }

def Normal (event : NormalizedEvent) : Prop :=
  normalizePaperEvent (.dict event.toDict) = .ok event

/-! ### The dictionary of an event is well formed -/

theorem distinct_toDict (event : NormalizedEvent) : Assoc.Distinct event.toDict := by
  have keys : (["schema_version", "event_id", "cycle_id", "event_sequence", "candidate_id",
    "strategy_id", "paper_order_intent_id", "paper_order_id", "event_type", "ts_epoch",
    "idempotency_key", "payload", "paper_only", "is_order_action", "broker_api_called",
    "real_order_id"] : List String).Nodup := by decide
  exact keys

theorem wellFormed_toDict {event : NormalizedEvent} (formed : wellFormed raw = true)
    (normalized : normalizePaperEvent raw = .ok event) :
    wellFormed (.dict event.toDict) = true := by
  cases raw with
  | none | bool | int | float | str | list => cases normalized
  | dict raw =>
      obtain ⟨_, ofEntries⟩ := wellFormed_dict.mp formed
      obtain ⟨eventSequence, _, made⟩ := bind_eq_ok.mp normalized
      cases made
      refine wellFormed_dict.mpr ⟨distinct_toDict _, ?_⟩
      unfold NormalizedEvent.toDict
      simp only [wellFormedEntries, wellFormed_ofOptionString, wellFormed_ofOptionInt,
        wellFormed_get ofEntries, wellFormed_floatOrNone (wellFormed_get ofEntries _),
        Bool.and_true]
      rfl

/-! ### Reading a row -/

section Reading

variable {event : NormalizedEvent}

theorem NormalizedEvent.canonical_blockers (event : NormalizedEvent) :
    normalizedEventBlockers event.canonical = normalizedEventBlockers event := by
  have dict : (sortKeys event.payload).isDict = event.payload.isDict := by
    cases event.payload <;> rfl
  unfold normalizedEventBlockers NormalizedEvent.canonical
  dsimp only
  rw [dict]

theorem Normal.canonical (normal : Normal event) : Normal event.canonical := by
  obtain ⟨sequence, read, made⟩ := bind_eq_ok.mp normal
  refine bind_eq_ok.mpr ⟨sequence, read, ?_⟩
  have fields := Except.ok.inj made
  obtain ⟨⟩ := event
  rw [NormalizedEvent.mk.injEq] at fields
  obtain ⟨schema, eventId, cycle, number, candidate, strategy, intent, order, kind, time, key, _,
    flags⟩ := fields
  refine congrArg Except.ok ?_
  unfold NormalizedEvent.canonical
  rw [NormalizedEvent.mk.injEq]
  exact ⟨schema, eventId, cycle, number, candidate, strategy, intent, order, kind, time, key, rfl,
    flags⟩

theorem valid_event_flags (valid : normalizedEventBlockers event = []) :
    event.paperOnly = .bool true ∧ event.isOrderAction = .bool false ∧
      event.brokerApiCalled = .bool false ∧ event.realOrderId = .none := by
  simp only [normalizedEventBlockers, List.append_eq_nil_iff, blockerIf_eq_nil,
    Bool.not_eq_false', PyValue.isTrue_eq_true, PyValue.isFalse_eq_true] at valid
  obtain ⟨⟨⟨⟨⟨_, _⟩, ofPaper⟩, ofAction⟩, ofBroker⟩, ofOrder⟩ := valid
  refine ⟨ofPaper, ofAction, ofBroker, ?_⟩
  cases own : event.realOrderId with
  | none => rfl
  | bool | int | float | str | list | dict =>
      rw [own] at ofOrder
      cases ofOrder

theorem mapEntries_toDict (valid : normalizedEventBlockers event = []) :
    mapEntries event.toDict = event.canonical.toDict := by
  obtain ⟨ofPaper, ofAction, ofBroker, ofOrder⟩ := valid_event_flags valid
  unfold mapEntries Assoc.mapValues NormalizedEvent.toDict NormalizedEvent.canonical
  simp only [List.map_cons, List.map_nil, sortKeys_ofOptionString, sortKeys_ofOptionInt,
    sortKeys_ofOptionFloat, ofPaper, ofAction, ofBroker, ofOrder]
  rfl

theorem normalizePaperEvent_congr {left right : PyDict}
    (same : ∀ key, PyDict.get left key = PyDict.get right key) :
    normalizePaperEvent (.dict left) = normalizePaperEvent (.dict right) := by
  unfold normalizePaperEvent
  simp only [same]

theorem stableJson_canonical (valid : normalizedEventBlockers event = []) :
    stableJson event.canonical = stableJson event := by
  have sorted : sortEntries (mapEntries event.toDict) = sortEntries event.toDict := by
    rw [sortEntries_eq, mapEntries_mapEntries, ← sortEntries_eq]
  unfold stableJson jsonDumps
  rw [← mapEntries_toDict valid]
  unfold sortKeys
  rw [sorted]

theorem jsonLoads_stableJson (formed : wellFormed (.dict event.toDict) = true) :
    jsonLoads (stableJson event) = some (.dict (sortEntries event.toDict)) :=
  jsonLoads_jsonDumps compact formed

theorem normalizePaperEvent_sorted (normal : Normal event)
    (valid : normalizedEventBlockers event = []) :
    normalizePaperEvent (.dict (sortEntries event.toDict)) = .ok event.canonical := by
  have fields (key : String) : PyDict.get (sortEntries event.toDict) key =
      PyDict.get event.canonical.toDict key := by
    have order : (sortEntries event.toDict).Perm event.canonical.toDict := by
      rw [← mapEntries_toDict valid]
      exact sortEntries_perm _
    unfold PyDict.get
    rw [Assoc.lookup_perm (sortEntries_distinct (distinct_toDict event)) order]
  rw [normalizePaperEvent_congr fields]
  exact normal.canonical

theorem sameValue_canonical (valid : normalizedEventBlockers event = []) :
    SameValue (.dict event.toDict) (.dict event.canonical.toDict) := by
  rw [← mapEntries_toDict valid]
  exact sameValue_mapEntries event.toDict

end Reading

end Algotradify.Paper.Events
