/-
The ordering guard: rows are valid events, no id or idempotency key occurs twice,
and every cycle counts its own events from one at times that do not decrease.
The guard never sorts or repairs a list.

The ordering guard on interleaved cycles: each event id, each idempotency key and
each cycle is a part of what the guard remembers, so the guard accepts a list
exactly when each of them alone accepts its own events.
-/

import Algotradify.Paper.Events

namespace Algotradify.Paper.EventOrdering

open Py Events

inductive PaperEventOrderingGuardStatus where
  | valid
  | empty
  | blocked
deriving DecidableEq, Repr

structure CycleSummary where
  cycleId : String
  eventCount : Int := 0
  firstEventId : String
  lastEventId : Option String := none
  firstSequence : Int
  lastSequence : Option Int := none
  firstTsEpoch : PyFloat
  lastTsEpoch : Option PyFloat := none
deriving Repr

structure PaperEventOrderingGuardResult where
  valid : Bool
  status : PaperEventOrderingGuardStatus
  orderedEvents : List NormalizedEvent := []
  blockers : List String := []
  warnings : List String := []
  cycles : List (String × CycleSummary) := []
deriving Repr

structure OrderingSeen where
  eventIds : List String := []
  idempotencyKeys : List String := []
  cycleState : List (String × CycleSummary) := []
deriving Repr

/-- `str(value)` of an optional text. -/
def printOption (text : Option String) : String :=
  printValue (ofOptionString text)

def sequenceBlockers (index : Nat) (cycleId : String) (previousSequence : Option Int)
    (eventSequence : Int) : List String :=
  match previousSequence with
  | some previous =>
      blockerIf (eventSequence != previous + 1) (eventBlocker index
        ("PAPER_EVENT_SEQUENCE_GAP_OR_REGRESSION:" ++ cycleId ++ ":" ++ printInt previous ++ "->" ++
          printInt eventSequence))
  | none =>
      blockerIf (eventSequence != 1) (eventBlocker index
        ("PAPER_EVENT_SEQUENCE_MUST_START_AT_1:" ++ cycleId ++ ":" ++ printInt eventSequence))

def timestampBlockers (index : Nat) (cycleId : String) (previousTsEpoch : Option PyFloat)
    (tsEpoch : PyFloat) : List String :=
  match previousTsEpoch with
  | some previous =>
      blockerIf (tsEpoch.lt previous) (eventBlocker index
        ("PAPER_EVENT_TS_EPOCH_REGRESSION:" ++ cycleId ++ ":" ++ printFloat previous ++ "->" ++
          printFloat tsEpoch))
  | none => []

/-- What the guard asks of a valid event after the rows it has kept. -/
def orderingCheck (index : Nat) (event : NormalizedEvent) (seen : OrderingSeen) :
    Except PyError (List String × OrderingSeen) := do
  let eventId := printOption event.eventId
  let idempotencyKey := printOption event.idempotencyKey
  let cycleId := printOption event.cycleId
  let eventSequence ← toInt (ofOptionInt event.eventSequence)
  let tsEpoch ← toFloat (ofOptionFloat event.tsEpoch)
  let cycle := (seen.cycleState.lookup cycleId).getD
    { cycleId := cycleId
      firstEventId := eventId
      firstSequence := eventSequence
      firstTsEpoch := tsEpoch }
  pure
    (blockerIf (seen.eventIds.contains eventId)
        (eventBlocker index "PAPER_EVENT_ORDERING_DUPLICATE_EVENT_ID") ++
      blockerIf (seen.idempotencyKeys.contains idempotencyKey)
        (eventBlocker index "PAPER_EVENT_ORDERING_DUPLICATE_IDEMPOTENCY_KEY") ++
      sequenceBlockers index cycleId cycle.lastSequence eventSequence ++
      timestampBlockers index cycleId cycle.lastTsEpoch tsEpoch,
    { eventIds := seen.eventIds ++ [eventId]
      idempotencyKeys := seen.idempotencyKeys ++ [idempotencyKey]
      cycleState := Assoc.set seen.cycleState cycleId
        { cycle with
          eventCount := cycle.eventCount + 1
          lastEventId := some eventId
          lastSequence := some eventSequence
          lastTsEpoch := some tsEpoch } })

/-- `sorted(cycle_state.items())`: no cycle id occurs twice. -/
def sortedCycles (cycles : List (String × CycleSummary)) : List (String × CycleSummary) :=
  cycles.insertionSort fun left right => left.1 ≤ right.1

def validatePaperEventOrderingInputs (events : PyValue) :
    Except PyError (List String × List NormalizedEvent × List (String × CycleSummary)) :=
  match events with
  | .none => .ok (["PAPER_EVENT_ORDERING_EVENTS_REQUIRED"], [], [])
  | .list rows => do
      let scan ← scanEvents orderingCheck {} rows
      pure (dedupe scan.blockers, if scan.blockers = [] then scan.normalizedEvents else [],
        sortedCycles scan.seen.cycleState)
  | _ => .ok (["PAPER_EVENT_ORDERING_EVENTS_MUST_BE_LIST"], [], [])

def guardPaperEventOrdering (events : PyValue) : Except PyError PaperEventOrderingGuardResult := do
  let (blockers, normalizedEvents, cycles) ← validatePaperEventOrderingInputs events
  if blockers ≠ [] then
    pure { valid := false, status := .blocked, blockers := blockers, cycles := cycles }
  else if normalizedEvents.isEmpty then
    pure
      { valid := true
        status := .empty
        warnings := ["PAPER_EVENT_ORDERING_EMPTY_EVENT_LIST"] }
  else
    pure { valid := true, status := .valid, orderedEvents := normalizedEvents, cycles := cycles }

/-! ### An unblocked list -/

private theorem orderingCheck_visible (index : Nat) (event : NormalizedEvent)
    (seen : OrderingSeen) (found : List String) (next : OrderingSeen)
    (checked : orderingCheck index event seen = .ok (found, next)) :
    ∀ text ∈ found, strip text ≠ "" := by
  obtain ⟨eventSequence, _, checked⟩ := bind_eq_ok.mp checked
  obtain ⟨tsEpoch, _, checked⟩ := bind_eq_ok.mp checked
  cases checked
  intro text member
  simp only [List.mem_append] at member
  rcases member with ((eventId | idempotencyKey) | sequence) | timestamp
  · exact visible_blockerIf (eventBlocker_visible _ _) text eventId
  · exact visible_blockerIf (eventBlocker_visible _ _) text idempotencyKey
  · unfold sequenceBlockers at sequence
    split at sequence
    · exact visible_blockerIf (eventBlocker_visible _ _) text sequence
    · exact visible_blockerIf (eventBlocker_visible _ _) text sequence
  · unfold timestampBlockers at timestamp
    split at timestamp
    · exact visible_blockerIf (eventBlocker_visible _ _) text timestamp
    · cases timestamp

theorem guard_orderedEvents {rows : List PyValue} {ordering : PaperEventOrderingGuardResult}
    (guarded : guardPaperEventOrdering (.list rows) = .ok ordering)
    (unblocked : ordering.status ≠ .blocked) :
    List.Forall₂ (fun raw event => normalizePaperEvent raw = .ok event ∧
      normalizedEventBlockers event = []) rows ordering.orderedEvents := by
  obtain ⟨⟨blockers, normalizedEvents, cycles⟩, validated, guarded⟩ := bind_eq_ok.mp guarded
  obtain ⟨scan, scanned, same⟩ := bind_eq_ok.mp validated
  cases same
  dsimp only at guarded
  by_cases clear : dedupe scan.blockers = []
  · have none := eq_nil_of_dedupe_eq_nil (scanEvents_visible orderingCheck_visible scanned) clear
    have kept := scanEvents_kept scanned none
    rw [if_neg (not_not.mpr clear), if_pos none] at guarded
    split at guarded
    · rename_i empty
      rw [List.isEmpty_iff.mp empty] at kept
      cases guarded
      exact kept
    · cases guarded
      exact kept
  · rw [if_pos clear] at guarded
    cases guarded
    exact absurd rfl unblocked

theorem guard_valid_iff (rows : List PyValue) :
    (∃ ordering, guardPaperEventOrdering (.list rows) = .ok ordering ∧ ordering.valid = true) ↔
      ∃ scan, scanEvents orderingCheck {} rows = .ok scan ∧ scan.blockers = [] := by
  constructor
  · rintro ⟨ordering, guarded, valid⟩
    obtain ⟨⟨blockers, normalizedEvents, cycles⟩, validated, guarded⟩ := bind_eq_ok.mp guarded
    obtain ⟨scan, scanned, same⟩ := bind_eq_ok.mp validated
    cases same
    dsimp only at guarded
    by_cases clear : dedupe scan.blockers = []
    · exact ⟨scan, scanned,
        eq_nil_of_dedupe_eq_nil (scanEvents_visible orderingCheck_visible scanned) clear⟩
    · rw [if_pos clear] at guarded
      cases guarded
      cases valid
  · rintro ⟨scan, scanned, clear⟩
    have validated : validatePaperEventOrderingInputs (.list rows) =
        .ok ([], scan.normalizedEvents, sortedCycles scan.seen.cycleState) := by
      refine bind_eq_ok.mpr ⟨scan, scanned, ?_⟩
      rw [clear, if_pos rfl]
      rfl
    refine exists_bind_ok validated ?_
    dsimp only
    rw [if_neg (not_not.mpr rfl)]
    split
    · exact ⟨_, rfl, rfl⟩
    · exact ⟨_, rfl, rfl⟩

open Transition

/-! ### A step of the guard -/

/-- What the next event of a cycle is compared with: the last number and time. -/
structure CycleMark where
  number : Option Int
  time : Option PyFloat

def cycleMark (seen : OrderingSeen) (cycleId : String) : CycleMark :=
  { number := (seen.cycleState.lookup cycleId).bind CycleSummary.lastSequence
    time := (seen.cycleState.lookup cycleId).bind CycleSummary.lastTsEpoch }

structure CycleMark.Allows (mark : CycleMark) (number : Int) (time : PyFloat) : Prop where
  counted : number = (mark.number.map (· + 1)).getD 1
  notEarlier : ∀ previous, mark.time = some previous → time.lt previous = false

def OrderingSeen.next (seen : OrderingSeen) (event : NormalizedEvent) (number : Int)
    (time : PyFloat) : OrderingSeen :=
  let eventId := printOption event.eventId
  let cycleId := printOption event.cycleId
  let cycle := (seen.cycleState.lookup cycleId).getD
    { cycleId := cycleId
      firstEventId := eventId
      firstSequence := number
      firstTsEpoch := time }
  { eventIds := seen.eventIds ++ [eventId]
    idempotencyKeys := seen.idempotencyKeys ++ [printOption event.idempotencyKey]
    cycleState := Assoc.set seen.cycleState cycleId
      { cycle with
        eventCount := cycle.eventCount + 1
        lastEventId := some eventId
        lastSequence := some number
        lastTsEpoch := some time } }

structure OrderingStep (before : OrderingSeen) (event : NormalizedEvent) (after : OrderingSeen) :
    Prop where
  newEventId : printOption event.eventId ∉ before.eventIds
  newIdempotencyKey : printOption event.idempotencyKey ∉ before.idempotencyKeys
  follows : ∃ number time, event.eventSequence = some number ∧ event.tsEpoch = some time ∧
    (cycleMark before (printOption event.cycleId)).Allows number time ∧
    after = before.next event number time

private theorem sequenceBlockers_eq_nil (index : Nat) (cycleId : String) (previous : Option Int)
    (number : Int) : sequenceBlockers index cycleId previous number = [] ↔
      number = (previous.map (· + 1)).getD 1 := by
  cases previous with
  | none =>
      rw [sequenceBlockers, blockerIf_eq_nil, bne_eq_false_iff_eq]
      rfl
  | some last =>
      rw [sequenceBlockers, blockerIf_eq_nil, bne_eq_false_iff_eq]
      rfl

private theorem timestampBlockers_eq_nil (index : Nat) (cycleId : String)
    (previous : Option PyFloat) (time : PyFloat) :
    timestampBlockers index cycleId previous time = [] ↔
      ∀ last, previous = some last → time.lt last = false := by
  cases previous with
  | none => exact iff_of_true rfl (fun last impossible => by cases impossible)
  | some last =>
      rw [timestampBlockers, blockerIf_eq_nil]
      constructor
      · rintro notEarlier other same
        cases same
        exact notEarlier
      · intro notEarlier
        exact notEarlier last rfl

theorem orderingCheck_clear_iff (index : Nat) (event : NormalizedEvent)
    (before after : OrderingSeen) (valid : normalizedEventBlockers event = []) :
    orderingCheck index event before = .ok ([], after) ↔ OrderingStep before event after := by
  obtain ⟨_, ⟨number, ofNumber⟩, ⟨time, ofTime⟩⟩ := valid_event_present valid
  have lastNumber (default : CycleSummary) (fresh : default.lastSequence = none) :
      ((before.cycleState.lookup (printOption event.cycleId)).getD default).lastSequence =
        (cycleMark before (printOption event.cycleId)).number := by
    unfold cycleMark
    cases before.cycleState.lookup (printOption event.cycleId) with
    | none => exact fresh
    | some cycle => rfl
  have lastTime (default : CycleSummary) (fresh : default.lastTsEpoch = none) :
      ((before.cycleState.lookup (printOption event.cycleId)).getD default).lastTsEpoch =
        (cycleMark before (printOption event.cycleId)).time := by
    unfold cycleMark
    cases before.cycleState.lookup (printOption event.cycleId) with
    | none => exact fresh
    | some cycle => rfl
  have computed : orderingCheck index event before = .ok
      (blockerIf (before.eventIds.contains (printOption event.eventId))
          (eventBlocker index "PAPER_EVENT_ORDERING_DUPLICATE_EVENT_ID") ++
        blockerIf (before.idempotencyKeys.contains (printOption event.idempotencyKey))
          (eventBlocker index "PAPER_EVENT_ORDERING_DUPLICATE_IDEMPOTENCY_KEY") ++
        sequenceBlockers index (printOption event.cycleId)
          (cycleMark before (printOption event.cycleId)).number number ++
        timestampBlockers index (printOption event.cycleId)
          (cycleMark before (printOption event.cycleId)).time time,
        before.next event number time) := by
    unfold orderingCheck
    rw [ofNumber, ofTime]
    simp only [ofOptionInt, ofOptionFloat, toInt, toFloat, bind, Except.bind, pure, Except.pure]
    rw [lastNumber _ rfl, lastTime _ rfl]
    rfl
  rw [computed, Except.ok.injEq, Prod.mk.injEq, List.append_eq_nil_iff, List.append_eq_nil_iff,
    List.append_eq_nil_iff, blockerIf_eq_nil, blockerIf_eq_nil, sequenceBlockers_eq_nil,
    timestampBlockers_eq_nil, List.contains_eq_mem, List.contains_eq_mem, decide_eq_false_iff_not,
    decide_eq_false_iff_not]
  constructor
  · rintro ⟨⟨⟨⟨eventId, idempotencyKey⟩, counted⟩, notEarlier⟩, rfl⟩
    exact ⟨eventId, idempotencyKey, number, time, ofNumber, ofTime, ⟨counted, notEarlier⟩, rfl⟩
  · rintro ⟨eventId, idempotencyKey, ownNumber, ownTime, sameNumber, sameTime, allowed, rfl⟩
    rw [ofNumber] at sameNumber
    rw [ofTime] at sameTime
    cases sameNumber
    cases sameTime
    exact ⟨⟨⟨⟨eventId, idempotencyKey⟩, allowed.counted⟩, allowed.notEarlier⟩, rfl⟩

/-! ### The parts of the memory -/

inductive SeenName where
  | eventId (text : String)
  | idempotencyKey (text : String)
  | cycle (cycleId : String)

abbrev SeenPart : SeenName → Type
  | .eventId _ => Bool
  | .idempotencyKey _ => Bool
  | .cycle _ => CycleMark

def seenAddresses : SeenName → NormalizedEvent → Bool
  | .eventId text, event => printOption event.eventId = text
  | .idempotencyKey text, event => printOption event.idempotencyKey = text
  | .cycle cycleId, event => printOption event.cycleId = cycleId

def seenPart : (name : SeenName) → OrderingSeen → SeenPart name
  | .eventId text, seen => decide (text ∈ seen.eventIds)
  | .idempotencyKey text, seen => decide (text ∈ seen.idempotencyKeys)
  | .cycle cycleId, seen => cycleMark seen cycleId

def UseMove (before : Bool) (_event : NormalizedEvent) (after : Bool) : Prop :=
  before = false ∧ after = true

def CycleMove (before : CycleMark) (event : NormalizedEvent) (after : CycleMark) : Prop :=
  ∃ number time, event.eventSequence = some number ∧ event.tsEpoch = some time ∧
    before.Allows number time ∧ after = { number := some number, time := some time }

def seenMove : (name : SeenName) → SeenPart name → NormalizedEvent → SeenPart name → Prop
  | .eventId _ => UseMove
  | .idempotencyKey _ => UseMove
  | .cycle _ => CycleMove

theorem cycleMark_next (seen : OrderingSeen) (event : NormalizedEvent) (number : Int)
    (time : PyFloat) (cycleId : String) : cycleMark (seen.next event number time) cycleId =
      if printOption event.cycleId = cycleId then { number := some number, time := some time }
      else cycleMark seen cycleId := by
  unfold cycleMark OrderingSeen.next
  dsimp only
  by_cases same : printOption event.cycleId = cycleId
  · rw [if_pos same, same, Assoc.lookup_set_self]
    rfl
  · rw [if_neg same, Assoc.lookup_set_of_ne _ _ (Ne.symm same)]

theorem orderingStep_movesParts :
    MovesParts OrderingStep seenAddresses seenPart seenMove where
  own := by
    intro before event after stepped name addressed
    obtain ⟨eventId, idempotencyKey, number, time, ofNumber, ofTime, allowed, rfl⟩ := stepped
    cases name with
    | eventId text =>
        cases of_decide_eq_true addressed
        exact ⟨decide_eq_false eventId,
          decide_eq_true (List.mem_append_right _ (List.mem_singleton_self _))⟩
    | idempotencyKey text =>
        cases of_decide_eq_true addressed
        exact ⟨decide_eq_false idempotencyKey,
          decide_eq_true (List.mem_append_right _ (List.mem_singleton_self _))⟩
    | cycle cycleId =>
        cases of_decide_eq_true addressed
        refine ⟨number, time, ofNumber, ofTime, allowed, ?_⟩
        exact (cycleMark_next _ _ _ _ _).trans (if_pos rfl)
  others := by
    intro before event after stepped name unaddressed
    obtain ⟨_, _, number, time, _, _, _, rfl⟩ := stepped
    cases name with
    | eventId text =>
        have apart := of_decide_eq_false unaddressed
        refine decide_eq_decide.mpr ⟨?_, List.mem_append_left _⟩
        intro member
        refine (List.mem_append.mp member).resolve_right ?_
        intro last
        exact apart (List.mem_singleton.mp last).symm
    | idempotencyKey text =>
        have apart := of_decide_eq_false unaddressed
        refine decide_eq_decide.mpr ⟨?_, List.mem_append_left _⟩
        intro member
        refine (List.mem_append.mp member).resolve_right ?_
        intro last
        exact apart (List.mem_singleton.mp last).symm
    | cycle cycleId =>
        exact (cycleMark_next _ _ _ _ _).trans (if_neg (of_decide_eq_false unaddressed))

theorem seenMove_functional (name : SeenName) (before : SeenPart name) (event : NormalizedEvent)
    (after other : SeenPart name) (first : seenMove name before event after)
    (second : seenMove name before event other) : after = other := by
  cases name with
  | eventId text => exact first.2.trans second.2.symm
  | idempotencyKey text => exact first.2.trans second.2.symm
  | cycle cycleId =>
      obtain ⟨number, time, ofNumber, ofTime, _, rfl⟩ := first
      obtain ⟨otherNumber, otherTime, sameNumber, sameTime, _, rfl⟩ := second
      rw [ofNumber] at sameNumber
      rw [ofTime] at sameTime
      cases sameNumber
      cases sameTime
      rfl

theorem orderingStep_possible (before : OrderingSeen) (event : NormalizedEvent)
    (parts : ∀ name, seenAddresses name event = true →
      ∃ part, seenMove name (seenPart name before) event part) :
    ∃ after, OrderingStep before event after := by
  obtain ⟨_, newEventId, _⟩ := parts (.eventId _) (decide_eq_true rfl)
  obtain ⟨_, newIdempotencyKey, _⟩ := parts (.idempotencyKey _) (decide_eq_true rfl)
  obtain ⟨_, number, time, ofNumber, ofTime, allowed, _⟩ := parts (.cycle _) (decide_eq_true rfl)
  exact ⟨before.next event number time, of_decide_eq_false newEventId,
    of_decide_eq_false newIdempotencyKey, number, time, ofNumber, ofTime, allowed, rfl⟩

/-! ### Interleaved cycles -/

def rowCycle (row : PyValue) : Option String :=
  (rowEvent row).bind NormalizedEvent.cycleId

def Accepts (rows : List PyValue) : Prop :=
  ∃ ordering, guardPaperEventOrdering (.list rows) = .ok ordering ∧ ordering.valid = true

section Streams

variable {streams : Option String → List PyValue} {first second rows : List PyValue}

theorem accepts_iff_run : Accepts rows ↔
    (∀ row ∈ rows, ∃ event, RowReads row event) ∧
      ∃ finish, Run OrderingStep {} (rows.filterMap rowEvent) finish := by
  rw [Accepts, guard_valid_iff]
  constructor
  · rintro ⟨scan, scanned, clear⟩
    have read := (scanEvents_clear_iff orderingCheck_clear_iff).mp ⟨scan, scanned, clear, rfl⟩
    obtain ⟨valid, events⟩ := forall₂_rowReads_iff.mp read.1
    rw [← events]
    exact ⟨valid, read.2⟩
  · rintro ⟨valid, run⟩
    have read := forall₂_rowReads_iff.mpr ⟨valid, rfl⟩
    obtain ⟨scan, scanned, clear, _⟩ :=
      (scanEvents_clear_iff orderingCheck_clear_iff).mpr ⟨read, run⟩
    exact ⟨scan, scanned, clear⟩

theorem accepts_iff : Accepts rows ↔
    (∀ row ∈ rows, ∃ event, RowReads row event) ∧
      ∀ name, ∃ part, Run (seenMove name) (seenPart name {})
        ((rows.filterMap rowEvent).filter (seenAddresses name)) part := by
  have parts : (∃ finish, Run OrderingStep {} (rows.filterMap rowEvent) finish) ↔ _ :=
    orderingStep_movesParts.exists_run_iff seenMove_functional orderingStep_possible
  rw [accepts_iff_run, parts]

theorem Interleaves.rowEvents (interleaved : Interleaves rowCycle streams rows) :
    Interleaves NormalizedEvent.cycleId (fun cycle => (streams cycle).filterMap rowEvent)
      (rows.filterMap rowEvent) := by
  apply interleaved.filterMap
  intro row _member event read
  unfold rowCycle
  rw [read]
  rfl

theorem Accepts.interleaved (left : Interleaves rowCycle streams first)
    (right : Interleaves rowCycle streams second) (accepted : Accepts first) : Accepts second := by
  have same := left.perm right
  obtain ⟨valid, parts⟩ := accepts_iff.mp accepted
  have events : (first.filterMap rowEvent).Perm (second.filterMap rowEvent) :=
    same.filterMap rowEvent
  refine accepts_iff.mpr ⟨fun row member => valid row (same.mem_iff.mpr member), ?_⟩
  intro name
  obtain ⟨part, run⟩ := parts name
  cases name with
  | eventId text =>
      refine ⟨part, run.relabel (fun _ _ _ _ moved => moved) ?_⟩
      exact ((events.filter _).length_eq).symm
  | idempotencyKey text =>
      refine ⟨part, run.relabel (fun _ _ _ _ moved => moved) ?_⟩
      exact ((events.filter _).length_eq).symm
  | cycle cycleId =>
      have oneStream : (first.filterMap rowEvent).filter (seenAddresses (.cycle cycleId)) =
          (second.filterMap rowEvent).filter (seenAddresses (.cycle cycleId)) := by
        refine (Interleaves.rowEvents left).filter_eq (Interleaves.rowEvents right) ?_
        intro event member other otherMember own ofOther
        obtain ⟨⟨cycle, ofCycle⟩, _⟩ := valid_event_present (valid_of_mem_events valid member)
        obtain ⟨⟨otherCycle, ofOtherCycle⟩, _⟩ :=
          valid_event_present (valid_of_mem_events valid otherMember)
        have text : printOption event.cycleId = printOption other.cycleId :=
          (of_decide_eq_true own).trans (of_decide_eq_true ofOther).symm
        rw [ofCycle, ofOtherCycle] at text ⊢
        exact congrArg some text
      rw [← oneStream]
      exact ⟨part, run⟩

end Streams

end Algotradify.Paper.EventOrdering
