/-
The canonical paper event journal: a file of JSON lines that is only appended to, and
that is read again before every append.

A missing file is `none`. Creating directories and the path in a result are left out.

Loading a journal of any content: which files `load_paper_events` reads without raising.

Numbers are read as the language reads them: a literal beyond the range of a float is an
infinity, and an integer beyond it has no float. A row that is no object is not turned
into a blocker, and neither is a number that does not convert.
-/

import Algotradify.Paper.Events

namespace Algotradify.Paper.EventJournal

open Py Json Events Transition

variable {events : List NormalizedEvent} {event : NormalizedEvent} {file : Option String}

/-- `PaperEventJournalResult`. -/
structure JournalResult where
  appended : Bool
  event : Option NormalizedEvent := none
  events : List NormalizedEvent := []
  blockers : List String := []
  warnings : List String := []
deriving Repr

/-- `str(event["event_id"])`. -/
def eventIdText (event : NormalizedEvent) : String :=
  printValue (ofOptionString event.eventId)

/-- `str(event["idempotency_key"])`. -/
def idempotencyText (event : NormalizedEvent) : String :=
  printValue (ofOptionString event.idempotencyKey)

/-- `_duplicate_blockers`: the first existing event that clashes decides. -/
def duplicateBlockers (event : NormalizedEvent) : List NormalizedEvent → List String
  | [] => []
  | existing :: rest =>
      if idempotencyText existing = idempotencyText event ∧
          stableJson existing = stableJson event then
        ["PAPER_EVENT_DUPLICATE_IDEMPOTENCY_KEY_NOOP"]
      else if eventIdText existing = eventIdText event then ["PAPER_EVENT_DUPLICATE_EVENT_ID"]
      else if idempotencyText existing = idempotencyText event then
        ["PAPER_EVENT_CONFLICTING_IDEMPOTENCY_KEY"]
      else duplicateBlockers event rest

/-! ### Loading -/

structure JournalScan where
  events : List NormalizedEvent := []
  seenEventIds : List String := []
  seenIdempotency : List (String × NormalizedEvent) := []
  blockers : List String := []

def lineBlocker (number : Nat) (text : String) : String :=
  "LINE_" ++ printInt number ++ "_" ++ text

def conflicting (seen : List (String × NormalizedEvent)) (event : NormalizedEvent) : Bool :=
  match seen.lookup (idempotencyText event) with
  | none => false
  | some other => decide (stableJson other ≠ stableJson event)

/-- One turn of the loop of `load_paper_events`. -/
def loadLine (scan : JournalScan) (row : String × Nat) : Except PyError JournalScan :=
  let line := strip row.1
  if line = "" then .ok scan
  else
    match jsonLoads line with
    | none =>
        .ok { scan with blockers := scan.blockers ++
          ["PAPER_EVENT_JOURNAL_CORRUPT_JSONL_LINE_" ++ printInt row.2] }
    | some decoded => do
        let normalized ← normalizePaperEvent decoded
        let eventBlockers ← validatePaperEvent (.dict normalized.toDict)
        if eventBlockers ≠ [] then
          pure { scan with blockers := scan.blockers ++ eventBlockers.map (lineBlocker row.2) }
        else if eventIdText normalized ∈ scan.seenEventIds then
          pure { scan with blockers := scan.blockers ++
            [lineBlocker row.2 "PAPER_EVENT_DUPLICATE_EVENT_ID"] }
        else if conflicting scan.seenIdempotency normalized then
          pure { scan with blockers := scan.blockers ++
            [lineBlocker row.2 "PAPER_EVENT_CONFLICTING_IDEMPOTENCY_KEY"] }
        else
          pure
            { events := scan.events ++ [normalized]
              seenEventIds := scan.seenEventIds ++ [eventIdText normalized]
              seenIdempotency :=
                Assoc.set scan.seenIdempotency (idempotencyText normalized) normalized
              blockers := scan.blockers }

def loadPaperEvents (file : Option String) : Except PyError JournalResult :=
  match file with
  | none => .ok { appended := false }
  | some text => do
      let scan ← ((textLines text).zipIdx 1).foldlM loadLine {}
      pure { appended := false, events := scan.events, blockers := scan.blockers }

/-! ### Appending -/

/-- The file after the call, and its result. A call that raises has not written. -/
def appendPaperEvent (file : Option String) (event : PyValue) :
    Except PyError (Option String × JournalResult) := do
  let normalized ← normalizePaperEvent event
  let blockers ← validatePaperEvent (.dict normalized.toDict)
  if blockers ≠ [] then
    pure (file, { appended := false, event := some normalized, blockers := blockers })
  else
    let existing ← loadPaperEvents file
    if existing.blockers ≠ [] then
      pure (file,
        { appended := false
          event := some normalized
          events := existing.events
          blockers := existing.blockers })
    else
      let duplicates := duplicateBlockers normalized existing.events
      if duplicates ≠ [] then
        let idempotentMatch := duplicates = ["PAPER_EVENT_DUPLICATE_IDEMPOTENCY_KEY_NOOP"]
        pure (file,
          { appended := false
            event := some normalized
            events := existing.events
            blockers := if idempotentMatch then [] else duplicates
            warnings := if idempotentMatch then duplicates else [] })
      else
        pure (some (file.getD "" ++ (stableJson normalized ++ "\n")),
          { appended := true
            event := some normalized
            events := existing.events ++ [normalized] })

structure JournalRun where
  file : Option String := none
  accepted : List NormalizedEvent := []

/-- One call of `append_paper_event`, whatever its outcome. -/
def appendCall (run : JournalRun) (raw : JsonValue) : JournalRun :=
  match appendPaperEvent run.file raw.value with
  | .error _ => run
  | .ok (file, result) =>
      { file := file
        accepted := if result.appended then run.accepted ++ result.event.toList
          else run.accepted }

/-! ### The journal of accepted events -/

/-- An event that was accepted: its row reads back as a valid event. -/
structure Recorded (event : NormalizedEvent) : Prop where
  normal : Normal event
  valid : normalizedEventBlockers event = []
  formed : wellFormed (.dict event.toDict) = true

structure Recordable (events : List NormalizedEvent) : Prop where
  recorded : ∀ event ∈ events, Recorded event
  eventIds : (events.map eventIdText).Nodup
  idempotencyKeys : (events.map idempotencyText).Nodup

def journalText (events : List NormalizedEvent) : String :=
  joinRows (events.map stableJson)

/-- The file holds these events: it is missing until the first of them. -/
def Holds (file : Option String) (events : List NormalizedEvent) : Prop :=
  (file = none ∧ events = []) ∨ file = some (journalText events)

def loadedScan (events : List NormalizedEvent) : JournalScan :=
  { events := events.map NormalizedEvent.canonical
    seenEventIds := events.map eventIdText
    seenIdempotency := events.map fun event => (idempotencyText event, event.canonical) }

private theorem loadLine_recorded {events : List NormalizedEvent} {event : NormalizedEvent}
    (recorded : Recorded event) (newId : eventIdText event ∉ events.map eventIdText)
    (newKey : idempotencyText event ∉ events.map idempotencyText) (number : Nat) :
    loadLine (loadedScan events) (stableJson event, number) =
      .ok (loadedScan (events ++ [event])) := by
  obtain ⟨solid, nonempty⟩ := strip_write_dict compact (sortEntries event.toDict)
  have line : strip (stableJson event) = stableJson event := solid
  have visible : stableJson event ≠ "" := nonempty
  have normal := normalizePaperEvent_sorted recorded.normal recorded.valid
  have checked := validatePaperEvent_toDict normal
  rw [event.canonical_blockers, recorded.valid] at checked
  have keys : (events.map fun event => (idempotencyText event, event.canonical)).map Prod.fst =
      events.map idempotencyText := by
    rw [List.map_map]
    rfl
  have fresh : (events.map fun event => (idempotencyText event, event.canonical)).lookup
      (idempotencyText event) = none := by
    rw [Assoc.lookup_eq_none_iff, keys]
    exact newKey
  have noConflict : conflicting (loadedScan events).seenIdempotency event.canonical = false := by
    unfold conflicting loadedScan
    dsimp only
    change (match List.lookup (idempotencyText event) _ with
      | none => false
      | some other => decide (stableJson other ≠ stableJson event.canonical)) = false
    rw [fresh]
  unfold loadLine
  dsimp only
  rw [line, if_neg visible, jsonLoads_stableJson recorded.formed]
  dsimp only
  refine bind_eq_ok.mpr ⟨event.canonical, normal, ?_⟩
  refine bind_eq_ok.mpr ⟨[], checked, ?_⟩
  rw [if_neg (not_not.mpr rfl), if_neg (show ¬eventIdText event.canonical ∈
    (loadedScan events).seenEventIds from newId), noConflict, if_neg Bool.false_ne_true]
  have seen : Assoc.set (loadedScan events).seenIdempotency (idempotencyText event.canonical)
      event.canonical = (loadedScan (events ++ [event])).seenIdempotency := by
    unfold loadedScan
    dsimp only
    rw [List.map_append]
    refine Assoc.set_of_notMem ?_
    rw [keys]
    exact newKey
  rw [seen]
  unfold loadedScan
  simp only [List.map_append, List.map_cons, List.map_nil]
  rfl

private theorem foldlM_loadLine (first second : List NormalizedEvent)
    (recordable : Recordable (first ++ second)) (number : Nat) :
    ((second.map stableJson).zipIdx number).foldlM loadLine (loadedScan first) =
      .ok (loadedScan (first ++ second)) := by
  induction second generalizing first number with
  | nil =>
      rw [List.append_nil]
      rfl
  | cons event second ih =>
      have newId := recordable.eventIds
      have newKey := recordable.idempotencyKeys
      rw [List.map_append, List.map_cons, List.nodup_append] at newId newKey
      have stepped := @loadLine_recorded first event
        (recordable.recorded event (List.mem_append_right _ List.mem_cons_self))
        (fun member => newId.2.2 _ member _ List.mem_cons_self rfl)
        (fun member => newKey.2.2 _ member _ List.mem_cons_self rfl) number
      have whole : first ++ event :: second = (first ++ [event]) ++ second := by
        rw [List.append_assoc, List.singleton_append]
      rw [whole] at recordable ⊢
      rw [List.map_cons, List.zipIdx_cons, List.foldlM_cons, stepped]
      exact ih (first ++ [event]) recordable (number + 1)

theorem loadPaperEvents_holds (holds : Holds file events) (recordable : Recordable events) :
    loadPaperEvents file =
      .ok { appended := false, events := events.map NormalizedEvent.canonical } := by
  rcases holds with ⟨rfl, rfl⟩ | rfl
  · rfl
  · have unbroken : ∀ row ∈ events.map stableJson, Unbroken row.toList := by
      intro row member
      obtain ⟨event, _, rfl⟩ := List.mem_map.mp member
      exact unbroken_write rfl _
    have scanned := foldlM_loadLine [] events recordable 1
    unfold loadPaperEvents journalText
    dsimp only
    rw [textLines_joinRows unbroken]
    exact bind_eq_ok.mpr ⟨_, scanned, rfl⟩

/-! ### One call -/

theorem appendPaperEvent_cases {after : Option String} {raw : PyValue} {result : JournalResult}
    (ran : appendPaperEvent file raw = .ok (after, result)) :
    (result.appended = false ∧ after = file) ∨
      ∃ event existing, normalizePaperEvent raw = .ok event ∧
        normalizedEventBlockers event = [] ∧ loadPaperEvents file = .ok existing ∧
        duplicateBlockers event existing.events = [] ∧
        after = some (file.getD "" ++ (stableJson event ++ "\n")) ∧
        result.appended = true ∧ result.event = some event := by
  obtain ⟨event, normalized, ran⟩ := bind_eq_ok.mp ran
  rw [validatePaperEvent_toDict normalized] at ran
  obtain ⟨blockers, same, ran⟩ := bind_eq_ok.mp ran
  cases same
  by_cases valid : normalizedEventBlockers event = []
  · rw [if_neg (not_not.mpr valid)] at ran
    obtain ⟨existing, loaded, ran⟩ := bind_eq_ok.mp ran
    split at ran
    · cases ran
      exact .inl ⟨rfl, rfl⟩
    · dsimp only at ran
      split at ran
      · cases ran
        exact .inl ⟨rfl, rfl⟩
      · rename_i fresh
        cases ran
        exact .inr ⟨event, existing, normalized, valid, loaded, not_not.mp fresh, rfl, rfl, rfl⟩
  · rw [if_pos valid] at ran
    cases ran
    exact .inl ⟨rfl, rfl⟩

theorem duplicateBlockers_eq_nil_iff (event : NormalizedEvent) (existing : List NormalizedEvent) :
    duplicateBlockers event existing = [] ↔
      eventIdText event ∉ existing.map eventIdText ∧
        idempotencyText event ∉ existing.map idempotencyText := by
  induction existing with
  | nil => exact iff_of_true rfl ⟨List.not_mem_nil, List.not_mem_nil⟩
  | cons other rest ih =>
      rw [List.map_cons, List.map_cons, List.mem_cons, List.mem_cons, not_or, not_or]
      unfold duplicateBlockers
      by_cases sameKey : idempotencyText other = idempotencyText event
      · refine iff_of_false ?_ (fun both => both.2.1 sameKey.symm)
        by_cases sameRow : stableJson other = stableJson event
        · rw [if_pos ⟨sameKey, sameRow⟩]
          exact List.cons_ne_nil _ _
        · rw [if_neg (fun both => sameRow both.2), if_pos sameKey]
          split <;> exact List.cons_ne_nil _ _
      · rw [if_neg (fun both => sameKey both.1)]
        by_cases sameId : eventIdText other = eventIdText event
        · rw [if_pos sameId]
          exact iff_of_false (List.cons_ne_nil _ _) (fun both => both.1.1 sameId.symm)
        · rw [if_neg sameId, if_neg sameKey, ih]
          exact ⟨fun both => ⟨⟨fun same => sameId same.symm, both.1⟩,
            ⟨fun same => sameKey same.symm, both.2⟩⟩, fun both => ⟨both.1.2, both.2.2⟩⟩

private theorem map_canonical {text : NormalizedEvent → String} (events : List NormalizedEvent)
    (kept : ∀ event : NormalizedEvent, text event.canonical = text event) :
    (events.map NormalizedEvent.canonical).map text = events.map text := by
  rw [List.map_map]
  exact List.map_congr_left fun event _ => kept event

theorem appendCall_holds {run : JournalRun} (raw : JsonValue) (holds : Holds run.file run.accepted)
    (recordable : Recordable run.accepted) :
    Holds (appendCall run raw).file (appendCall run raw).accepted ∧
      Recordable (appendCall run raw).accepted := by
  unfold appendCall
  cases ran : appendPaperEvent run.file raw.value with
  | error raised => exact ⟨holds, recordable⟩
  | ok answer =>
      obtain ⟨after, result⟩ := answer
      dsimp only
      rcases appendPaperEvent_cases ran with ⟨refused, rfl⟩ |
        ⟨event, existing, normalized, valid, loaded, fresh, rfl, accepted, own⟩
      · rw [refused]
        exact ⟨holds, recordable⟩
      · rw [accepted, own, if_pos rfl, Option.toList_some]
        rw [loadPaperEvents_holds holds recordable] at loaded
        cases loaded
        obtain ⟨newId, newKey⟩ := (duplicateBlockers_eq_nil_iff _ _).mp fresh
        rw [map_canonical _ fun _ => rfl] at newId newKey
        constructor
        · refine .inr (congrArg some ?_)
          unfold journalText
          rw [List.map_append, List.map_singleton, joinRows_snoc]
          rcases holds with ⟨missing, none⟩ | present
          · rw [missing, none]
            rfl
          · rw [present]
            rfl
        · have recorded : Recorded event :=
            { normal := normalizePaperEvent_toDict normalized
              valid := valid
              formed := wellFormed_toDict raw.formed normalized }
          refine ⟨?_, ?_, ?_⟩
          · intro other member
            rcases List.mem_append.mp member with earlier | last
            · exact recordable.recorded other earlier
            · rw [List.mem_singleton.mp last]
              exact recorded
          · rw [List.map_append, List.map_singleton]
            exact recordable.eventIds.append (List.nodup_singleton _)
              (List.disjoint_singleton.mpr newId)
          · rw [List.map_append, List.map_singleton]
            exact recordable.idempotencyKeys.append (List.nodup_singleton _)
              (List.disjoint_singleton.mpr newKey)

theorem appends_hold (raws : List JsonValue) :
    Holds (raws.foldl appendCall {}).file (raws.foldl appendCall {}).accepted ∧
      Recordable (raws.foldl appendCall {}).accepted := by
  have empty : Recordable [] :=
    ⟨fun _ member => absurd member List.not_mem_nil, List.nodup_nil, List.nodup_nil⟩
  refine (Run.of_foldl appendCall {} raws).invariant
    (motive := fun run => Holds run.file run.accepted ∧ Recordable run.accepted)
    ⟨.inl ⟨rfl, rfl⟩, empty⟩ ?_
  rintro before raw after ⟨holds, recordable⟩ rfl
  exact appendCall_holds raw holds recordable

/-! ### Retries -/

private theorem duplicateBlockers_recorded (recordable : Recordable events)
    (member : event ∈ events) :
    duplicateBlockers event (events.map NormalizedEvent.canonical) =
      ["PAPER_EVENT_DUPLICATE_IDEMPOTENCY_KEY_NOOP"] := by
  induction events with
  | nil => cases member
  | cons other rest ih =>
      obtain ⟨ofOther, ofRest⟩ := List.forall_mem_cons.mp recordable.recorded
      have ids := List.nodup_cons.mp recordable.eventIds
      have keys := List.nodup_cons.mp recordable.idempotencyKeys
      rw [List.map_cons]
      unfold duplicateBlockers
      rcases List.mem_cons.mp member with rfl | later
      · exact if_pos ⟨rfl, stableJson_canonical ofOther.valid⟩
      · have otherKey : ¬idempotencyText other.canonical = idempotencyText event := fun same =>
          keys.1 (List.mem_map.mpr ⟨event, later, same.symm⟩)
        have otherId : ¬eventIdText other.canonical = eventIdText event := fun same =>
          ids.1 (List.mem_map.mpr ⟨event, later, same.symm⟩)
        rw [if_neg (fun both => otherKey both.1), if_neg otherId, if_neg otherKey]
        exact ih ⟨ofRest, ids.2, keys.2⟩ later

def retryResult (event : NormalizedEvent) (events : List NormalizedEvent) : JournalResult :=
  { appended := false
    event := some event
    events := events.map NormalizedEvent.canonical
    warnings := ["PAPER_EVENT_DUPLICATE_IDEMPOTENCY_KEY_NOOP"] }

theorem appendPaperEvent_retry (holds : Holds file events) (recordable : Recordable events)
    (member : event ∈ events) {raw : PyValue} (normalized : normalizePaperEvent raw = .ok event) :
    appendPaperEvent file raw = .ok (file, retryResult event events) := by
  have checked := validatePaperEvent_toDict normalized
  rw [(recordable.recorded event member).valid] at checked
  refine bind_eq_ok.mpr ⟨event, normalized, ?_⟩
  refine bind_eq_ok.mpr ⟨[], checked, ?_⟩
  rw [if_neg (not_not.mpr rfl)]
  refine bind_eq_ok.mpr ⟨_, loadPaperEvents_holds holds recordable, ?_⟩
  rw [if_neg (not_not.mpr rfl)]
  dsimp only
  rw [duplicateBlockers_recorded recordable member, if_pos (List.cons_ne_nil _ _), if_pos rfl,
    if_pos rfl]
  rfl

/-! ### Every run of appends -/

/-- After any calls on a missing journal, loading finds no blocker and returns the
accepted events in order; no id and no key occurs twice; a retry of an accepted event is
answered as one and changes nothing, and neither does any call that is refused or
raises. -/
theorem accepted_events_load (raws : List JsonValue) :
    ∃ loaded, loadPaperEvents (raws.foldl appendCall {}).file = .ok loaded ∧
      loaded.blockers = [] ∧
      List.Forall₂ (fun accepted read =>
          SameValue (.dict accepted.toDict) (.dict read.toDict))
        (raws.foldl appendCall {}).accepted loaded.events ∧
      (loaded.events.map NormalizedEvent.eventId).Nodup ∧
      (loaded.events.map NormalizedEvent.idempotencyKey).Nodup ∧
      (∀ raw event, normalizePaperEvent raw = .ok event →
        event ∈ (raws.foldl appendCall {}).accepted →
        ∃ result, appendPaperEvent (raws.foldl appendCall {}).file raw =
            .ok ((raws.foldl appendCall {}).file, result) ∧
          result.appended = false ∧ result.blockers = []) ∧
      ∀ raw after result, appendPaperEvent (raws.foldl appendCall {}).file raw =
          .ok (after, result) → result.appended = false →
        after = (raws.foldl appendCall {}).file := by
  obtain ⟨holds, recordable⟩ := appends_hold raws
  generalize raws.foldl appendCall {} = run at holds recordable ⊢
  refine ⟨_, loadPaperEvents_holds holds recordable, rfl, ?_, ?_, ?_, ?_, ?_⟩
  · rw [List.forall₂_map_right_iff, List.forall₂_same]
    intro event member
    exact sameValue_canonical (recordable.recorded event member).valid
  · have ids := recordable.eventIds
    rw [← map_canonical run.accepted fun _ => rfl] at ids
    refine List.Nodup.of_map (fun eventId => printValue (ofOptionString eventId)) ?_
    rw [List.map_map]
    exact ids
  · have keys := recordable.idempotencyKeys
    rw [← map_canonical run.accepted fun _ => rfl] at keys
    refine List.Nodup.of_map (fun key => printValue (ofOptionString key)) ?_
    rw [List.map_map]
    exact keys
  · intro raw event normalized member
    exact ⟨_, appendPaperEvent_retry holds recordable member normalized, rfl, rfl⟩
  · intro raw after result ran refused
    rcases appendPaperEvent_cases ran with ⟨_, same⟩ | ⟨_, _, _, _, _, _, _, accepted, _⟩
    · exact same
    · rw [refused] at accepted
      cases accepted

/-! ### Numbers beyond the range of a float -/

def floatBound : ℕ := 2 ^ 1024 - 2 ^ 970

def ratInFloat (value : ℚ) : PyFloat :=
  if (floatBound : ℚ) ≤ value then .posInf
  else if value ≤ -(floatBound : ℚ) then .negInf
  else .finite value

def floatInRange : PyFloat → PyFloat
  | .finite value => ratInFloat value
  | other => other

mutual

/-- The float literals of a value, where they are beyond the range, are infinities. -/
def inFloats : PyValue → PyValue
  | .float number => .float (floatInRange number)
  | .list items => .list (inFloatsItems items)
  | .dict entries => .dict (inFloatsEntries entries)
  | .none => .none
  | .bool flag => .bool flag
  | .int number => .int number
  | .str text => .str text

def inFloatsItems : List PyValue → List PyValue
  | [] => []
  | item :: rest => inFloats item :: inFloatsItems rest

def inFloatsEntries : List (String × PyValue) → List (String × PyValue)
  | [] => []
  | (key, value) :: rest => (key, inFloats value) :: inFloatsEntries rest

end

/-- `float(value)` raises OverflowError. -/
def isTooLarge : PyValue → Bool
  | .int number => decide (floatBound ≤ number.natAbs)
  | _ => false

/-! ### Loading -/

section

-- The lines on which `json.loads` exceeds a limit of the interpreter, on the digits of an
-- integer or on nesting, and raises something else than JSONDecodeError.
variable (beyondLimits : String → Bool)

/-- `json.loads(line)`, without a value where it raises JSONDecodeError. -/
def decodeRow (line : String) : Except PyError (Option PyValue) :=
  if beyondLimits line then .error (.valueError "the limits of the interpreter are exceeded")
  else .ok ((jsonLoads line).map inFloats)

/-- `normalize_paper_event`, with the conversion of the time. -/
def normalizeRow : PyValue → Except PyError NormalizedEvent
  | .dict raw => do
      let event ← normalizePaperEvent (.dict raw)
      if isTooLarge (PyDict.get raw "ts_epoch") then
        .error (.overflowError "int too large to convert to float")
      else .ok event
  | other => normalizePaperEvent other

/-- The rest of a turn of the loop, with what the line decodes to. -/
def takeRow (scan : JournalScan) (number : Nat) : Option PyValue → Except PyError JournalScan
  | none =>
      .ok { scan with blockers := scan.blockers ++
        ["PAPER_EVENT_JOURNAL_CORRUPT_JSONL_LINE_" ++ printInt number] }
  | some decoded => do
      let normalized ← normalizeRow decoded
      let eventBlockers ← validatePaperEvent (.dict normalized.toDict)
      if eventBlockers ≠ [] then
        pure { scan with blockers := scan.blockers ++ eventBlockers.map (lineBlocker number) }
      else if eventIdText normalized ∈ scan.seenEventIds then
        pure { scan with blockers := scan.blockers ++
          [lineBlocker number "PAPER_EVENT_DUPLICATE_EVENT_ID"] }
      else if conflicting scan.seenIdempotency normalized then
        pure { scan with blockers := scan.blockers ++
          [lineBlocker number "PAPER_EVENT_CONFLICTING_IDEMPOTENCY_KEY"] }
      else
        pure
          { events := scan.events ++ [normalized]
            seenEventIds := scan.seenEventIds ++ [eventIdText normalized]
            seenIdempotency :=
              Assoc.set scan.seenIdempotency (idempotencyText normalized) normalized
            blockers := scan.blockers }

/-- One turn of the loop of `load_paper_events`. -/
def loadRow (scan : JournalScan) (row : String × Nat) : Except PyError JournalScan :=
  if strip row.1 = "" then .ok scan
  else do
    let decoded ← decodeRow beyondLimits (strip row.1)
    takeRow scan row.2 decoded

/-- `load_paper_events` of the text of a file. -/
def loadJournal (text : String) : Except PyError JournalResult := do
  let scan ← ((textLines text).zipIdx 1).foldlM (loadRow beyondLimits) {}
  pure { appended := false, events := scan.events, blockers := scan.blockers }

end

/-! ### The rows that convert -/

/-- The row is an object, its sequence number is no infinite float and its time no integer
beyond the range of a float. -/
structure Convertible (decoded : PyValue) : Prop where
  converts : ∃ raw, decoded = .dict raw ∧ PyDict.get raw "event_sequence" ≠ .float .posInf ∧
    PyDict.get raw "event_sequence" ≠ .float .negInf ∧ isTooLarge (PyDict.get raw "ts_epoch") = false

theorem intOrNone_ok_iff (value : PyValue) :
    (∃ number, intOrNone value = .ok number) ↔
      value ≠ .float .posInf ∧ value ≠ .float .negInf := by
  cases value with
  | float number =>
      cases number with
      | finite own => exact iff_of_true ⟨_, rfl⟩ (by constructor <;> intro other <;> cases other)
      | nan => exact iff_of_true ⟨none, rfl⟩ (by constructor <;> intro other <;> cases other)
      | posInf =>
          refine iff_of_false ?_ fun both => both.1 rfl
          rintro ⟨number, impossible⟩
          cases impossible
      | negInf =>
          refine iff_of_false ?_ fun both => both.2 rfl
          rintro ⟨number, impossible⟩
          cases impossible
  | str text =>
      refine iff_of_true ?_ (by constructor <;> intro other <;> cases other)
      unfold intOrNone
      by_cases empty : (PyValue.str text).isNoneOrEmpty = true
      · rw [if_pos empty]
        exact ⟨none, rfl⟩
      · rw [if_neg empty]
        cases read : parseInt? text with
        | none =>
            have raised : toInt (.str text) =
                .error (.valueError "invalid literal for int() with base 10") := by
              rw [toInt, read]
            exact ⟨none, by rw [raised]⟩
        | some own =>
            have converted : toInt (.str text) = .ok own := by rw [toInt, read]
            exact ⟨some own, by rw [converted]⟩
  | none | bool | int | list | dict =>
      exact iff_of_true ⟨_, rfl⟩ (by constructor <;> intro other <;> cases other)

theorem normalizeRow_ok_iff (decoded : PyValue) :
    (∃ event, normalizeRow decoded = .ok event) ↔ Convertible decoded := by
  cases decoded with
  | dict raw =>
      constructor
      · rintro ⟨event, normalized⟩
        obtain ⟨own, made, kept⟩ := bind_eq_ok.mp normalized
        obtain ⟨sequence, read, _⟩ := bind_eq_ok.mp made
        obtain ⟨notPos, notNeg⟩ := (intOrNone_ok_iff _).mp ⟨sequence, read⟩
        refine ⟨raw, rfl, notPos, notNeg, ?_⟩
        by_contra large
        rw [Bool.not_eq_false] at large
        rw [if_pos large] at kept
        cases kept
      · rintro ⟨own, same, notPos, notNeg, small⟩
        rw [← PyValue.dict.inj same] at notPos notNeg small
        obtain ⟨sequence, read⟩ := (intOrNone_ok_iff _).mpr ⟨notPos, notNeg⟩
        refine exists_ok_bind (bind_eq_ok.mpr ⟨sequence, read, rfl⟩) ?_
        rw [small, if_neg Bool.false_ne_true]
        exact ⟨_, rfl⟩
  | _ =>
      refine iff_of_false ?_ ?_
      · rintro ⟨event, impossible⟩
        cases impossible
      · rintro ⟨raw, impossible, _⟩
        cases impossible

theorem normalizePaperEvent_of_normalizeRow {decoded : PyValue}
    (normalized : normalizeRow decoded = .ok event) : normalizePaperEvent decoded = .ok event := by
  cases decoded with
  | dict raw =>
      obtain ⟨own, made, kept⟩ := bind_eq_ok.mp normalized
      split at kept
      · cases kept
      · rw [made, kept]
  | _ => exact normalized

def NamesLine (number : Nat) (text : String) : Prop :=
  text = "PAPER_EVENT_JOURNAL_CORRUPT_JSONL_LINE_" ++ printInt number ∨
    ∃ blocker, text = lineBlocker number blocker

theorem takeRow_some {scan : JournalScan} {number : Nat} {decoded : PyValue}
    {event : NormalizedEvent} (normalized : normalizeRow decoded = .ok event) :
    ∃ after, takeRow scan number (some decoded) = .ok after ∧
      ∃ more, after.blockers = scan.blockers ++ more ∧
        (normalizedEventBlockers event ≠ [] → ∃ text ∈ more, NamesLine number text) := by
  have checked := validatePaperEvent_toDict (normalizePaperEvent_of_normalizeRow normalized)
  refine exists_bind_ok normalized (exists_bind_ok checked ?_)
  by_cases blocked : normalizedEventBlockers event ≠ []
  · rw [if_pos blocked]
    refine ⟨_, rfl, _, rfl, fun _blocked => ?_⟩
    obtain ⟨blocker, rest, own⟩ := List.exists_cons_of_ne_nil blocked
    rw [own]
    exact ⟨lineBlocker number blocker, List.mem_map_of_mem List.mem_cons_self, .inr ⟨blocker, rfl⟩⟩
  · rw [if_neg blocked]
    split
    · exact ⟨_, rfl, _, rfl, fun other => absurd other blocked⟩
    · split
      · exact ⟨_, rfl, _, rfl, fun other => absurd other blocked⟩
      · exact ⟨_, rfl, [], (List.append_nil _).symm, fun other => absurd other blocked⟩

section

variable (beyondLimits : String → Bool)

/-- A line that is within the limits, and that converts if it is JSON. -/
def Loadable (line : String) : Prop :=
  beyondLimits line = false ∧
    ∀ decoded, jsonLoads line = some decoded → Convertible (inFloats decoded)

def ValidRow (line : String) : Prop :=
  ∃ decoded event, jsonLoads line = some decoded ∧ normalizeRow (inFloats decoded) = .ok event ∧
    normalizedEventBlockers event = []

def ListsBlockers (rows : List (String × Nat)) (blockers : List String) : Prop :=
  ∀ row ∈ rows, strip row.1 ≠ "" → ¬ ValidRow (strip row.1) →
    ∃ text ∈ blockers, NamesLine row.2 text

theorem loadRow_loadable {scan : JournalScan} {row : String × Nat}
    (loadable : strip row.1 ≠ "" → Loadable beyondLimits (strip row.1)) :
    ∃ after, loadRow beyondLimits scan row = .ok after ∧
      ∃ more, after.blockers = scan.blockers ++ more ∧
        (strip row.1 ≠ "" → ¬ ValidRow (strip row.1) → ∃ text ∈ more, NamesLine row.2 text) := by
  unfold loadRow
  by_cases blank : strip row.1 = ""
  · rw [if_pos blank]
    exact ⟨scan, rfl, [], (List.append_nil _).symm, fun visible => absurd blank visible⟩
  · rw [if_neg blank]
    obtain ⟨limits, converts⟩ := loadable blank
    have read : decodeRow beyondLimits (strip row.1) =
        .ok ((jsonLoads (strip row.1)).map inFloats) := by
      unfold decodeRow
      rw [limits, if_neg Bool.false_ne_true]
    refine exists_bind_ok read ?_
    cases decodedEq : jsonLoads (strip row.1) with
    | none =>
        exact ⟨_, rfl, _, rfl, fun _visible _invalid =>
          ⟨_, List.mem_singleton_self _, .inl rfl⟩⟩
    | some decoded =>
        obtain ⟨event, normalized⟩ := (normalizeRow_ok_iff _).mpr (converts decoded decodedEq)
        obtain ⟨after, taken, more, added, named⟩ :=
          @takeRow_some scan row.2 (inFloats decoded) event normalized
        refine ⟨after, taken, more, added, fun _visible invalid => named fun valid => ?_⟩
        exact invalid ⟨decoded, event, decodedEq, normalized, valid⟩

theorem loadable_of_loadRow {scan after : JournalScan} {row : String × Nat}
    (loaded : loadRow beyondLimits scan row = .ok after) (visible : strip row.1 ≠ "") :
    Loadable beyondLimits (strip row.1) := by
  unfold loadRow at loaded
  rw [if_neg visible] at loaded
  obtain ⟨decoded, read, taken⟩ := bind_eq_ok.mp loaded
  unfold decodeRow at read
  cases limits : beyondLimits (strip row.1) with
  | true =>
      rw [limits, if_pos rfl] at read
      cases read
  | false =>
      rw [limits, if_neg Bool.false_ne_true] at read
      refine ⟨limits, fun own decodedEq => ?_⟩
      rw [decodedEq] at read
      rw [← Except.ok.inj read] at taken
      obtain ⟨event, normalized, _⟩ := bind_eq_ok.mp taken
      exact (normalizeRow_ok_iff _).mp ⟨event, normalized⟩

theorem loadRows_loadable (rows : List (String × Nat))
    (loadable : ∀ row ∈ rows, strip row.1 ≠ "" → Loadable beyondLimits (strip row.1))
    (scan : JournalScan) :
    ∃ final, rows.foldlM (loadRow beyondLimits) scan = .ok final ∧
      ∃ more, final.blockers = scan.blockers ++ more ∧ ListsBlockers rows more := by
  induction rows generalizing scan with
  | nil =>
      exact ⟨scan, rfl, [], (List.append_nil _).symm, fun row member => by cases member⟩
  | cons row rest ih =>
      obtain ⟨after, stepped, own, added, named⟩ := @loadRow_loadable beyondLimits scan row
        (loadable row List.mem_cons_self)
      obtain ⟨final, ran, later, grown, lists⟩ :=
        ih (fun other member => loadable other (List.mem_cons_of_mem row member)) after
      refine ⟨final, ?_, own ++ later, ?_, ?_⟩
      · rw [List.foldlM_cons, stepped]
        exact ran
      · rw [grown, added, List.append_assoc]
      · intro other member visible invalid
        rcases List.mem_cons.mp member with here | there
        · subst here
          obtain ⟨text, present, names⟩ := named visible invalid
          exact ⟨text, List.mem_append_left _ present, names⟩
        · obtain ⟨text, present, names⟩ := lists other there visible invalid
          exact ⟨text, List.mem_append_right _ present, names⟩

theorem loadable_of_loadRows (rows : List (String × Nat)) {scan final : JournalScan}
    (ran : rows.foldlM (loadRow beyondLimits) scan = .ok final) :
    ∀ row ∈ rows, strip row.1 ≠ "" → Loadable beyondLimits (strip row.1) := by
  induction rows generalizing scan with
  | nil =>
      intro row member
      cases member
  | cons row rest ih =>
      rw [List.foldlM_cons] at ran
      obtain ⟨after, stepped, ran⟩ := bind_eq_ok.mp ran
      intro other member visible
      rcases List.mem_cons.mp member with here | there
      · subst here
        exact loadable_of_loadRow beyondLimits stepped visible
      · exact ih ran other there visible

/-- Loading returns, with a blocker for every row that is no valid event, exactly when
every row that is JSON converts. -/
theorem loadJournal_returns_iff (text : String) :
    (∃ result, loadJournal beyondLimits text = .ok result ∧
      ListsBlockers ((textLines text).zipIdx 1) result.blockers) ↔
      ∀ row ∈ textLines text, strip row ≠ "" → Loadable beyondLimits (strip row) := by
  have rows : (∀ row ∈ textLines text, strip row ≠ "" → Loadable beyondLimits (strip row)) ↔
      ∀ row ∈ (textLines text).zipIdx 1, strip row.1 ≠ "" →
        Loadable beyondLimits (strip row.1) := by
    constructor
    · intro loadable row member
      exact loadable row.1 (List.fst_mem_of_mem_zipIdx member)
    · intro loadable row member
      rw [← List.zipIdx_map_fst 1 (textLines text)] at member
      obtain ⟨entry, present, own⟩ := List.mem_map.mp member
      rw [← own]
      exact loadable entry present
  rw [rows]
  constructor
  · rintro ⟨result, loaded, _⟩
    obtain ⟨scan, ran, _⟩ := bind_eq_ok.mp loaded
    exact loadable_of_loadRows beyondLimits _ ran
  · intro loadable
    obtain ⟨final, ran, more, added, lists⟩ := loadRows_loadable beyondLimits _ loadable {}
    refine ⟨_, bind_eq_ok.mpr ⟨final, ran, rfl⟩, ?_⟩
    have own : final.blockers = more := added
    intro row member visible invalid
    change ∃ text ∈ final.blockers, NamesLine row.2 text
    rw [own]
    exact lists row member visible invalid

end

/-- A row that is a list is not blocked, it raises; so does a sequence number without end. -/
theorem rows_that_raise :
    (¬ ∃ result, loadJournal (fun _ => false) "[1]\n" = .ok result) ∧
      ¬ ∃ result, loadJournal (fun _ => false) "\x7b\"event_sequence\": 1e999\x7d\n" =
        .ok result := by
  have raised : (loadJournal (fun _ => false) "[1]\n").toOption.isNone = true ∧
      (loadJournal (fun _ => false) "\x7b\"event_sequence\": 1e999\x7d\n").toOption.isNone =
        true := by decide +kernel
  constructor
  · rintro ⟨result, loaded⟩
    rw [loaded] at raised
    cases raised.1
  · rintro ⟨result, loaded⟩
    rw [loaded] at raised
    cases raised.2

end Algotradify.Paper.EventJournal
