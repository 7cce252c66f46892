/-
The state that is rebuilt from the event log: rows that repeat an event id, or the trade and
the type of an earlier row, are counted as duplicates, and the others are kept.

The local sets of keys stand beside the state that is returned.
-/

import Algotradify.Dedup.Firsts
import Algotradify.Json.Encode

namespace Algotradify.Core.EventLog

open Py Json Dedup

/-! ### Rows -/

def rowOfLine (line : String) : Option PyDict :=
  let raw := strip line
  if raw = "" then none
  else
    match jsonLoads raw with
    | some (.dict row) => some row
    | _ => none

/-- `iter_events`. -/
def iterEvents (log : Option String) : List PyDict :=
  match log with
  | none => []
  | some text => (textLines text).filterMap rowOfLine

def payloadOf (row : PyDict) : PyDict :=
  match PyDict.get row "payload" with
  | .dict payload => payload
  | _ => []

def eventType (row : PyDict) : String :=
  strip (printValue ((PyDict.get row "type").or (.str "")))

def idText (field : String) (row : PyDict) : String :=
  strip (printValue
    (((PyDict.get (payloadOf row) field).or (PyDict.get row field)).or (.str "")))

def eventId (row : PyDict) : String :=
  idText "event_id" row

def tradeId (row : PyDict) : String :=
  idText "trade_id" row

/-- `event_type or "-"`. -/
def typeOrDash (row : PyDict) : String :=
  if eventType row = "" then "-" else eventType row

/-- The separators that `json.dumps` has by default. -/
def eventLayout : Layout :=
  { afterComma := 1, afterColon := 1, indent := none, ensureAscii := true }

/-- `json.dumps(payload, sort_keys=True)`. -/
def payloadText (row : PyDict) : String :=
  jsonDumps eventLayout (.dict (payloadOf row))

-- the texts of a row are compared below, never computed
attribute [irreducible] idText eventType payloadText

/-! ### The loop -/

structure EventLogState where
  seenEventIds : Finset String
  seenTradeIds : Finset String
  uniqueEvents : List PyDict
  duplicateCount : ℕ

structure Building extends EventLogState where
  seenTradeEventKeys : Finset (String × String)
  seenFallbackKeys : Finset (String × String)

def Building.start : Building :=
  { seenEventIds := ∅, seenTradeIds := ∅, uniqueEvents := [], duplicateCount := 0,
    seenTradeEventKeys := ∅, seenFallbackKeys := ∅ }

def Building.duplicate (building : Building) : Building :=
  { building with duplicateCount := building.duplicateCount + 1 }

/-- `seen_event_ids.add(event_id)`, of a row that has one. -/
def Building.noteEventId (building : Building) (id : String) : Building :=
  if id = "" then building
  else { building with seenEventIds := insert id building.seenEventIds }

def Building.takeRow (building : Building) (row : PyDict) : Building :=
  if tradeId row ≠ "" then
    let dedupeKey := (tradeId row, typeOrDash row)
    if dedupeKey ∈ building.seenTradeEventKeys then building.duplicate
    else
      { building with
        seenTradeEventKeys := insert dedupeKey building.seenTradeEventKeys
        seenTradeIds := insert (tradeId row) building.seenTradeIds
        uniqueEvents := building.uniqueEvents ++ [row] }
  else
    let fallbackKey := (typeOrDash row, payloadText row)
    if fallbackKey ∈ building.seenFallbackKeys then building.duplicate
    else
      { building with
        seenFallbackKeys := insert fallbackKey building.seenFallbackKeys
        uniqueEvents := building.uniqueEvents ++ [row] }

def Building.ingest (building : Building) (row : PyDict) : Building :=
  if eventId row ≠ "" ∧ eventId row ∈ building.seenEventIds then building.duplicate
  else (building.noteEventId (eventId row)).takeRow row

/-- `build_state_from_events`. -/
def buildStateFromEvents (log : Option String) : EventLogState :=
  ((iterEvents log).foldl Building.ingest .start).toEventLogState

/-! ### The key of a row -/

inductive DerivedKey where
  | trade (tradeId eventType : String)
  | fallback (eventType payload : String)
deriving DecidableEq

def derivedKey (row : PyDict) : DerivedKey :=
  if tradeId row ≠ "" then .trade (tradeId row) (typeOrDash row)
  else .fallback (typeOrDash row) (payloadText row)

def Building.Seen (building : Building) : DerivedKey → Prop
  | .trade tradeId eventType => (tradeId, eventType) ∈ building.seenTradeEventKeys
  | .fallback eventType payload => (eventType, payload) ∈ building.seenFallbackKeys

section Steps

variable {building : Building} {row : PyDict}

@[simp] theorem noteEventId_uniqueEvents (id : String) :
    (building.noteEventId id).uniqueEvents = building.uniqueEvents := by
  unfold Building.noteEventId
  split <;> rfl

@[simp] theorem noteEventId_empty : building.noteEventId "" = building :=
  if_pos rfl

@[simp] theorem noteEventId_seen (id : String) (key : DerivedKey) :
    (building.noteEventId id).Seen key ↔ building.Seen key := by
  unfold Building.noteEventId
  split
  · rfl
  · cases key <;> rfl

@[simp] theorem mem_noteEventId (id other : String) :
    other ∈ (building.noteEventId id).seenEventIds ↔
      (id ≠ "" ∧ other = id) ∨ other ∈ building.seenEventIds := by
  unfold Building.noteEventId
  split
  · rename_i empty
    simp [empty]
  · rename_i named
    simp [named]

@[simp] theorem duplicate_uniqueEvents :
    building.duplicate.uniqueEvents = building.uniqueEvents := rfl

@[simp] theorem duplicate_seenEventIds :
    building.duplicate.seenEventIds = building.seenEventIds := rfl

@[simp] theorem duplicate_seen (key : DerivedKey) :
    building.duplicate.Seen key ↔ building.Seen key := by
  cases key <;> rfl

theorem takeRow_seen (seen : building.Seen (derivedKey row)) :
    building.takeRow row = building.duplicate := by
  unfold derivedKey at seen
  unfold Building.takeRow
  by_cases traded : tradeId row ≠ ""
  · rw [if_pos traded] at seen ⊢
    exact if_pos seen
  · rw [if_neg traded] at seen ⊢
    exact if_pos seen

/-- A row with a new key is kept, and its key is seen from then on. -/
structure Keeps (before after : Building) (row : PyDict) : Prop where
  unique : after.uniqueEvents = before.uniqueEvents ++ [row]
  ids : after.seenEventIds = before.seenEventIds
  keys : ∀ key, after.Seen key ↔ key = derivedKey row ∨ before.Seen key

theorem takeRow_new (fresh : ¬building.Seen (derivedKey row)) :
    Keeps building (building.takeRow row) row := by
  unfold derivedKey at fresh
  unfold Building.takeRow
  by_cases traded : tradeId row ≠ ""
  · rw [if_pos traded] at fresh ⊢
    change (tradeId row, typeOrDash row) ∉ building.seenTradeEventKeys at fresh
    simp only [if_neg fresh]
    refine ⟨rfl, rfl, ?_⟩
    intro key
    unfold derivedKey
    rw [if_pos traded]
    cases key <;> simp [Building.Seen]
  · rw [if_neg traded] at fresh ⊢
    change (typeOrDash row, payloadText row) ∉ building.seenFallbackKeys at fresh
    simp only [if_neg fresh]
    refine ⟨rfl, rfl, ?_⟩
    intro key
    unfold derivedKey
    rw [if_neg traded]
    cases key <;> simp [Building.Seen]

end Steps

/-! ### Rows with event ids of their own -/

structure Built (building : Building) (rows : List PyDict) : Prop where
  unique : building.uniqueEvents = firsts derivedKey rows
  ids : ∀ id, id ∈ building.seenEventIds → id ∈ rows.map eventId
  keys : ∀ key, building.Seen key ↔ key ∈ rows.map derivedKey

theorem Built.start : Built .start [] where
  unique := rfl
  ids := fun _ impossible => absurd impossible (Finset.notMem_empty _)
  keys := by
    intro key
    cases key <;> simp [Building.Seen, Building.start]

theorem Built.step {building : Building} {rows : List PyDict} {row : PyDict}
    (built : Built building rows) (fresh : eventId row ∉ rows.map eventId) :
    Built (building.ingest row) (rows ++ [row]) := by
  have unseen : ¬(eventId row ≠ "" ∧ eventId row ∈ building.seenEventIds) :=
    fun seen => fresh (built.ids _ seen.2)
  unfold Building.ingest
  rw [if_neg unseen]
  have ids : ∀ id, id ∈ (building.noteEventId (eventId row)).seenEventIds →
      id ∈ (rows ++ [row]).map eventId := by
    intro id member
    rw [List.map_append, List.map_singleton, List.mem_append, List.mem_singleton]
    rcases (mem_noteEventId _ _).mp member with own | earlier
    · exact .inr own.2
    · exact .inl (built.ids id earlier)
  by_cases repeated : derivedKey row ∈ rows.map derivedKey
  · have seen : (building.noteEventId (eventId row)).Seen (derivedKey row) := by
      rw [noteEventId_seen, built.keys]
      exact repeated
    rw [takeRow_seen seen]
    constructor
    · rw [firsts_concat_of_mem repeated, ← built.unique, duplicate_uniqueEvents,
        noteEventId_uniqueEvents]
    · rw [duplicate_seenEventIds]
      exact ids
    · intro key
      simp only [duplicate_seen, noteEventId_seen, built.keys, List.map_append, List.mem_append,
        List.map_singleton, List.mem_singleton]
      constructor
      · exact .inl
      · intro either
        rcases either with earlier | own
        · exact earlier
        · rw [own]
          exact repeated
  · have unseenKey : ¬(building.noteEventId (eventId row)).Seen (derivedKey row) := by
      rw [noteEventId_seen, built.keys]
      exact repeated
    obtain ⟨unique, kept, keys⟩ := takeRow_new unseenKey
    constructor
    · rw [unique, firsts_concat_of_not_mem repeated, ← built.unique, noteEventId_uniqueEvents]
    · intro id member
      rw [kept] at member
      exact ids id member
    · intro key
      simp only [keys, noteEventId_seen, built.keys, List.map_append, List.mem_append,
        List.map_singleton, List.mem_singleton]
      exact or_comm

theorem built_of_distinct {rows : List PyDict} (distinct : (rows.map eventId).Nodup) :
    Built (rows.foldl Building.ingest .start) rows := by
  induction rows using List.reverseRecOn with
  | nil => exact .start
  | append_singleton rows row ih =>
      rw [List.map_append, List.map_singleton, List.nodup_append] at distinct
      obtain ⟨earlier, -, apart⟩ := distinct
      rw [List.foldl_append, List.foldl_cons, List.foldl_nil]
      apply (ih earlier).step
      intro repeated
      exact apart _ repeated _ (List.mem_singleton_self _) rfl

/-! ### Rows that are repeated -/

def Building.Covers (building : Building) (row : PyDict) : Prop :=
  if eventId row ≠ "" then eventId row ∈ building.seenEventIds
  else building.Seen (derivedKey row)

section Covered

variable {building : Building} {row : PyDict}

theorem ingest_covered (covered : building.Covers row) :
    building.ingest row = building.duplicate := by
  unfold Building.Covers at covered
  unfold Building.ingest
  by_cases named : eventId row ≠ ""
  · rw [if_pos named] at covered
    rw [if_pos ⟨named, covered⟩]
  · rw [if_neg named] at covered
    rw [if_neg fun seen => named seen.1]
    rw [not_not.mp named, noteEventId_empty, takeRow_seen covered]

theorem ingest_mono (building : Building) (row : PyDict) :
    (∀ id, id ∈ building.seenEventIds → id ∈ (building.ingest row).seenEventIds) ∧
      ∀ key, building.Seen key → (building.ingest row).Seen key := by
  unfold Building.ingest
  split
  · simp
  · by_cases repeated : (building.noteEventId (eventId row)).Seen (derivedKey row)
    · rw [takeRow_seen repeated]
      simp only [duplicate_seenEventIds, duplicate_seen, noteEventId_seen, mem_noteEventId]
      exact ⟨fun id seen => .inr seen, fun key seen => seen⟩
    · obtain ⟨-, ids, keys⟩ := takeRow_new repeated
      refine ⟨?_, ?_⟩
      · intro id seen
        rw [ids, mem_noteEventId]
        exact .inr seen
      · intro key seen
        rw [keys, noteEventId_seen]
        exact .inr seen

theorem covers_ingest (building : Building) (row : PyDict) : (building.ingest row).Covers row := by
  unfold Building.Covers
  by_cases seen : eventId row ≠ "" ∧ eventId row ∈ building.seenEventIds
  · rw [if_pos seen.1]
    exact (ingest_mono building row).1 (eventId row) seen.2
  · unfold Building.ingest
    rw [if_neg seen]
    by_cases repeated : (building.noteEventId (eventId row)).Seen (derivedKey row)
    · rw [takeRow_seen repeated]
      split
      · rename_i named
        rw [duplicate_seenEventIds, mem_noteEventId]
        exact .inl ⟨named, rfl⟩
      · rw [duplicate_seen]
        exact repeated
    · obtain ⟨-, ids, keys⟩ := takeRow_new repeated
      split
      · rename_i named
        rw [ids, mem_noteEventId]
        exact .inl ⟨named, rfl⟩
      · rw [keys]
        exact .inl rfl

theorem covers_foldl (covered : building.Covers row) (rows : List PyDict) :
    (rows.foldl Building.ingest building).Covers row := by
  induction rows generalizing building with
  | nil => exact covered
  | cons next rest ih =>
      rw [List.foldl_cons]
      apply ih
      obtain ⟨ids, keys⟩ := ingest_mono building next
      unfold Building.Covers at covered ⊢
      by_cases named : eventId row ≠ ""
      · rw [if_pos named] at covered ⊢
        exact ids (eventId row) covered
      · rw [if_neg named] at covered ⊢
        exact keys (derivedKey row) covered

theorem ingest_duplicate (building : Building) (row : PyDict) :
    building.duplicate.ingest row = (building.ingest row).duplicate := by
  unfold Building.ingest Building.takeRow Building.noteEventId Building.duplicate
  simp only
  split_ifs <;> rfl

theorem foldl_duplicate (building : Building) (rows : List PyDict) :
    rows.foldl Building.ingest building.duplicate =
      (rows.foldl Building.ingest building).duplicate := by
  induction rows generalizing building with
  | nil => rfl
  | cons row rest ih => rw [List.foldl_cons, List.foldl_cons, ingest_duplicate, ih]

end Covered

theorem foldl_repeated (before between after : List PyDict) (row : PyDict) :
    (before ++ row :: (between ++ row :: after)).foldl Building.ingest .start =
      ((before ++ row :: (between ++ after)).foldl Building.ingest .start).duplicate := by
  simp only [List.foldl_append, List.foldl_cons]
  rw [ingest_covered (covers_foldl (covers_ingest _ row) between), foldl_duplicate]

/-! ### What is kept -/

def linesOf (log : Option String) : List String :=
  match log with
  | none => []
  | some text => textLines text

theorem iterEvents_eq (log : Option String) : iterEvents log = (linesOf log).filterMap rowOfLine := by
  cases log <;> rfl

def Repeats (log repeated : Option String) : Prop :=
  ∃ before line between after, linesOf log = before ++ line :: (between ++ after) ∧
    linesOf repeated = before ++ line :: (between ++ line :: after)

def rebuilt (state : EventLogState) : Finset String × Finset String × List PyDict :=
  (state.seenEventIds, state.seenTradeIds, state.uniqueEvents)

def KeepsEffects (effective : String → Prop) (log : Option String) : Prop :=
  ∀ row ∈ iterEvents log, effective (eventType row) →
    row ∈ (buildStateFromEvents log).uniqueEvents

theorem rebuilt_repeated {log repeated : Option String} (repeats : Repeats log repeated) :
    rebuilt (buildStateFromEvents repeated) = rebuilt (buildStateFromEvents log) := by
  obtain ⟨before, line, between, after, lines, more⟩ := repeats
  unfold buildStateFromEvents
  rw [iterEvents_eq, iterEvents_eq, lines, more]
  simp only [List.filterMap_append, List.filterMap_cons]
  cases rowOfLine line with
  | none => rfl
  | some row =>
      simp only
      rw [foldl_repeated]
      rfl

/-- In a log whose rows have event ids of their own the rows of any types are all kept, and
repeating a line changes nothing but the count, if and only if none of these rows comes after
one with the same trade and type, or without a trade with the same type and payload. -/
theorem event_log_keeps_effects_iff {log : Option String}
    (distinct : ((iterEvents log).map eventId).Nodup) (effective : String → Prop) :
    (KeepsEffects effective log ∧ ∀ repeated, Repeats log repeated →
      rebuilt (buildStateFromEvents repeated) = rebuilt (buildStateFromEvents log)) ↔
    ∀ row ∈ iterEvents log, effective (eventType row) →
      ∃ earlier later, iterEvents log = earlier ++ row :: later ∧
        derivedKey row ∉ earlier.map derivedKey := by
  have built := built_of_distinct distinct
  have kept : ∀ row, row ∈ (buildStateFromEvents log).uniqueEvents ↔
      ∃ earlier later, iterEvents log = earlier ++ row :: later ∧
        derivedKey row ∉ earlier.map derivedKey := by
    intro row
    unfold buildStateFromEvents
    rw [built.unique]
    exact mem_firsts_iff distinct.of_map
  constructor
  · intro both row member ofType
    exact (kept row).mp (both.1 row member ofType)
  · intro fresh
    refine ⟨?_, fun repeated => rebuilt_repeated⟩
    intro row member ofType
    exact (kept row).mpr (fresh row member ofType)

/-! ### Two partial fills of one trade -/

def eventRow (ts type id : String) (payload : PyDict) : PyDict :=
  [("event_id", .str id), ("payload", .dict (("event_id", .str id) :: payload)), ("ts", .str ts),
    ("type", .str type)]

/-- `json.dumps(event, ensure_ascii=True, sort_keys=True)`. -/
def eventText (row : PyDict) : String :=
  jsonDumps eventLayout (.dict row)

theorem rowOfLine_eventText {row : PyDict} (formed : wellFormed (.dict row) = true)
    (ordered : inOrder (.dict row) = true) : rowOfLine (eventText row) = some row := by
  have sorted := sortKeys_inOrder (.dict row) ordered
  have loaded := jsonLoads_jsonDumps eventLayout formed
  rw [sorted] at loaded
  obtain ⟨stripped, written⟩ := strip_write_dict eventLayout row
  unfold eventText
  unfold jsonDumps at loaded ⊢
  rw [sorted] at loaded ⊢
  unfold rowOfLine
  simp only [stripped, if_neg written, loaded]

theorem unbroken_eventText (row : PyDict) : Unbroken (eventText row).toList := by
  unfold eventText jsonDumps
  exact unbroken_write rfl _

theorem iterEvents_written {rows : List PyDict}
    (formed : ∀ row ∈ rows, wellFormed (.dict row) = true ∧ inOrder (.dict row) = true) :
    iterEvents (some (joinRows (rows.map eventText))) = rows := by
  have unbroken : ∀ line ∈ rows.map eventText, Unbroken line.toList := by
    intro line member
    obtain ⟨row, -, same⟩ := List.mem_map.mp member
    rw [← same]
    exact unbroken_eventText row
  rw [iterEvents_eq, linesOf, textLines_joinRows unbroken, List.filterMap_map]
  have read : rows.filterMap (rowOfLine ∘ eventText) = rows.filterMap some := by
    apply List.filterMap_congr
    intro row member
    obtain ⟨ofRow, ordered⟩ := formed row member
    rw [Function.comp_apply, rowOfLine_eventText ofRow ordered]
  rw [read, List.filterMap_some]

def partialFill (id fillId : String) (qty : ℚ) : PyDict :=
  eventRow "2024-01-01T09:15:00+00:00" "fill" id
    [("fill_id", .str fillId), ("price", .float (.finite 100)), ("qty", .float (.finite qty)),
      ("trade_id", .str "T-1")]

def twoFills : Option String :=
  some (joinRows ([partialFill "e-1" "fill-1" 25, partialFill "e-2" "fill-2" 50].map eventText))

theorem iterEvents_twoFills :
    iterEvents twoFills = [partialFill "e-1" "fill-1" 25, partialFill "e-2" "fill-2" 50] := by
  apply iterEvents_written
  intro row member
  revert row
  decide +kernel

theorem second_fill_dropped :
    ((iterEvents twoFills).map eventId).Nodup ∧
      ¬KeepsEffects (fun type => type = "fill") twoFills := by
  rw [KeepsEffects, buildStateFromEvents, iterEvents_twoFills]
  refine ⟨by decide +kernel, ?_⟩
  intro keeps
  have kept := keeps (partialFill "e-2" "fill-2" 50) (by simp) (by decide +kernel)
  have alone : ([partialFill "e-1" "fill-1" 25, partialFill "e-2" "fill-2" 50].foldl
      Building.ingest .start).uniqueEvents.map eventId = ["e-1"] := by
    decide +kernel
  have named : eventId (partialFill "e-2" "fill-2" 50) ∈ _ := List.mem_map_of_mem kept
  rw [alone] at named
  revert named
  decide +kernel

def fillAndOrder : Option String :=
  some (joinRows ([partialFill "e-1" "fill-1" 25,
    eventRow "2024-01-01T09:15:00+00:00" "order_open" "e-2" [("trade_id", .str "T-1")]].map
      eventText))

theorem iterEvents_fillAndOrder :
    iterEvents fillAndOrder = [partialFill "e-1" "fill-1" 25,
      eventRow "2024-01-01T09:15:00+00:00" "order_open" "e-2" [("trade_id", .str "T-1")]] := by
  apply iterEvents_written
  intro row member
  revert row
  decide +kernel

theorem event_log_keeps_effects_apart :
    KeepsEffects (fun _type => True) fillAndOrder := by
  have distinct : ((iterEvents fillAndOrder).map eventId).Nodup := by
    rw [iterEvents_fillAndOrder]
    decide +kernel
  refine ((event_log_keeps_effects_iff distinct fun _type => True).mpr ?_).1
  rw [iterEvents_fillAndOrder]
  intro row member _
  rcases List.mem_cons.mp member with first | member
  · rw [first]
    exact ⟨[], _, rfl, List.not_mem_nil⟩
  · rw [List.mem_singleton.mp member]
    refine ⟨[partialFill "e-1" "fill-1" 25], [], rfl, ?_⟩
    decide +kernel

end Algotradify.Core.EventLog
