/-
Execution fill events: the event of a fill, and the append to the file of its day, which
reads the file, writes a temporary one and replaces the file by it.

The parsed timestamp, the configured values and the name of the temporary file are
parameters. Creating directories, resolving their base and the day of a timestamp are left
out: the file is that of one day.

The reading of execution fill events: the rows of the day files are normalised, sorted by
the text of their timestamps, and cut to the last ones.

Events that were emitted one after the other are all read back. They come in the order of
their times exactly where no second holds a whole time beside one with a fraction.
-/

import Algotradify.Json.Lines
import Algotradify.Py.Convert
import Algotradify.Py.UtcTime
import Algotradify.Transition.Run

namespace Algotradify.Core.FillEvents

open Py Json Transition

/-! ### Fields -/

/-- `_safe_float`. -/
def safeFloat (value : PyValue) (default : Option PyFloat) : Option PyFloat :=
  if value.isNone then default
  else
    match toFloat value with
    | .ok number => if number = .nan then default else some number
    | .error _ => default

/-- `_norm_text`. -/
def normText (value : PyValue) : String :=
  strip (printValue (value.or (.str "")))

def textOrNone (value : PyValue) : PyValue :=
  if normText value = "" then .none else .str (normText value)

def firstText (values : List PyValue) (default : String) : String :=
  ((values.map normText).find? fun text => text != "").getD default

structure FillConfig where
  runId : PyValue
  execRunId : PyValue
  deskId : PyValue
  executionMode : PyValue

/-- The arguments of `emit_execution_fill_event`. -/
structure Fill where
  orderId : PyValue
  symbol : PyValue
  side : PyValue
  qty : PyValue
  price : PyValue
  /-- The parsed timestamp in UTC, as a text. -/
  tsUtc : String
  runId : PyValue := .none
  deskId : PyValue := .none
  mode : PyValue := .none
  tradeId : PyValue := .none
  brokerOrderId : PyValue := .none

def fillEvent (config : FillConfig) (fill : Fill) : PyDict :=
  [("event_type", .str "EXECUTION_FILL"),
    ("order_id", .str (normText fill.orderId)),
    ("broker_order_id", textOrNone fill.brokerOrderId),
    ("trade_id", textOrNone fill.tradeId),
    ("symbol", .str (upper (normText fill.symbol))),
    ("side", .str (upper (normText fill.side))),
    ("qty", ofOptionFloat (safeFloat fill.qty (some (.finite 0)))),
    ("price", ofOptionFloat (safeFloat fill.price (some (.finite 0)))),
    ("ts_utc", .str fill.tsUtc),
    ("run_id", .str (firstText [fill.runId, config.runId, config.execRunId] "UNKNOWN_RUN")),
    ("desk_id", .str (firstText [fill.deskId, config.deskId] "DEFAULT")),
    ("mode", .str (upper (firstText [fill.mode, config.executionMode] "PAPER")))]

/-- `json.dumps(payload, ensure_ascii=True, sort_keys=True)`. -/
def spaced : Layout :=
  { afterComma := 1, afterColon := 1, indent := none, ensureAscii := true }

def fillRow (config : FillConfig) (fill : Fill) : Except PyError String :=
  if normText fill.orderId = "" then .error (.valueError "missing_order_id")
  else if normText fill.symbol = "" then .error (.valueError "missing_symbol")
  else if upper (normText fill.side) ∉ ["BUY", "SELL"] then
    .error (.valueError ("invalid_side:" ++ upper (normText fill.side)))
  else .ok (jsonDumps spaced (.dict (fillEvent config fill)))

theorem unbroken_fillRow {config : FillConfig} {fill : Fill} {row : String}
    (accepted : fillRow config fill = .ok row) : Unbroken row.toList := by
  unfold fillRow at accepted
  split at accepted
  · cases accepted
  split at accepted
  · cases accepted
  split at accepted
  · cases accepted
  rw [← Except.ok.inj accepted]
  unfold jsonDumps
  exact unbroken_write rfl _

/-! ### The steps of an append -/

structure Disk where
  file : Option String
  temporary : String → Option String

inductive Phase where
  | started
  | loaded (existing : String)
  | written
  | returned
  | failed
deriving DecidableEq

structure Emitter where
  row : String
  temporary : String

/-- The next step of `_atomic_append_jsonl`, in the phase it has reached. -/
def appendStep (emitter : Emitter) (disk : Disk) : Phase → Option (Disk × Phase)
  | .started => some (disk, .loaded (universalNewlines (disk.file.getD "")))
  | .loaded existing =>
      let text := existing ++ (emitter.row ++ "\n")
      some ({ disk with
        temporary := Function.update disk.temporary emitter.temporary (some text) }, .written)
  | .written =>
      -- `os.replace` raises when the temporary file is gone
      match disk.temporary emitter.temporary with
      | some text =>
          some (
            { file := some text
              temporary := Function.update disk.temporary emitter.temporary none }, .returned)
      | none => some (disk, .failed)
  | .returned => none
  | .failed => none

inductive Who where
  | first
  | second
deriving DecidableEq

def Who.other : Who → Who
  | .first => .second
  | .second => .first

structure System where
  disk : Disk
  phase : Who → Phase

def System.start (disk : Disk) : System :=
  { disk := disk, phase := fun _ => .started }

def EmitStep (emitters : Who → Emitter) (before : System) (who : Who) (after : System) : Prop :=
  ∃ disk phase, appendStep (emitters who) before.disk (before.phase who) = some (disk, phase) ∧
    after = { disk := disk, phase := Function.update before.phase who phase }

open UtcTime

/-! ### Reading -/

section Reading

-- what texts that are not in the written form stand for: other zones, numbers, the time now
variable (otherwise : String → UtcTime)
-- the exchange day of a time, which names the directory of its file
variable (dayKey : UtcTime → String)

/-- `_parse_ts_utc`. -/
def parseTsUtc (value : PyValue) : UtcTime :=
  let text := normText value
  let iso :=
    if text.toList.getLast? = some 'Z' then text.toList.dropLast ++ zone else text.toList
  (fromIsoformat iso).getD (otherwise text)

/-- `_normalize_execution_event`. -/
def normalizeExecutionEvent (payload : PyDict) : Option PyDict :=
  if upper (normText (payload.get "event_type")) ≠ "EXECUTION_FILL" then none
  else do
    let qty ← safeFloat (payload.get "qty") none
    let price ← safeFloat (payload.get "price") none
    some
      [("event_type", .str "EXECUTION_FILL"),
        ("order_id", .str (normText (payload.get "order_id"))),
        ("broker_order_id", textOrNone (payload.get "broker_order_id")),
        ("trade_id", textOrNone (payload.get "trade_id")),
        ("symbol", .str (upper (normText (payload.get "symbol")))),
        ("side", .str (upper (normText (payload.get "side")))),
        ("qty", .float qty),
        ("price", .float price),
        ("ts_utc", .str (parseTsUtc otherwise (payload.get "ts_utc")).text),
        ("run_id", .str (firstText [payload.get "run_id"] "UNKNOWN_RUN")),
        ("desk_id", .str (firstText [payload.get "desk_id"] "DEFAULT")),
        ("mode", .str (upper (firstText [payload.get "mode"] "PAPER")))]

def readRow (line : String) : Option PyDict :=
  if strip line = "" then none
  else
    match jsonLoads (strip line) with
    | some (.dict payload) => normalizeExecutionEvent otherwise payload
    | _ => none

abbrev EventFiles := List (String × String)

def iterEventFiles (files : EventFiles) : List String :=
  (files.insertionSort fun first second => first.1 ≤ second.1).map Prod.snd

def eventTime (event : PyDict) : UtcTime :=
  parseTsUtc otherwise (event.get "ts_utc")

def eventText (event : PyDict) : String :=
  match event.get "ts_utc" with
  | .str text => text
  | _ => ""

def onDay (tradeDate : Option String) (time : UtcTime) : Bool :=
  match tradeDate with
  | none => true
  | some day => dayKey time = day

/-- `out[-limit:]`, for a limit that is positive. -/
def cutToLimit (limit : Option ℤ) (events : List PyDict) : List PyDict :=
  match limit with
  | some count => if 0 < count then events.drop (events.length - count.toNat) else events
  | none => events

def readExecutionFillEvents (files : EventFiles) (tradeDate : Option String)
    (limit : Option ℤ) : List PyDict :=
  let read := (iterEventFiles files).flatMap fun text =>
    (textLines text).filterMap (readRow otherwise)
  let out := read.filter fun event => onDay dayKey tradeDate (eventTime otherwise event)
  cutToLimit limit (out.insertionSort fun first second => eventText first ≤ eventText second)

end Reading

/-! ### Emitted events -/

/-- An accepted fill with its time. The floats of the event are decimals, as all are. -/
structure Emission where
  config : FillConfig
  fill : Fill
  time : UtcTime
  stamped : fill.tsUtc = time.text
  accepted : fillRow config fill = .ok (jsonDumps spaced (.dict (fillEvent config fill)))
  formed : wellFormed (.dict (fillEvent config fill)) = true

def Emission.row (emission : Emission) : String :=
  jsonDumps spaced (.dict (fillEvent emission.config emission.fill))

def emitted (dayKey : UtcTime → String) (files : EventFiles) (emission : Emission) : EventFiles :=
  Assoc.set files (dayKey emission.time)
    (appendRow (universalNewlines ((files.lookup (dayKey emission.time)).getD "")) emission.row)

def eventFiles (dayKey : UtcTime → String) (emissions : List Emission) : EventFiles :=
  emissions.foldl (emitted dayKey) []

/-! ### One row -/

section Rows

variable (otherwise : String → UtcTime)

theorem text_solid (time : UtcTime) : ∀ char ∈ time.text.toList, isSpace char = false := by
  have digits {width number : ℕ} {char : Char} (member : char ∈ Sorting.fixedWidth width number) :
      isSpace char = false :=
    isSpace_of_isNumeralChar (numeral_of_isDigit (Sorting.fixedWidth_isDigit member))
  have fractions : ∀ char ∈ fraction time.fields, isSpace char = false := by
    unfold fraction
    by_cases whole : time.fields.microsecond = 0
    · simp [whole]
    · rw [if_neg whole]
      intro char member
      rcases List.mem_cons.mp member with rfl | digit
      · decide
      · exact digits digit
  unfold text stamp
  rw [String.toList_ofList]
  simp only [List.forall_mem_append, List.forall_mem_cons]
  exact ⟨fun _ => digits, by decide, fun _ => digits, by decide, fun _ => digits, by decide,
    fun _ => digits, by decide, fun _ => digits, by decide, fun _ => digits, fractions, by decide,
    fun _ impossible => absurd impossible List.not_mem_nil⟩

theorem stamp_append (time : DateTime) (rest last : List Char) :
    stamp time (rest ++ last) = stamp time rest ++ last := by
  simp [stamp]

theorem text_toList (time : UtcTime) :
    time.text.toList = stamp time.fields (fraction time.fields) ++ ['Z'] := by
  rw [← stamp_append]
  exact String.toList_ofList

theorem normText_text (time : UtcTime) : normText (.str time.text) = time.text := by
  have filled : time.text ≠ "" := by
    intro empty
    have lists := congrArg String.toList empty
    rw [text_toList] at lists
    exact absurd lists (List.append_ne_nil_of_right_ne_nil _ (List.cons_ne_nil _ _))
  have chosen : (PyValue.str time.text).or (.str "") = .str time.text := by
    unfold PyValue.or
    exact if_pos (by simpa [PyValue.truthy] using filled)
  unfold normText
  rw [chosen]
  exact strip_eq_self (text_solid time)

theorem parseTsUtc_text (time : UtcTime) : parseTsUtc otherwise (.str time.text) = time := by
  have iso : stamp time.fields (fraction time.fields) ++ zone = time.isoformat :=
    (stamp_append _ _ _).symm
  unfold parseTsUtc
  simp only [normText_text, text_toList, List.getLast?_concat, if_true, List.dropLast_concat, iso,
    fromIsoformat_isoformat, Option.getD_some]

theorem safeFloat_float {number : PyFloat} (proper : number ≠ .nan) :
    safeFloat (.float number) none = some number := by
  unfold safeFloat
  exact if_neg proper

theorem safeFloat_ofOptionFloat (value : PyValue) : ∃ number,
    safeFloat (ofOptionFloat (safeFloat value (some (.finite 0)))) none = some number := by
  have proper : ∃ number, safeFloat value (some (.finite 0)) = some number ∧ number ≠ .nan := by
    unfold safeFloat
    by_cases missing : value.isNone = true
    · rw [if_pos missing]
      exact ⟨.finite 0, rfl, by simp⟩
    · rw [if_neg missing]
      cases toFloat value with
      | error raised => exact ⟨.finite 0, rfl, by simp⟩
      | ok number =>
          by_cases bad : number = .nan
          · exact ⟨.finite 0, if_pos bad, by simp⟩
          · exact ⟨number, if_neg bad, bad⟩
  obtain ⟨number, found, notNan⟩ := proper
  rw [found]
  exact ⟨number, safeFloat_float notNan⟩

theorem readRow_row (emission : Emission) : ∃ event,
    readRow otherwise emission.row = some event ∧ eventText event = emission.time.text ∧
      eventTime otherwise event = emission.time := by
  obtain ⟨distinct, _⟩ := wellFormed_dict.mp emission.formed
  obtain ⟨stripped, filled⟩ := strip_write_dict spaced
    (sortEntries (fillEvent emission.config emission.fill))
  have loaded : jsonLoads emission.row =
      some (.dict (sortEntries (fillEvent emission.config emission.fill))) :=
    jsonLoads_jsonDumps spaced emission.formed
  have field (key : String) : PyDict.get (sortEntries (fillEvent emission.config emission.fill))
      key = sortKeys ((fillEvent emission.config emission.fill).get key) :=
    get_sortEntries distinct key
  obtain ⟨qty, ofQty⟩ := safeFloat_ofOptionFloat emission.fill.qty
  obtain ⟨price, ofPrice⟩ := safeFloat_ofOptionFloat emission.fill.price
  have plain (number : Option PyFloat) : sortKeys (ofOptionFloat number) = ofOptionFloat number := by
    cases number <;> rfl
  have eventType : PyDict.get (sortEntries (fillEvent emission.config emission.fill))
      "event_type" = .str "EXECUTION_FILL" := field "event_type"
  have qtyField : PyDict.get (sortEntries (fillEvent emission.config emission.fill)) "qty" =
      ofOptionFloat (safeFloat emission.fill.qty (some (.finite 0))) :=
    (field "qty").trans (plain _)
  have priceField : PyDict.get (sortEntries (fillEvent emission.config emission.fill)) "price" =
      ofOptionFloat (safeFloat emission.fill.price (some (.finite 0))) :=
    (field "price").trans (plain _)
  have stamp : PyDict.get (sortEntries (fillEvent emission.config emission.fill)) "ts_utc" =
      .str emission.time.text := by
    rw [field "ts_utc", ← emission.stamped]
    rfl
  have isFill : upper (normText (.str "EXECUTION_FILL")) = "EXECUTION_FILL" := by decide
  have same : strip emission.row = emission.row := stripped
  have solid : emission.row ≠ "" := filled
  have parsed := parseTsUtc_text otherwise emission.time
  unfold readRow
  rw [same, if_neg solid, loaded]
  dsimp only
  unfold normalizeExecutionEvent
  rw [eventType, isFill, if_neg (not_not_intro rfl), qtyField, ofQty, priceField, ofPrice, stamp,
    parsed]
  exact ⟨_, rfl, rfl, parsed⟩

end Rows

/-! ### The files -/

section Files

variable {dayKey : UtcTime → String}

def fileText (emissions : List Emission) : String :=
  joinRows (emissions.map Emission.row)

theorem unbroken_rows (emissions : List Emission) :
    ∀ row ∈ emissions.map Emission.row, Unbroken row.toList := by
  intro row member
  obtain ⟨emission, _, rfl⟩ := List.mem_map.mp member
  exact unbroken_fillRow emission.accepted

theorem append_fileText (earlier : List Emission) (emission : Emission) :
    appendRow (universalNewlines (fileText earlier)) emission.row =
      fileText (earlier ++ [emission]) := by
  have plain : '\r' ∉ (fileText earlier).toList := by
    unfold fileText joinRows
    rw [String.toList_ofList]
    intro member
    obtain ⟨row, listed, inside⟩ := List.mem_flatMap.mp member
    rcases List.mem_append.mp inside with written | ended
    · exact (unbroken_rows earlier row listed _ written).2 rfl
    · exact absurd (List.mem_singleton.mp ended) (by decide)
  rw [universalNewlines_eq_self plain]
  unfold fileText appendRow
  rw [List.map_append, List.map_singleton, joinRows_snoc]

theorem perm_set (contents : List (String × List Emission)) (day : String) (emission : Emission) :
    ((Assoc.set contents day ((contents.lookup day).getD [] ++ [emission])).flatMap
        Prod.snd).Perm (contents.flatMap Prod.snd ++ [emission]) := by
  induction contents with
  | nil => simp [Assoc.set]
  | cons entry rest ih =>
      obtain ⟨name, stored⟩ := entry
      by_cases here : day = name
      · subst here
        rw [Assoc.lookup_cons_self, Assoc.set, if_pos rfl, List.flatMap_cons, List.flatMap_cons,
          Option.getD_some, List.append_assoc, List.append_assoc]
        exact (List.perm_append_comm).append_left stored
      · rw [Assoc.lookup_cons_of_ne here, Assoc.set, if_neg here, List.flatMap_cons,
          List.flatMap_cons, List.append_assoc]
        exact ih.append_left stored

theorem eventFiles_contents (emissions : List Emission) : ∃ contents : List (String × List Emission),
    eventFiles dayKey emissions = Assoc.mapValues fileText contents ∧
      (contents.flatMap Prod.snd).Perm emissions := by
  induction emissions using List.reverseRecOn with
  | nil => exact ⟨[], rfl, List.Perm.refl _⟩
  | append_singleton earlier emission ih =>
      obtain ⟨contents, files, kept⟩ := ih
      have existing : (((Assoc.mapValues fileText contents).lookup
          (dayKey emission.time)).getD "") =
            fileText ((contents.lookup (dayKey emission.time)).getD []) := by
        rw [Assoc.lookup_mapValues]
        cases contents.lookup (dayKey emission.time) <;> rfl
      refine ⟨Assoc.set contents (dayKey emission.time)
        ((contents.lookup (dayKey emission.time)).getD [] ++ [emission]), ?_, ?_⟩
      · unfold eventFiles at files ⊢
        rw [List.foldl_append, List.foldl_cons, List.foldl_nil, files]
        unfold emitted
        rw [existing, append_fileText, Assoc.mapValues_set]
      · exact (perm_set contents _ emission).trans (kept.append_right [emission])

end Files

/-! ### What is read -/

section Read

variable (otherwise : String → UtcTime) (dayKey : UtcTime → String)

def readEvents (files : EventFiles) : List PyDict :=
  (iterEventFiles files).flatMap fun text => (textLines text).filterMap (readRow otherwise)

def IsEvent (emission : Emission) (event : PyDict) : Prop :=
  eventText event = emission.time.text ∧ eventTime otherwise event = emission.time

theorem readRow_rows (emissions : List Emission) :
    List.Forall₂ (IsEvent otherwise) emissions
      ((emissions.map Emission.row).filterMap (readRow otherwise)) := by
  induction emissions with
  | nil => exact .nil
  | cons emission rest ih =>
      obtain ⟨event, found, isEvent⟩ := readRow_row otherwise emission
      rw [List.map_cons, List.filterMap_cons_some found]
      exact .cons isEvent ih

theorem readEvents_times (emissions : List Emission) :
    ∃ read : List Emission, read.Perm emissions ∧
      List.Forall₂ (IsEvent otherwise) read
        (readEvents otherwise (eventFiles dayKey emissions)) := by
  obtain ⟨contents, files, kept⟩ := @eventFiles_contents dayKey emissions
  rw [files]
  have sameFiles : (Assoc.mapValues fileText contents).insertionSort
        (fun first second => first.1 ≤ second.1) =
      Assoc.mapValues fileText (contents.insertionSort fun first second => first.1 ≤ second.1) := by
    unfold Assoc.mapValues
    symm
    apply List.map_insertionSort
    intro first _ second _
    exact Iff.rfl
  have sameContents : (contents.insertionSort fun first second => first.1 ≤ second.1).Perm
      contents := List.perm_insertionSort _ _
  generalize contents.insertionSort (fun first second => first.1 ≤ second.1) = ordered
    at sameFiles sameContents
  refine ⟨ordered.flatMap Prod.snd, (sameContents.flatMap_right Prod.snd).trans kept, ?_⟩
  unfold readEvents iterEventFiles
  rw [sameFiles]
  clear sameFiles sameContents files kept
  induction ordered with
  | nil => exact .nil
  | cons entry rest ih =>
      change List.Forall₂ _ (entry.2 ++ rest.flatMap Prod.snd)
        ((textLines (fileText entry.2)).filterMap (readRow otherwise) ++ _)
      unfold fileText
      rw [textLines_joinRows (unbroken_rows entry.2)]
      exact List.rel_append (readRow_rows otherwise entry.2) ih

end Read

/-! ### In the order of time -/

structure Latest (count : ℕ) (all chosen : List UtcTime) : Prop where
  length : chosen.length = min count all.length
  ordered : chosen.Pairwise AtMost
  later : ∃ rest, (rest ++ chosen).Perm all ∧
    ∀ first ∈ rest, ∀ second ∈ chosen, first.AtMost second

section Order

variable (otherwise : String → UtcTime) (dayKey : UtcTime → String)

def readTimes (emissions : List Emission) (tradeDate : Option String) (limit : Option ℤ) :
    List UtcTime :=
  (readExecutionFillEvents otherwise dayKey (eventFiles dayKey emissions) tradeDate limit).map
    (eventTime otherwise)

def emittedTimes (emissions : List Emission) (tradeDate : Option String) : List UtcTime :=
  (emissions.map Emission.time).filter (onDay dayKey tradeDate)

structure ReadsInOrder (emissions : List Emission) : Prop where
  all : ∀ tradeDate, (readTimes otherwise dayKey emissions tradeDate none).Perm
    (emittedTimes dayKey emissions tradeDate)
  ordered : ∀ tradeDate,
    (readTimes otherwise dayKey emissions tradeDate none).Pairwise AtMost
  limited : ∀ tradeDate (limit : ℤ), 0 < limit →
    Latest limit.toNat (emittedTimes dayKey emissions tradeDate)
      (readTimes otherwise dayKey emissions tradeDate (some limit))

/-- No two events are in one second, the one at its start and the other within. -/
def Unsplit (emissions : List Emission) : Prop :=
  ∀ first ∈ emissions, ∀ second ∈ emissions, ¬SplitsSecond first.time second.time

theorem isEvent_times {emissions : List Emission} {events : List PyDict}
    (read : List.Forall₂ (IsEvent otherwise) emissions events) :
    events.map (eventTime otherwise) = emissions.map Emission.time := by
  induction read with
  | nil => rfl
  | cons isEvent _ ih => rw [List.map_cons, List.map_cons, ih, isEvent.2]

theorem isEvent_text {emissions : List Emission} {events : List PyDict}
    (read : List.Forall₂ (IsEvent otherwise) emissions events) :
    ∀ event ∈ events, eventText event = (eventTime otherwise event).text := by
  induction read with
  | nil =>
      intro event member
      cases member
  | cons isEvent _ ih =>
      intro event member
      rcases List.mem_cons.mp member with rfl | later
      · rw [isEvent.1, isEvent.2]
      · exact ih event later

theorem readTimes_sorted (emissions : List Emission) (tradeDate : Option String) :
    (readTimes otherwise dayKey emissions tradeDate none).Perm
        (emittedTimes dayKey emissions tradeDate) ∧
      (readTimes otherwise dayKey emissions tradeDate none).Pairwise
        fun first second => first.text ≤ second.text := by
  obtain ⟨read, kept, events⟩ := readEvents_times otherwise dayKey emissions
  generalize found : readEvents otherwise (eventFiles dayKey emissions) = listed at events
  have sorted : readTimes otherwise dayKey emissions tradeDate none =
      ((listed.filter fun event => onDay dayKey tradeDate (eventTime otherwise event)).insertionSort
        fun first second => eventText first ≤ eventText second).map (eventTime otherwise) := by
    rw [← found]
    rfl
  have same := List.perm_insertionSort (fun first second => eventText first ≤ eventText second)
    (listed.filter fun event => onDay dayKey tradeDate (eventTime otherwise event))
  rw [sorted]
  constructor
  · refine (same.map (eventTime otherwise)).trans ?_
    have times := isEvent_times otherwise events
    have filtered : (listed.filter fun event => onDay dayKey tradeDate
        (eventTime otherwise event)).map (eventTime otherwise) =
        (listed.map (eventTime otherwise)).filter (onDay dayKey tradeDate) := by
      rw [List.filter_map]
      rfl
    rw [filtered, times]
    exact (kept.map Emission.time).filter _
  · rw [List.pairwise_map]
    have ordered := @List.pairwise_insertionSort _
      (fun first second => eventText first ≤ eventText second) _
      ⟨fun first second => le_total _ _⟩ ⟨fun _ _ _ => le_trans⟩
      (listed.filter fun event => onDay dayKey tradeDate (eventTime otherwise event))
    refine ordered.imp_of_mem ?_
    intro first second here there before
    have texts := isEvent_text otherwise events
    rw [← texts first (List.mem_of_mem_filter (same.subset here)),
      ← texts second (List.mem_of_mem_filter (same.subset there))]
    exact before

theorem readTimes_limit (emissions : List Emission) (tradeDate : Option String) {limit : ℤ}
    (positive : 0 < limit) :
    readTimes otherwise dayKey emissions tradeDate (some limit) =
      (readTimes otherwise dayKey emissions tradeDate none).drop
        ((readTimes otherwise dayKey emissions tradeDate none).length - limit.toNat) := by
  unfold readTimes readExecutionFillEvents cutToLimit
  dsimp only
  rw [if_pos positive, List.map_drop, List.length_map]

theorem latest_drop {times all : List UtcTime} (count : ℕ) (ordered : times.Pairwise AtMost)
    (kept : times.Perm all) : Latest count all (times.drop (times.length - count)) := by
  have cut := List.take_append_drop (times.length - count) times
  have both := ordered
  rw [← cut] at both
  obtain ⟨_, last, apart⟩ := List.pairwise_append.mp both
  refine ⟨?_, last, times.take (times.length - count), ?_, apart⟩
  · rw [List.length_drop, ← kept.length_eq]
    omega
  · rw [cut]
    exact kept

theorem unsplit_of_readsInOrder {emissions : List Emission}
    (inOrder : ReadsInOrder otherwise dayKey emissions) : Unsplit emissions := by
  intro first among second amongToo splits
  obtain ⟨later, textLater⟩ := splits.reversed
  obtain ⟨kept, texts⟩ := readTimes_sorted otherwise dayKey emissions none
  have both := (inOrder.ordered none).and texts
  have inTimes (emission : Emission) (member : emission ∈ emissions) :
      emission.time ∈ readTimes otherwise dayKey emissions none none := by
    apply kept.symm.subset
    apply List.mem_filter.mpr
    exact ⟨List.mem_map_of_mem member, rfl⟩
  have different : first.time ≠ second.time := by
    intro same
    apply splits.isWithin
    rw [← same]
    exact splits.isWhole
  have either : (readTimes otherwise dayKey emissions none none).Pairwise fun early late =>
      (early.AtMost late ∧ early.text ≤ late.text) ∨
        (late.AtMost early ∧ late.text ≤ early.text) :=
    both.imp Or.inl
  have symmetric : Std.Symm fun early late : UtcTime =>
      (early.AtMost late ∧ early.text ≤ late.text) ∨
        (late.AtMost early ∧ late.text ≤ early.text) :=
    ⟨fun early late placed => placed.symm⟩
  rcases either.forall (inTimes first among) (inTimes second amongToo) different with
    ⟨_, before⟩ | ⟨before, _⟩
  · exact absurd before (not_le.mpr textLater)
  · exact later before

/-- The events are read in the order of their times exactly where no second holds an event
at its start and another within. -/
theorem reads_inOrder_iff (emissions : List Emission) :
    ReadsInOrder otherwise dayKey emissions ↔ Unsplit emissions := by
  constructor
  · exact unsplit_of_readsInOrder otherwise dayKey
  · intro unsplit
    have ordered (tradeDate : Option String) :
        (readTimes otherwise dayKey emissions tradeDate none).Pairwise AtMost := by
      obtain ⟨kept, texts⟩ := readTimes_sorted otherwise dayKey emissions tradeDate
      have among (time : UtcTime)
          (member : time ∈ readTimes otherwise dayKey emissions tradeDate none) :
          ∃ emission ∈ emissions, emission.time = time :=
        List.mem_map.mp (List.mem_of_mem_filter (kept.subset member))
      refine texts.imp_of_mem ?_
      intro first second here there before
      obtain ⟨own, ownAmong, rfl⟩ := among first here
      obtain ⟨other, otherAmong, rfl⟩ := among second there
      exact atMost_of_text_le before (unsplit other otherAmong own ownAmong)
    refine ⟨fun tradeDate => (readTimes_sorted otherwise dayKey emissions tradeDate).1, ordered, ?_⟩
    intro tradeDate limit positive
    rw [readTimes_limit otherwise dayKey emissions tradeDate positive]
    exact latest_drop _ (ordered tradeDate)
      (readTimes_sorted otherwise dayKey emissions tradeDate).1

end Order

/-! ### A second that is split -/

def nineFifteen (microsecond : ℕ) : DateTime :=
  { year := 2024, month := 1, day := 2, hour := 9, minute := 15, second := 5
    microsecond := microsecond }

def wholeSecond : UtcTime :=
  { fields := nineFifteen 0, valid := by decide }

def halfSecond : UtcTime :=
  { fields := nineFifteen 500000, valid := by decide }

def bareConfig : FillConfig :=
  { runId := .none, execRunId := .none, deskId := .none, executionMode := .none }

def fillAt (time : UtcTime) : Fill :=
  { orderId := .str "O1"
    symbol := .str "RELIANCE"
    side := .str "BUY"
    qty := .int 10
    price := .int 100
    tsUtc := time.text }

theorem fillAt_accepted (time : UtcTime) : fillRow bareConfig (fillAt time) =
    .ok (jsonDumps spaced (.dict (fillEvent bareConfig (fillAt time)))) := by
  have orderId : ¬normText (.str "O1") = "" := by decide
  have symbol : ¬normText (.str "RELIANCE") = "" := by decide
  have side : ¬upper (normText (.str "BUY")) ∉ ["BUY", "SELL"] := by decide
  unfold fillRow fillAt
  rw [if_neg orderId, if_neg symbol, if_neg side]

theorem fillAt_formed (time : UtcTime) :
    wellFormed (.dict (fillEvent bareConfig (fillAt time))) = true := by
  rw [wellFormed_dict]
  constructor
  · change ["event_type", "order_id", "broker_order_id", "trade_id", "symbol", "side", "qty",
      "price", "ts_utc", "run_id", "desk_id", "mode"].Nodup
    decide
  · rfl

def emissionAt (time : UtcTime) : Emission :=
  { config := bareConfig
    fill := fillAt time
    time := time
    stamped := rfl
    accepted := fillAt_accepted time
    formed := fillAt_formed time }

/-- A fill at the start of a second is read after one half a second later. -/
theorem split_second_reversed :
    ¬∀ otherwise dayKey emissions, ReadsInOrder otherwise dayKey emissions := by
  intro always
  have inOrder := always (fun _ => wholeSecond) (fun _ => "2024-01-02")
    [emissionAt wholeSecond, emissionAt halfSecond]
  refine unsplit_of_readsInOrder _ _ inOrder (emissionAt wholeSecond) List.mem_cons_self
    (emissionAt halfSecond) (List.mem_cons_of_mem _ List.mem_cons_self) ?_
  exact ⟨rfl, rfl, by decide⟩

end Algotradify.Core.FillEvents
