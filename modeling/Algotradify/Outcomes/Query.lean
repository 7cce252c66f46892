/-
Outcome replay: the events of recorded outcomes, and the queries that select records.

Both sides carry a copy of the table of status names and of the reading of a record. The copies
agree. A query passes over a filter that it takes for absent: a status text that names nothing
known, a blank strategy, and a bound or a time that is not a number.
-/

import Mathlib.Data.List.Dedup
import Algotradify.Agents.WorkContract
import Algotradify.Candidates.Pipeline
import Algotradify.Py.KeyParts
import Algotradify.Sorting.Stable

namespace Algotradify.Outcomes

open Py Execution

inductive OutcomeStatus where
  | selected
  | blocked
  | submitted
  | accepted
  | rejected
  | partiallyFilled
  | filled
  | exited
  | closed
  | unknown
deriving DecidableEq, Repr

/-- The key of a status name or of a strategy: upper case, with underscores. -/
def norm (value : PyValue) : String :=
  Agents.replaceChar
    (Agents.replaceChar (strip (upper (printValue (value.or (.str ""))))) ' ' '_') '-' '_'

/-! ### Replay -/

namespace Replay

def statusAliases : List (String × OutcomeStatus) :=
  [("SELECTED", .selected), ("TOP_EXECUTABLE_SELECTED", .selected), ("BLOCKED", .blocked),
    ("NO_ELIGIBLE_CANDIDATES", .blocked), ("ORDER_SUBMITTED", .submitted),
    ("SUBMITTED", .submitted), ("ORDER_ACCEPTED", .accepted), ("ACCEPTED", .accepted),
    ("OPEN", .accepted), ("ORDER_REJECTED", .rejected), ("REJECTED", .rejected),
    ("PARTIALLY_FILLED", .partiallyFilled), ("PARTIAL", .partiallyFilled), ("FILLED", .filled),
    ("COMPLETE", .filled), ("EXIT_FILLED", .exited), ("EXITED", .exited),
    ("POSITION_CLOSED", .closed), ("CLOSED", .closed)]

/-- `_normalize_status`. -/
def normalizeStatus (value : PyValue) : OutcomeStatus :=
  (statusAliases.lookup (norm value)).getD .unknown

end Replay

structure OutcomeEvent where
  candidateId : String
  status : OutcomeStatus
  tsEpoch : Option PyFloat
  source : String
  reason : Option String
  qualityScore : Option PyFloat
  evidence : PyDict
  raw : PyDict

/-- `_event_from_record`. -/
def eventFromRecord (row : PyDict) : OutcomeEvent :=
  { candidateId := printValue
      ((firstOf row ["candidate_id", "trade_id", "client_order_id"]).or (.str "unknown"))
    status := Replay.normalizeStatus
      (firstOf row ["outcome_status", "status", "event", "current_status"])
    tsEpoch := Paper.floatOrNone (firstOf row ["ts_epoch", "timestamp", "time"])
    source := printValue ((PyDict.get row "source").or (.str "runtime_artifact"))
    reason := strOrNone
      (firstOf row ["reason", "message", "rejection_reason", "selection_reason"])
    qualityScore := Paper.floatOrNone (PyDict.get row "quality_score")
    evidence := (PyDict.get row "evidence").asDict
    raw := row }

structure OutcomeReplaySummary where
  candidateId : String
  currentStatus : OutcomeStatus
  events : List OutcomeEvent
  terminal : Bool
  selectedCount : ℕ
  blockedCount : ℕ
  filledCount : ℕ
  rejectedCount : ℕ
  bestQualityScore : Option PyFloat := none
  blockers : List String := []
  warnings : List String := []

def terminalOutcomes : List OutcomeStatus := [.rejected, .filled, .exited, .closed]

def replaySortKey (event : OutcomeEvent) : List KeyPart :=
  [.number (.finite (if event.tsEpoch.isNone then 1 else 0)),
    .number (event.tsEpoch.getD (.finite 0))]

abbrev ReplayedBefore : OutcomeEvent → OutcomeEvent → Prop :=
  Sorting.NotAfter KeyPart.same KeyPart.less replaySortKey

/-- `_first_candidate_id`. -/
def firstCandidateId (events : List OutcomeEvent) : Option String :=
  (events.find? fun event => event.candidateId ≠ "unknown").map OutcomeEvent.candidateId

/-- `_best_quality`. The greatest score is the first one that no other exceeds. -/
def bestQuality (events : List OutcomeEvent) : Option PyFloat :=
  Sorting.choose (fun next kept => kept.lt next) (events.filterMap OutcomeEvent.qualityScore)

/-- `_warnings`. -/
def outcomeWarnings (events : List OutcomeEvent) : List String :=
  Dedup.messagesOf
    [(events.any fun event => event.status = .unknown, "UNKNOWN_OUTCOME_EVENT_PRESENT"),
      (events.any fun event => event.candidateId = "unknown", "UNKNOWN_CANDIDATE_EVENT_PRESENT")]

def givenText (text : Option String) : Option String :=
  text.filter fun text => text ≠ ""

def countOutcomes (events : List OutcomeEvent) (status : OutcomeStatus) : ℕ :=
  events.countP fun event => event.status = status

def dictRow : PyValue → Option PyDict
  | .dict entries => some entries
  | _ => none

def eventsOf (records : List PyValue) (candidateId : Option String) : List OutcomeEvent :=
  ((records.filterMap dictRow).map eventFromRecord).filter fun event =>
    (givenText candidateId).all fun id => event.candidateId = id

/-- `normalize_outcome_replay`. -/
def normalizeOutcomeReplay (records : List PyValue) (candidateId : Option String) :
    OutcomeReplaySummary :=
  let events := (eventsOf records candidateId).insertionSort ReplayedBefore
  let resolved := ((givenText candidateId).or (givenText (firstCandidateId events))).getD "unknown"
  match events.getLast? with
  | none =>
      { candidateId := resolved
        currentStatus := .unknown
        events := []
        terminal := false
        selectedCount := 0
        blockedCount := 0
        filledCount := 0
        rejectedCount := 0
        blockers := ["NO_OUTCOME_EVENTS"] }
  | some latest =>
      { candidateId := resolved
        currentStatus := latest.status
        events := events
        terminal := decide (latest.status ∈ terminalOutcomes)
        selectedCount := countOutcomes events .selected
        blockedCount := countOutcomes events .blocked
        filledCount := countOutcomes events .filled
        rejectedCount := countOutcomes events .rejected
        bestQualityScore := bestQuality events
        blockers := Dedup.messageIf (decide (latest.status = .unknown)) "UNKNOWN_OUTCOME_STATUS"
        warnings := outcomeWarnings events }

theorem events_normalizeOutcomeReplay (records : List PyValue) (candidateId : Option String) :
    (normalizeOutcomeReplay records candidateId).events =
      (eventsOf records candidateId).insertionSort ReplayedBefore := by
  unfold normalizeOutcomeReplay
  dsimp only
  split
  · next none => exact (List.getLast?_eq_none_iff.mp none).symm
  · rfl

/-! ### Query -/

namespace Query

def statusAliases : List (String × OutcomeStatus) :=
  [("SELECTED", .selected), ("TOP_EXECUTABLE_SELECTED", .selected), ("BLOCKED", .blocked),
    ("NO_ELIGIBLE_CANDIDATES", .blocked), ("ORDER_SUBMITTED", .submitted),
    ("SUBMITTED", .submitted), ("ORDER_ACCEPTED", .accepted), ("ACCEPTED", .accepted),
    ("OPEN", .accepted), ("ORDER_REJECTED", .rejected), ("REJECTED", .rejected),
    ("PARTIALLY_FILLED", .partiallyFilled), ("PARTIAL", .partiallyFilled), ("FILLED", .filled),
    ("COMPLETE", .filled), ("EXIT_FILLED", .exited), ("EXITED", .exited),
    ("POSITION_CLOSED", .closed), ("CLOSED", .closed)]

/-- `_normalize_status`. -/
def normalizeStatus (value : PyValue) : OutcomeStatus :=
  (statusAliases.lookup (norm value)).getD .unknown

end Query

/-- `_candidate_id`. -/
def rowCandidateId (row : PyDict) : String :=
  printValue ((firstOf row ["candidate_id", "trade_id", "client_order_id"]).or (.str "unknown"))

/-- `_row_status`. -/
def rowStatus (row : PyDict) : OutcomeStatus :=
  Query.normalizeStatus (firstOf row ["outcome_status", "status", "event", "current_status"])

/-- `status.split(",")`. -/
def splitNames (status : String) : List String :=
  (status.toList.splitOn ',').map String.ofList

/-- `_status_filter_set`. -/
def statusFilterSet (status : Option String) : List OutcomeStatus :=
  match givenText status with
  | none => []
  | some text =>
      ((splitNames text).map fun raw => Query.normalizeStatus (.str raw)).filter (· ≠ .unknown)

def strategyKeys : List String := ["strategy", "strategy_id", "strategy_family", "setup_family"]

def payloadStrategy (payload : PyDict) : Option String :=
  Candidates.shown (Candidates.firstPresent payload strategyKeys)

/-- `_row_strategy`. -/
def rowStrategy (row : PyDict) : Option String :=
  (payloadStrategy row).or
    ((payloadStrategy (PyDict.get row "evidence").asDict).or
      (payloadStrategy (PyDict.get row "selected").asDict))

def rowTime (row : PyDict) : Option PyFloat :=
  Paper.floatOrNone (firstOf row ["ts_epoch", "timestamp", "time"])

structure OutcomeQuery where
  candidateId : Option String := none
  status : Option String := none
  strategy : Option String := none
  tsFromEpoch : Option PyFloat := none
  tsToEpoch : Option PyFloat := none

def OutcomeQuery.skips (query : OutcomeQuery) (row : PyDict) : Bool :=
  ((givenText query.candidateId).any fun id => rowCandidateId row ≠ id) ||
    (!(statusFilterSet query.status).isEmpty && !(rowStatus row ∈ statusFilterSet query.status)) ||
    (norm (ofOptionString query.strategy) ≠ "" &&
      norm (ofOptionString (rowStrategy row)) ≠ norm (ofOptionString query.strategy)) ||
    (query.tsFromEpoch.any fun start => (rowTime row).all fun ts => ts.lt start) ||
    (query.tsToEpoch.any fun stop => (rowTime row).all fun ts => stop.lt ts)

/-- One turn of the loop of `filter_outcome_replay_records`. -/
def OutcomeQuery.addRow (query : OutcomeQuery) (filtered : List PyValue) (row : PyValue) :
    List PyValue :=
  match row with
  | .dict entries => if query.skips entries then filtered else filtered ++ [.dict entries]
  | _ => filtered

/-- `filter_outcome_replay_records`. -/
def filterOutcomeReplayRecords (query : OutcomeQuery) (records : List PyValue) : List PyValue :=
  records.foldl query.addRow []

theorem filterOutcomeReplayRecords_eq (query : OutcomeQuery) (records : List PyValue) :
    filterOutcomeReplayRecords query records =
      records.filter fun row => (dictRow row).any fun entries => !query.skips entries := by
  unfold filterOutcomeReplayRecords
  induction records using List.reverseRecOn with
  | nil => rfl
  | append_singleton records row ih =>
      rw [List.foldl_append, List.filter_append, ih, List.foldl_cons, List.foldl_nil]
      cases row with
      | dict entries =>
          unfold OutcomeQuery.addRow
          cases skipped : query.skips entries <;> simp [dictRow, skipped]
      | none | bool | int | float | str | list => simp [OutcomeQuery.addRow, dictRow]

/-! ### What a query asks for -/

def knownStatus (name : String) : Option OutcomeStatus :=
  Replay.statusAliases.lookup (norm (.str name))

namespace OutcomeQuery

variable (query : OutcomeQuery) (row : PyDict)

def meetsCandidate : Bool :=
  (givenText query.candidateId).all fun id => (eventFromRecord row).candidateId = id

def meetsStatus : Bool :=
  (givenText query.status).all fun text =>
    (splitNames text).any fun name => knownStatus name = some (eventFromRecord row).status

def meetsStrategy : Bool :=
  (givenText query.strategy).all fun text =>
    norm (ofOptionString (rowStrategy row)) = norm (.str text)

def meetsSince : Bool :=
  query.tsFromEpoch.all fun start => (eventFromRecord row).tsEpoch.any fun ts => start.le ts

def meetsUntil : Bool :=
  query.tsToEpoch.all fun stop => (eventFromRecord row).tsEpoch.any fun ts => ts.le stop

def satisfiedBy : Bool :=
  query.meetsCandidate row && query.meetsStatus row && query.meetsStrategy row &&
    query.meetsSince row && query.meetsUntil row

def idleStatus : Bool :=
  (givenText query.status).any fun text =>
    (splitNames text).all fun name => (knownStatus name).isNone

def idleStrategy : Bool :=
  (givenText query.strategy).any fun text => norm (.str text) = ""

end OutcomeQuery

def unordered (bound ts : Option PyFloat) : Bool :=
  bound.any fun bound => ts.any fun ts => bound = .nan || ts = .nan

structure OutcomeQuery.MissesOnlyIdle (query : OutcomeQuery) (row : PyDict) : Prop where
  candidate : query.meetsCandidate row = true
  status : query.meetsStatus row = true ∨ query.idleStatus = true
  strategy : query.meetsStrategy row = true ∨ query.idleStrategy = true
  since : query.meetsSince row = true ∨
    unordered query.tsFromEpoch (eventFromRecord row).tsEpoch = true
  until_ : query.meetsUntil row = true ∨
    unordered query.tsToEpoch (eventFromRecord row).tsEpoch = true

/-! ### The filters one by one -/

theorem knownStatus_ne_unknown {name : String} {status : OutcomeStatus}
    (known : knownStatus name = some status) : status ≠ .unknown := by
  have listed : ∀ entry ∈ Replay.statusAliases, entry.2 ≠ .unknown := by decide
  exact listed _ (Assoc.mem_of_lookup known)

theorem normalizeStatus_eq (value : PyValue) :
    Query.normalizeStatus value = Replay.normalizeStatus value := by
  have same : Query.statusAliases = Replay.statusAliases := rfl
  unfold Query.normalizeStatus Replay.normalizeStatus
  rw [same]

theorem rowStatus_eq (row : PyDict) : rowStatus row = (eventFromRecord row).status := by
  unfold rowStatus eventFromRecord
  rw [normalizeStatus_eq]

theorem normalizeStatus_str (name : String) :
    Query.normalizeStatus (.str name) = (knownStatus name).getD .unknown := by
  rw [normalizeStatus_eq]
  rfl

theorem mem_statusFilterSet {text : String} {status : OutcomeStatus} (written : text ≠ "") :
    status ∈ statusFilterSet (some text) ↔
      ∃ name ∈ splitNames text, knownStatus name = some status := by
  have given : givenText (some text) = some text := by simp [givenText, Option.filter, written]
  simp only [statusFilterSet, given, List.mem_filter, List.mem_map, decide_eq_true_eq]
  constructor
  · rintro ⟨⟨name, listed, same⟩, named⟩
    refine ⟨name, listed, ?_⟩
    rw [normalizeStatus_str] at same
    cases known : knownStatus name with
    | none =>
        rw [known] at same
        exact absurd same.symm named
    | some own =>
        rw [known] at same
        exact congrArg some same
  · rintro ⟨name, listed, known⟩
    refine ⟨⟨name, listed, ?_⟩, knownStatus_ne_unknown known⟩
    rw [normalizeStatus_str, known]
    rfl

section Filters

variable (query : OutcomeQuery) (row : PyDict)

theorem candidate_kept_iff :
    (givenText query.candidateId).any (fun id => rowCandidateId row ≠ id) = false ↔
      query.meetsCandidate row = true := by
  have same : rowCandidateId row = (eventFromRecord row).candidateId := rfl
  unfold OutcomeQuery.meetsCandidate
  cases givenText query.candidateId with
  | none => simp
  | some id => simp [same]

theorem status_kept_iff :
    ((statusFilterSet query.status).isEmpty = true ∨
        rowStatus row ∈ statusFilterSet query.status) ↔
      query.meetsStatus row = true ∨ query.idleStatus = true := by
  unfold OutcomeQuery.meetsStatus OutcomeQuery.idleStatus
  cases given : givenText query.status with
  | none => simp [statusFilterSet, given]
  | some text =>
      obtain ⟨own, written⟩ := Option.filter_eq_some_iff.mp given
      rw [decide_eq_true_eq] at written
      have empty : (statusFilterSet query.status).isEmpty = true ↔
          ∀ name ∈ splitNames text, knownStatus name = none := by
        rw [own, List.isEmpty_iff, List.eq_nil_iff_forall_not_mem]
        constructor
        · intro none name listed
          cases known : knownStatus name with
          | none => rfl
          | some status =>
              exact absurd ((mem_statusFilterSet written).mpr ⟨name, listed, known⟩) (none status)
        · intro unknown status member
          obtain ⟨name, listed, known⟩ := (mem_statusFilterSet written).mp member
          rw [unknown name listed] at known
          cases known
      rw [empty, own, mem_statusFilterSet written, rowStatus_eq, or_comm]
      simp

theorem norm_absent {strategy : Option String} (absent : givenText strategy = none) :
    norm (ofOptionString strategy) = "" := by
  cases strategy with
  | none => decide
  | some text =>
      have empty : text = "" := by simpa [givenText, Option.filter] using absent
      rw [empty]
      decide

theorem strategy_kept_iff :
    (norm (ofOptionString query.strategy) = "" ∨
        norm (ofOptionString (rowStrategy row)) = norm (ofOptionString query.strategy)) ↔
      query.meetsStrategy row = true ∨ query.idleStrategy = true := by
  unfold OutcomeQuery.meetsStrategy OutcomeQuery.idleStrategy
  cases given : givenText query.strategy with
  | none => simp [norm_absent given]
  | some text =>
      have own := (Option.filter_eq_some_iff.mp given).1
      rw [own, or_comm]
      simp only [Option.all_some, Option.any_some, decide_eq_true_eq]
      rfl

theorem not_lt_iff (left right : PyFloat) :
    left.lt right = false ↔ right.le left = true ∨ (right = .nan ∨ left = .nan) := by
  constructor
  · intro notLess
    by_cases unread : right = .nan ∨ left = .nan
    · exact .inr unread
    · obtain ⟨rightNumber, leftNumber⟩ := not_or.mp unread
      exact .inl (PyFloat.le_of_not_lt rightNumber leftNumber (Bool.eq_false_iff.mp notLess))
  · rintro (atMost | rfl | rfl)
    · exact PyFloat.not_lt_of_le atMost
    · cases left <;> rfl
    · rfl

theorem since_kept_iff :
    query.tsFromEpoch.any (fun start => (rowTime row).all fun ts => ts.lt start) = false ↔
      query.meetsSince row = true ∨
        unordered query.tsFromEpoch (eventFromRecord row).tsEpoch = true := by
  have same : (eventFromRecord row).tsEpoch = rowTime row := rfl
  unfold OutcomeQuery.meetsSince unordered
  rw [same]
  cases query.tsFromEpoch with
  | none => simp
  | some start =>
      cases rowTime row with
      | none => simp
      | some ts => simpa using not_lt_iff ts start

theorem until_kept_iff :
    query.tsToEpoch.any (fun stop => (rowTime row).all fun ts => stop.lt ts) = false ↔
      query.meetsUntil row = true ∨
        unordered query.tsToEpoch (eventFromRecord row).tsEpoch = true := by
  have same : (eventFromRecord row).tsEpoch = rowTime row := rfl
  unfold OutcomeQuery.meetsUntil unordered
  rw [same]
  cases query.tsToEpoch with
  | none => simp
  | some stop =>
      cases rowTime row with
      | none => simp
      | some ts =>
          have exact_ := not_lt_iff stop ts
          rw [or_comm (a := ts = .nan)] at exact_
          simpa using exact_

theorem not_skips_iff : query.skips row = false ↔ query.MissesOnlyIdle row := by
  have candidate := candidate_kept_iff query row
  have status := status_kept_iff query row
  have strategy := strategy_kept_iff query row
  have since := since_kept_iff query row
  have until_ := until_kept_iff query row
  unfold OutcomeQuery.skips
  rw [Bool.or_eq_false_iff, Bool.or_eq_false_iff, Bool.or_eq_false_iff, Bool.or_eq_false_iff,
    candidate, since, until_]
  constructor
  · rintro ⟨⟨⟨⟨ofCandidate, named⟩, ofStrategy⟩, after⟩, before⟩
    refine ⟨ofCandidate, status.mp ?_, strategy.mp ?_, after, before⟩
    · by_cases empty : (statusFilterSet query.status).isEmpty = true
      · exact .inl empty
      · exact .inr (by simpa [empty] using named)
    · by_cases blank : norm (ofOptionString query.strategy) = ""
      · exact .inl blank
      · exact .inr (by simpa [blank] using ofStrategy)
  · rintro ⟨ofCandidate, named, ofStrategy, after, before⟩
    refine ⟨⟨⟨⟨ofCandidate, ?_⟩, ?_⟩, after⟩, before⟩
    · rcases status.mpr named with empty | member
      · rw [empty]
        rfl
      · simp [member]
    · rcases strategy.mpr ofStrategy with blank | same
      · simp [blank]
      · simp [same]

end Filters

/-! ### Leaving rows out before the replay and after it -/

theorem eventsOf_filter (keep : PyDict → Bool) (records : List PyValue)
    (candidateId : Option String) :
    eventsOf (records.filter fun row => (dictRow row).any keep) candidateId =
      (eventsOf records candidateId).filter fun event => keep event.raw := by
  have rows : (records.filter fun row => (dictRow row).any keep).filterMap dictRow =
      (records.filterMap dictRow).filter keep := by
    induction records with
    | nil => rfl
    | cons row rest ih =>
        cases found : dictRow row with
        | none => simp [found, ih]
        | some entries => cases kept : keep entries <;> simp [found, kept, ih]
  have raws : ((records.filterMap dictRow).map eventFromRecord).filter (fun event => keep event.raw) =
      ((records.filterMap dictRow).filter keep).map eventFromRecord := List.filter_map
  unfold eventsOf
  rw [rows, ← raws]
  exact List.filter_comm _ _ _

def readTime (ts : PyFloat) : PyFloat :=
  if ts = .nan then .finite 0 else ts

theorem readTime_ne_nan (ts : PyFloat) : readTime ts ≠ .nan := by
  unfold readTime
  split
  · exact PyFloat.noConfusion
  · assumption

def timedKey (event : OutcomeEvent) : List KeyPart :=
  [.number (.finite (if event.tsEpoch.isNone then 1 else 0)),
    .number (readTime (event.tsEpoch.getD (.finite 0)))]

theorem timedKey_comparable : Sorting.Comparable KeyPart.same KeyPart.less timedKey := by
  intro left right
  exact .cons (KeyPart.comparable_finite _ _)
    (.cons (KeyPart.comparable_number (readTime_ne_nan _) (readTime_ne_nan _)) .nil)

def TimesRead (records : List PyValue) : Prop :=
  ∀ row ∈ records.filterMap dictRow, rowTime row ≠ some .nan

theorem mem_eventsOf {records : List PyValue} {candidateId : Option String} {event : OutcomeEvent}
    (member : event ∈ eventsOf records candidateId) :
    ∃ row ∈ records.filterMap dictRow, event = eventFromRecord row := by
  obtain ⟨row, listed, made⟩ := List.mem_map.mp (List.mem_of_mem_filter member)
  exact ⟨row, listed, made.symm⟩

theorem timedKey_eq {records : List PyValue} {candidateId : Option String} {event : OutcomeEvent}
    (read : TimesRead records) (member : event ∈ eventsOf records candidateId) :
    timedKey event = replaySortKey event := by
  obtain ⟨row, listed, rfl⟩ := mem_eventsOf member
  have known : (eventFromRecord row).tsEpoch ≠ some .nan := read row listed
  unfold timedKey replaySortKey
  cases time : (eventFromRecord row).tsEpoch with
  | none => rfl
  | some ts =>
      have number : ts ≠ .nan := by
        intro nan
        rw [time, nan] at known
        exact known rfl
      rw [Option.getD_some, readTime, if_neg number]

theorem replay_filter (keep : PyDict → Bool) {records : List PyValue} (read : TimesRead records)
    (candidateId : Option String) :
    (normalizeOutcomeReplay (records.filter fun row => (dictRow row).any keep)
        candidateId).events =
      (normalizeOutcomeReplay records candidateId).events.filter fun event => keep event.raw := by
  have total : Std.Total (Sorting.NotAfter KeyPart.same KeyPart.less timedKey) :=
    ⟨Sorting.notAfter_total keyPartLaws timedKey_comparable⟩
  have trans : IsTrans OutcomeEvent (Sorting.NotAfter KeyPart.same KeyPart.less timedKey) :=
    ⟨fun _ _ _ => Sorting.notAfter_trans keyPartLaws timedKey_comparable⟩
  have resort : ∀ events : List OutcomeEvent,
      (∀ event ∈ events, event ∈ eventsOf records candidateId) →
        events.insertionSort ReplayedBefore =
          events.insertionSort (Sorting.NotAfter KeyPart.same KeyPart.less timedKey) := by
    intro events among
    apply Sorting.insertionSort_congr
    intro first inFirst second inSecond
    unfold ReplayedBefore Sorting.NotAfter
    rw [timedKey_eq read (among first inFirst), timedKey_eq read (among second inSecond)]
  rw [events_normalizeOutcomeReplay, events_normalizeOutcomeReplay, eventsOf_filter,
    resort _ fun _ member => List.mem_of_mem_filter member, resort _ fun _ member => member,
    Sorting.filter_insertionSort]

/-! ### The query -/

theorem filter_eq_filter_iff {α : Type} (first second : α → Bool) (items : List α) :
    items.filter first = items.filter second ↔ ∀ item ∈ items, first item = second item := by
  constructor
  · intro same item member
    apply Bool.eq_iff_iff.mpr
    constructor
    · intro kept
      exact (List.mem_filter.mp (same ▸ List.mem_filter.mpr ⟨member, kept⟩)).2
    · intro kept
      exact (List.mem_filter.mp (same ▸ List.mem_filter.mpr ⟨member, kept⟩)).2
  · intro same
    exact List.filter_congr same

theorem missesOnlyIdle_of_satisfiedBy {query : OutcomeQuery} {row : PyDict}
    (satisfied : query.satisfiedBy row = true) : query.MissesOnlyIdle row := by
  unfold OutcomeQuery.satisfiedBy at satisfied
  simp only [Bool.and_eq_true] at satisfied
  obtain ⟨⟨⟨⟨candidate, status⟩, strategy⟩, since⟩, until_⟩ := satisfied
  exact ⟨candidate, .inl status, .inl strategy, .inl since, .inl until_⟩

/-- The query returns the rows that satisfy every filter exactly if no row misses idle filters
alone, and then, where the times can be compared, it does not matter whether rows are left out
before the replay or after it. -/
theorem filter_is_exact_iff (query : OutcomeQuery) (records : List PyValue) :
    (filterOutcomeReplayRecords query records =
        records.filter (fun row => (dictRow row).any query.satisfiedBy) ↔
      ∀ row ∈ records.filterMap dictRow, query.MissesOnlyIdle row →
        query.satisfiedBy row = true) ∧
    ((∀ row ∈ records.filterMap dictRow, query.MissesOnlyIdle row →
        query.satisfiedBy row = true) → TimesRead records →
      ∀ candidateId,
        (normalizeOutcomeReplay (filterOutcomeReplayRecords query records) candidateId).events =
          (normalizeOutcomeReplay records candidateId).events.filter
            fun event => query.satisfiedBy event.raw) := by
  have exact_ : filterOutcomeReplayRecords query records =
      records.filter (fun row => (dictRow row).any query.satisfiedBy) ↔
        ∀ row ∈ records.filterMap dictRow, query.MissesOnlyIdle row →
          query.satisfiedBy row = true := by
    rw [filterOutcomeReplayRecords_eq, filter_eq_filter_iff]
    constructor
    · intro same row member only
      obtain ⟨value, listed, found⟩ := List.mem_filterMap.mp member
      have kept := same value listed
      rw [found, Option.any_some, Option.any_some, (not_skips_iff query row).mpr only] at kept
      exact kept.symm
    · intro only value listed
      cases found : dictRow value with
      | none => rfl
      | some row =>
          have member := List.mem_filterMap.mpr ⟨value, listed, found⟩
          rw [Option.any_some, Option.any_some]
          apply Bool.eq_iff_iff.mpr
          rw [Bool.not_eq_true', not_skips_iff]
          exact ⟨only row member, missesOnlyIdle_of_satisfiedBy⟩
  refine ⟨exact_, ?_⟩
  intro only read candidateId
  rw [exact_.mpr only]
  exact replay_filter query.satisfiedBy read candidateId

theorem filter_is_exact_filled :
    ∀ candidateId, (normalizeOutcomeReplay (filterOutcomeReplayRecords
        { status := some "filled" } [.dict [("status", .str "COMPLETE")]]) candidateId).events =
      (normalizeOutcomeReplay [.dict [("status", .str "COMPLETE")]] candidateId).events.filter
        fun event => OutcomeQuery.satisfiedBy { status := some "filled" } event.raw := by
  apply (filter_is_exact_iff { status := some "filled" }
    [.dict [("status", .str "COMPLETE")]]).2
  · intro row listed _
    have own : row = [("status", .str "COMPLETE")] := List.mem_singleton.mp listed
    rw [own]
    decide +kernel
  · intro row listed
    have own : row = [("status", .str "COMPLETE")] := List.mem_singleton.mp listed
    rw [own]
    decide +kernel

/-- A status that is not known selects every row. -/
theorem unknown_status_selects_all :
    filterOutcomeReplayRecords { status := some "foo" }
        [.dict [("candidate_id", .str "c1"), ("status", .str "FILLED")]] ≠
      [PyValue.dict [("candidate_id", .str "c1"), ("status", .str "FILLED")]].filter
        (fun row => (dictRow row).any (OutcomeQuery.satisfiedBy { status := some "foo" })) := by
  intro same
  have lengths := congrArg List.length same
  revert lengths
  decide +kernel

end Algotradify.Outcomes
