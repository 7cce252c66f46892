/-
Candidate truth: what a raw candidate is taken for.

A raw candidate is read into one record: its identity, the blockers and warnings it brings,
and a truth status. The status is the first that applies of a list of readings, from an
explicit status down to words that occur anywhere in the record.

The opportunity layer: which candidates are ranked, and in which order.

Every candidate is normalized. Those whose truth status admits no ranking are dropped, those
with blockers are blocked, and the others are ranked by their score, the highest first. The
first of the ranking is selected.
-/

import Algotradify.Execution.OrderIntent
import Mathlib.Data.List.Infix
import Mathlib.Data.String.Basic

namespace Algotradify.Candidates

open Py Execution

variable {record : CandidateTruthRecord}

inductive CandidateTruthStatus where
  | real
  | synthetic
  | fallback
  | advisory
  | malformed
  | unknown
deriving DecidableEq, Repr

namespace CandidateTruthStatus

def value : CandidateTruthStatus → String
  | real => "REAL"
  | synthetic => "SYNTHETIC"
  | fallback => "FALLBACK"
  | advisory => "ADVISORY"
  | malformed => "MALFORMED"
  | unknown => "UNKNOWN"

def members : List CandidateTruthStatus :=
  [real, synthetic, fallback, advisory, malformed, unknown]

def named? (text : String) : Option CandidateTruthStatus :=
  members.find? fun status => status.value = text

theorem value_injective : Function.Injective value := by
  intro first second same
  cases first <;> cases second <;> first | rfl | exact absurd same (by decide)

end CandidateTruthStatus

def syntheticHints : List String := ["synthetic", "mock", "demo", "simulated"]

def fallbackHints : List String := ["fallback", "nearest", "substitute"]

def advisoryActions : List String := ["ADVISORY", "ADVISORY_ONLY", "WATCH", "INFO"]

def malformedBlockers : List String :=
  ["MISSING_CANDIDATE_ID", "MISSING_SYMBOL", "MISSING_STRATEGY_ID", "MISSING_SETUP_FAMILY"]

/-! ### Raw candidates -/

/-- A candidate is a value, or an object whose `to_dict` returns one or raises. -/
inductive RawCandidate where
  | plain (value : PyValue)
  | convertible (returned : Except PyError PyValue)

/-- A dictionary as it is, and everything else under a key of its own. -/
def wrapped : PyValue → PyDict
  | .dict entries => entries
  | other => [("raw_value", other)]

/-- `_as_dict`. -/
def RawCandidate.asDict : RawCandidate → Except PyError PyDict
  | .plain value => .ok (wrapped value)
  | .convertible returned => do
      let value ← returned
      pure (wrapped value)

/-- `_first_present`. -/
def firstPresent (raw : PyDict) (keys : List String) : PyValue :=
  ((keys.map (PyDict.get raw)).find? fun value => !value.isNoneOrEmpty).getD .none

/-- `_listify`. -/
def listify : PyValue → List String
  | .none => []
  | .str text => if text = "" then [] else [text]
  | .list items => (items.filter fun item => !item.isNoneOrEmpty).map printValue
  | value => [printValue value]

/-- `hint in haystack`, for one of the hints and the printed values in lower case. -/
def containsHint (raw : PyDict) (hints : List String) : Bool :=
  let shown := ((PyDict.values raw).filter fun value => !value.isNone).map
    fun value => lower (printValue value)
  let haystack := " ".intercalate shown
  hints.any fun hint => decide (hint.toList <:+: haystack.toList)

/-! ### Classification -/

def statedStatus (raw : PyDict) : String :=
  upper (printValue ((firstOf raw ["truth_status", "candidate_truth"]).or (.str "")))

def statedAction (raw : PyDict) : String :=
  upper (printValue ((firstOf raw ["final_action", "permission", "bucket"]).or (.str "")))

def markedFallback (raw : PyDict) : Bool :=
  (PyDict.get raw "fallback_used").truthy || (PyDict.get raw "is_fallback").truthy ||
    containsHint raw fallbackHints

def markedSynthetic (raw : PyDict) : Bool :=
  (PyDict.get raw "synthetic").truthy || (PyDict.get raw "is_synthetic").truthy ||
    containsHint raw syntheticHints

/-- `_classify`. -/
def classify (raw : PyDict) (blockers : List String) : CandidateTruthStatus :=
  if blockers.any (· ∈ malformedBlockers) then .malformed
  else
    match CandidateTruthStatus.named? (statedStatus raw) with
    | some status => status
    | none =>
        if statedAction raw ∈ advisoryActions then .advisory
        else if markedFallback raw then .fallback
        else if markedSynthetic raw then .synthetic
        else .real

/-! ### Normalization -/

structure CandidateTruthRecord where
  candidateId : String
  symbol : Option String
  strategyId : Option String
  setupFamily : Option String
  truthStatus : CandidateTruthStatus
  blockers : List String := []
  warnings : List String := []
  provenance : PyDict := []
  normalized : PyDict := []
  raw : PyDict := []

def CandidateTruthRecord.toDict (record : CandidateTruthRecord) : PyDict :=
  [("candidate_id", .str record.candidateId), ("symbol", ofOptionString record.symbol),
    ("strategy_id", ofOptionString record.strategyId),
    ("setup_family", ofOptionString record.setupFamily),
    ("truth_status", .str record.truthStatus.value), ("blockers", ofStrings record.blockers),
    ("warnings", ofStrings record.warnings), ("provenance", .dict record.provenance),
    ("normalized", .dict record.normalized), ("raw", .dict record.raw),
    ("is_candidate_truth_record", .bool true), ("is_execution_decision", .bool false)]

/-- One item of the iterable that `dict` is called with. A key that is no text is printed. -/
def pairOf (item : PyValue) : Except PyError (String × PyValue) := do
  let parts ← toItems item
  match parts with
  | [.list _, _] | [.dict _, _] => .error (.typeError "unhashable type")
  | [key, value] => .ok (printValue key, value)
  | _ => .error (.valueError "dictionary update sequence element has the wrong length")

/-- `dict(value)` of a dictionary or of an iterable of pairs. -/
def mappingOf : PyValue → Except PyError PyDict
  | .dict entries => .ok entries
  | value => do
      let items ← toItems value
      let pairs ← items.mapM pairOf
      pure (PyDict.update [] pairs)

/-- `entries.setdefault(key, value)`. -/
def setDefault (entries : PyDict) (key : String) (value : PyValue) : PyDict :=
  if PyDict.contains entries key then entries else PyDict.set entries key value

def candidateIdOf (raw : PyDict) : PyValue :=
  firstPresent raw ["candidate_id", "trade_id", "advisory_id", "id"]

def symbolOf (raw : PyDict) : PyValue :=
  firstPresent raw ["symbol", "underlying", "index_symbol"]

def strategyIdOf (raw : PyDict) : PyValue :=
  firstPresent raw ["strategy_id", "strategy", "strategy_family"]

def setupFamilyOf (raw : PyDict) : PyValue :=
  firstPresent raw ["setup_family", "strategy_family", "setup"]

def identityBlockers (raw : PyDict) : List String :=
  Dedup.messagesOf
    [((candidateIdOf raw).isNone, "MISSING_CANDIDATE_ID"),
      ((symbolOf raw).isNone, "MISSING_SYMBOL"),
      ((strategyIdOf raw).isNone, "MISSING_STRATEGY_ID"),
      ((setupFamilyOf raw).isNone, "MISSING_SETUP_FAMILY")]

/-- The blockers that a record brings. The reason counts when the status is `blocked`. -/
def givenBlockers (raw : PyDict) : List String :=
  listify (PyDict.get raw "blockers") ++ (listify (PyDict.get raw "blocker") ++
    (listify (PyDict.get raw "first_blocker") ++
      if (PyDict.get raw "status").isStr "blocked" then listify (PyDict.get raw "reason") else []))

/-- `str(value) if value is not None else None`. -/
def shown (value : PyValue) : Option String :=
  if value.isNone then none else some (printValue value)

def candidateIdText (raw : PyDict) : String :=
  (shown (candidateIdOf raw)).getD "malformed:missing_candidate_id"

def normalizedFields (raw : PyDict) : PyDict :=
  [("candidate_id", .str (candidateIdText raw)),
    ("symbol", ofOptionString ((shown (symbolOf raw)).map upper)),
    ("strategy_id", ofOptionString (shown (strategyIdOf raw))),
    ("setup_family", ofOptionString (shown (setupFamilyOf raw))),
    ("direction", PyDict.get raw "direction"), ("confidence", PyDict.get raw "confidence"),
    ("score", firstOf raw ["score", "final_score", "rank_score"]),
    ("entry_hypothesis", PyDict.get raw "entry_hypothesis"),
    ("invalidation_hypothesis", PyDict.get raw "invalidation_hypothesis"),
    ("required_data", (PyDict.get raw "required_data").or (.list [])),
    ("signal_features", (PyDict.get raw "signal_features").or (.dict []))]

/-- `normalize_candidate`. -/
def normalizeCandidate (candidate : RawCandidate) (source : String) :
    Except PyError CandidateTruthRecord := do
  let raw ← candidate.asDict
  let provenance ← mappingOf ((PyDict.get raw "provenance").or (.dict []))
  let keys := (PyDict.keys raw).insertionSort (· ≤ ·)
  let blockers := Paper.dedupe (identityBlockers raw ++ givenBlockers raw)
  pure
    { candidateId := candidateIdText raw
      symbol := (shown (symbolOf raw)).map upper
      strategyId := shown (strategyIdOf raw)
      setupFamily := shown (setupFamilyOf raw)
      truthStatus := classify raw blockers
      blockers := blockers
      warnings := Paper.dedupe
        (listify (PyDict.get raw "warnings") ++ listify (PyDict.get raw "warning"))
      provenance := setDefault (setDefault provenance "source" (.str source)) "raw_keys"
        (ofStrings keys)
      normalized := normalizedFields raw
      raw := raw }

/-- `normalize_candidates`. -/
def normalizeCandidates (candidates : List RawCandidate) (source : String) :
    Except PyError (List CandidateTruthRecord) :=
  candidates.mapM fun candidate => normalizeCandidate candidate source

/-! ### What a record keeps of its candidate -/

def blockersOf (raw : PyDict) : List String :=
  Paper.dedupe (identityBlockers raw ++ givenBlockers raw)

structure Normalizes (candidate : RawCandidate) (record : CandidateTruthRecord) : Prop where
  read : candidate.asDict = .ok record.raw
  id : record.candidateId = candidateIdText record.raw
  blockers : record.blockers = blockersOf record.raw
  status : record.truthStatus = classify record.raw (blockersOf record.raw)
  normalized : record.normalized = normalizedFields record.raw

theorem normalizes_of_normalizeCandidate {candidate : RawCandidate} {source : String}
    (ran : normalizeCandidate candidate source = .ok record) :
    Normalizes candidate record := by
  unfold normalizeCandidate at ran
  obtain ⟨raw, read, ran⟩ := bind_eq_ok.mp ran
  obtain ⟨provenance, _, made⟩ := bind_eq_ok.mp ran
  rw [← Except.ok.inj made]
  exact ⟨read, rfl, rfl, rfl, rfl⟩

/-! ### The pipeline -/

inductive OpportunityStatus where
  | selected
  | ranked
  | blocked
  | dropped
deriving DecidableEq, Repr

def OpportunityStatus.value : OpportunityStatus → String
  | .selected => "SELECTED"
  | .ranked => "RANKED"
  | .blocked => "BLOCKED"
  | .dropped => "DROPPED"

def nonRankableTruthStatuses : List CandidateTruthStatus := [.malformed, .synthetic, .unknown]

structure OpportunityRecord where
  candidateId : String
  symbol : Option String
  strategyId : Option String
  setupFamily : Option String
  truthStatus : String
  opportunityStatus : OpportunityStatus
  rankScore : PyFloat
  rank : Option Int
  selected : Bool
  blockers : List String
  warnings : List String
  provenance : PyDict
  candidateTruth : PyDict

def OpportunityRecord.toDict (row : OpportunityRecord) : PyDict :=
  [("candidate_id", .str row.candidateId), ("symbol", ofOptionString row.symbol),
    ("strategy_id", ofOptionString row.strategyId),
    ("setup_family", ofOptionString row.setupFamily), ("truth_status", .str row.truthStatus),
    ("opportunity_status", .str row.opportunityStatus.value),
    ("rank_score", .float row.rankScore), ("rank", ofOptionInt row.rank),
    ("selected", .bool row.selected), ("blockers", ofStrings row.blockers),
    ("warnings", ofStrings row.warnings), ("provenance", .dict row.provenance),
    ("candidate_truth", .dict row.candidateTruth), ("is_execution_decision", .bool false)]

/-- The value that a record is scored by: `None` sends the reading on, zero only in the raw
fields. -/
def scoreValue (record : CandidateTruthRecord) : PyValue :=
  let score := PyDict.get record.normalized "score"
  let confidence := PyDict.get record.normalized "confidence"
  if !score.isNone then score
  else if !confidence.isNone then confidence
  else firstOf record.raw ["score", "final_score", "rank_score", "confidence"]

/-- `_base_score`. -/
def baseScore (record : CandidateTruthRecord) : PyFloat :=
  (toFloat (scoreValue record)).toOption.getD (.finite 0)

/-- `_make_opportunity_record`. No caller asks for a selected record. -/
def makeOpportunityRecord (record : CandidateTruthRecord) (status : OpportunityStatus)
    (rankScore : PyFloat) (rank : Option Int) (extraBlockers : List String) : OpportunityRecord :=
  { candidateId := record.candidateId
    symbol := record.symbol
    strategyId := record.strategyId
    setupFamily := record.setupFamily
    truthStatus := record.truthStatus.value
    opportunityStatus := status
    rankScore := rankScore
    rank := rank
    selected := false
    blockers := record.blockers ++ extraBlockers
    warnings := record.warnings
    provenance := record.provenance
    candidateTruth := record.toDict }

/-! ### Survival -/

structure Survival where
  rankable : List CandidateTruthRecord := []
  blocked : List OpportunityRecord := []
  dropped : List OpportunityRecord := []

/-- One turn of the loop of `_classify_survival`. -/
def Survival.add (survival : Survival) (record : CandidateTruthRecord) : Survival :=
  if record.truthStatus ∈ nonRankableTruthStatuses then
    { survival with
      dropped := survival.dropped ++
        [makeOpportunityRecord record .dropped (.finite 0) none
          ["NON_RANKABLE_TRUTH_STATUS:" ++ record.truthStatus.value]] }
  else if record.blockers ≠ [] then
    { survival with
      blocked := survival.blocked ++
        [makeOpportunityRecord record .blocked (baseScore record) none []] }
  else { survival with rankable := survival.rankable ++ [record] }

/-- `_classify_survival`. -/
def classifySurvival (records : List CandidateTruthRecord) : Survival :=
  records.foldl Survival.add {}

def CandidateTruthRecord.isRankable (record : CandidateTruthRecord) : Bool :=
  decide (record.truthStatus ∉ nonRankableTruthStatuses) && record.blockers.isEmpty

theorem isRankable_eq_true (record : CandidateTruthRecord) :
    record.isRankable = true ↔
      record.truthStatus ∉ nonRankableTruthStatuses ∧ record.blockers = [] := by
  simp [CandidateTruthRecord.isRankable]

theorem Survival.add_rankable (survival : Survival) (record : CandidateTruthRecord) :
    (survival.add record).rankable =
      survival.rankable ++ if record.isRankable then [record] else [] := by
  by_cases dropped : record.truthStatus ∈ nonRankableTruthStatuses
  · simp [Survival.add, CandidateTruthRecord.isRankable, dropped]
  · by_cases blocked : record.blockers = []
    · simp [Survival.add, CandidateTruthRecord.isRankable, dropped, blocked]
    · simp [Survival.add, CandidateTruthRecord.isRankable, dropped, blocked]

theorem classifySurvival_rankable (records : List CandidateTruthRecord) :
    (classifySurvival records).rankable = records.filter CandidateTruthRecord.isRankable := by
  induction records using List.reverseRecOn with
  | nil => rfl
  | append_singleton records record ih =>
      have step : classifySurvival (records ++ [record]) = (classifySurvival records).add record :=
        List.foldl_concat ..
      rw [step, Survival.add_rankable, ih, List.filter_append]
      cases kept : record.isRankable <;> simp [kept]

/-! ### The run -/

structure OpportunityLayerResult where
  status : String
  reason : Option String
  counts : PyDict
  selected : Option OpportunityRecord
  ranked : List OpportunityRecord
  blocked : List OpportunityRecord
  dropped : List OpportunityRecord
  diagnostics : PyDict

def ScoredBefore (first second : CandidateTruthRecord) : Prop :=
  (baseScore second).le (baseScore first) = true

instance : DecidableRel ScoredBefore := fun _ _ => inferInstanceAs (Decidable (_ = true))

def rankedRecords (rank : Int) : List CandidateTruthRecord → List OpportunityRecord
  | [] => []
  | record :: rest =>
      makeOpportunityRecord record .ranked (baseScore record) (some rank) [] ::
        rankedRecords (rank + 1) rest

def OpportunityRecord.asSelected (top : OpportunityRecord) : OpportunityRecord :=
  { top with opportunityStatus := .selected, selected := true }

def countReason (counts : List (String × Int)) (reason : String) : List (String × Int) :=
  Assoc.set counts reason ((counts.lookup reason).getD 0 + 1)

def reasonsOf (row : OpportunityRecord) : List String :=
  if row.blockers.isEmpty then [row.opportunityStatus.value] else row.blockers

/-- `_reason_counts`. -/
def reasonCounts (rows : List OpportunityRecord) : List (String × Int) :=
  (rows.flatMap reasonsOf).foldl countReason []

def countsDict (counts : List (String × Int)) : PyDict :=
  Assoc.mapValues PyValue.int counts

def layerStatus (rawCount rankedCount : Nat) : String × Option String :=
  if rawCount = 0 then ("NO_CANDIDATES", some "raw_count=0")
  else if rankedCount = 0 then ("NO_RANKABLE_CANDIDATES", some "no_execution_candidates")
  else ("OPPORTUNITIES_AVAILABLE", none)

/-- What `run_opportunity_pipeline` makes of the normalized candidates. -/
def layerResult (records : List CandidateTruthRecord) (source : String) (selectTop : Bool) :
    OpportunityLayerResult :=
  let survival := classifySurvival records
  let ranked := rankedRecords 1 (survival.rankable.insertionSort ScoredBefore)
  let selected := if selectTop then ranked.head?.map OpportunityRecord.asSelected else none
  { status := (layerStatus records.length ranked.length).1
    reason := (layerStatus records.length ranked.length).2
    counts :=
      [("raw_count", .int records.length), ("truth_count", .int records.length),
        ("rankable_count", .int survival.rankable.length),
        ("ranked_count", .int ranked.length), ("blocked_count", .int survival.blocked.length),
        ("dropped_count", .int survival.dropped.length),
        ("selected_count", .int selected.toList.length)]
    selected := selected
    ranked := ranked
    blocked := survival.blocked
    dropped := survival.dropped
    diagnostics :=
      [("pipeline", .str "normalize -> classify -> rank -> select -> emit"),
        ("source", .str source),
        ("blocked_reasons", .dict (countsDict (reasonCounts survival.blocked))),
        ("dropped_reasons", .dict (countsDict (reasonCounts survival.dropped)))] }

/-- `run_opportunity_pipeline`. There are as many records as candidates. -/
def runOpportunityPipeline (candidates : List RawCandidate) (source : String)
    (selectTop : Bool) : Except PyError OpportunityLayerResult := do
  let records ← normalizeCandidates candidates source
  pure (layerResult records source selectTop)

/-! ### What is ranked -/

theorem mem_rankedRecords {rank : Int} {records : List CandidateTruthRecord}
    {row : OpportunityRecord} (member : row ∈ rankedRecords rank records) :
    ∃ record ∈ records, ∃ own,
      row = makeOpportunityRecord record .ranked (baseScore record) (some own) [] := by
  induction records generalizing rank with
  | nil => cases member
  | cons record rest ih =>
      rcases List.mem_cons.mp member with here | later
      · exact ⟨record, List.mem_cons_self, rank, here⟩
      · obtain ⟨other, inRest, own, made⟩ := ih later
        exact ⟨other, List.mem_cons_of_mem _ inRest, own, made⟩

theorem exists_rankedRecords {rank : Int} {records : List CandidateTruthRecord}
    (member : record ∈ records) :
    ∃ own, makeOpportunityRecord record .ranked (baseScore record) (some own) [] ∈
      rankedRecords rank records := by
  induction records generalizing rank with
  | nil => cases member
  | cons head rest ih =>
      rcases List.mem_cons.mp member with here | later
      · rw [here]
        exact ⟨rank, List.mem_cons_self⟩
      · obtain ⟨own, found⟩ := @ih (rank + 1) later
        exact ⟨own, List.mem_cons_of_mem _ found⟩

variable {records : List CandidateTruthRecord} {source : String} {selectTop : Bool}
  {row : OpportunityRecord}

theorem rankable_of_ranked (member : row ∈ (layerResult records source selectTop).ranked) :
    ∃ record ∈ records, record.isRankable = true ∧ ∃ rank,
      row = makeOpportunityRecord record .ranked (baseScore record) (some rank) [] := by
  obtain ⟨record, sorted, rank, made⟩ := mem_rankedRecords member
  have inRankable := (List.perm_insertionSort _ _).mem_iff.mp sorted
  rw [classifySurvival_rankable] at inRankable
  obtain ⟨inRecords, rankable⟩ := List.mem_filter.mp inRankable
  exact ⟨record, inRecords, rankable, rank, made⟩

theorem ranked_of_rankable (member : record ∈ records) (rankable : record.isRankable = true) :
    ∃ rank, makeOpportunityRecord record .ranked (baseScore record) (some rank) [] ∈
      (layerResult records source selectTop).ranked := by
  apply exists_rankedRecords
  apply (List.perm_insertionSort _ _).mem_iff.mpr
  rw [classifySurvival_rankable]
  exact List.mem_filter.mpr ⟨member, rankable⟩

theorem ranked_of_selected (chosen : (layerResult records source selectTop).selected = some row) :
    ∃ top ∈ (layerResult records source selectTop).ranked, row = top.asSelected := by
  have picked : (if selectTop then
      (layerResult records source selectTop).ranked.head?.map OpportunityRecord.asSelected
      else none) = some row := chosen
  split at picked
  · obtain ⟨top, first, made⟩ := Option.map_eq_some_iff.mp picked
    exact ⟨top, List.mem_of_head? first, made.symm⟩
  · cases picked

end Algotradify.Candidates
