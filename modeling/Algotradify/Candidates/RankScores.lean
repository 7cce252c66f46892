/-
Ranking by the candidates' own scores.

A score of zero counts as false, so the reading goes on to the other fields of the candidate,
and a dropped candidate is given no score at all. Everything else about the ranking holds of
all candidates whose scores are numbers: each of them is in one place, the places are counted,
and the ranking descends.
-/

import Mathlib.Data.List.Perm.Basic
import Algotradify.Candidates.Flags
import Algotradify.Sorting.Stable

namespace Algotradify.Candidates

open Py Execution

variable {value left : PyValue}

/-! ### Numeric fields -/

def fieldNumber : PyValue → Option ℚ
  | .int number => some number
  | .float (.finite number) => some number
  | _ => none

def Numeric (value : PyValue) : Prop :=
  value = .none ∨ ∃ number, fieldNumber value = some number

def scoreKeys : List String := ["score", "final_score", "rank_score", "confidence"]

def NumericScores (raw : PyDict) : Prop :=
  ∀ key ∈ scoreKeys, Numeric (PyDict.get raw key)

theorem truthy_of_number {number : ℚ} (own : fieldNumber value = some number) :
    value.truthy = true ↔ number ≠ 0 := by
  cases value with
  | int integer =>
      cases own
      simp [PyValue.truthy]
  | float float =>
      cases float with
      | finite rational =>
          cases own
          simp [PyValue.truthy, PyFloat.truthy]
      | nan | posInf | negInf => cases own
  | none | bool | str | list | dict => cases own

theorem toFloat_of_number {number : ℚ} (own : fieldNumber value = some number) :
    toFloat value = .ok (.finite number) := by
  cases value with
  | int integer =>
      cases own
      rfl
  | float float =>
      cases float with
      | finite rational =>
          cases own
          rfl
      | nan | posInf | negInf => cases own
  | none | bool | str | list | dict => cases own

theorem Numeric.or {right : PyValue} (ofLeft : Numeric left) (ofRight : Numeric right) :
    Numeric (left.or right) := by
  unfold PyValue.or
  split
  · exact ofLeft
  · exact ofRight

theorem numeric_firstOf {raw : PyDict} {keys : List String}
    (numeric : ∀ key ∈ keys, Numeric (PyDict.get raw key)) : Numeric (firstOf raw keys) := by
  induction keys using List.reverseRecOn with
  | nil => exact .inl rfl
  | append_singleton keys key ih =>
      have step : firstOf raw (keys ++ [key]) = (firstOf raw keys).or (PyDict.get raw key) :=
        List.foldl_concat ..
      rw [step]
      exact Numeric.or (ih fun other member => numeric other (List.mem_append_left _ member))
        (numeric key (List.mem_append_right _ (List.mem_singleton_self key)))

theorem or_of_truthy (right : PyValue) (given : left.truthy = true) :
    left.or right = left := if_pos given

theorem or_of_not_truthy (right : PyValue) (lacks : left.truthy = false) :
    left.or right = right := by
  unfold PyValue.or
  rw [lacks]
  rfl

/-! ### The score of a record -/

section Score

variable {record : CandidateTruthRecord} {raw : PyDict}

/-- What `_base_score` reads of the record of a raw candidate. -/
def scoredBy (raw : PyDict) : PyValue :=
  let score := firstOf raw ["score", "final_score", "rank_score"]
  if !score.isNone then score
  else if !(PyDict.get raw "confidence").isNone then PyDict.get raw "confidence"
  else firstOf raw scoreKeys

theorem scoreValue_eq (normalized : record.normalized = normalizedFields record.raw) :
    scoreValue record = scoredBy record.raw := by
  have score : PyDict.get (normalizedFields record.raw) "score" =
      firstOf record.raw ["score", "final_score", "rank_score"] := by
    simp [PyDict.get, normalizedFields, List.lookup_cons]
  have confidence : PyDict.get (normalizedFields record.raw) "confidence" =
      PyDict.get record.raw "confidence" := by
    simp [PyDict.get, normalizedFields, List.lookup_cons]
  unfold scoreValue scoredBy
  rw [normalized, score, confidence]
  rfl

theorem numeric_scoredBy (numeric : NumericScores raw) : Numeric (scoredBy raw) := by
  unfold scoredBy
  dsimp only
  split
  · apply numeric_firstOf
    intro key member
    exact numeric key (by unfold scoreKeys; simp_all; tauto)
  · split
    · exact numeric "confidence" (by decide)
    · exact numeric_firstOf numeric

theorem baseScore_finite (normalized : record.normalized = normalizedFields record.raw)
    (numeric : NumericScores record.raw) :
    baseScore record = .finite ((fieldNumber (scoredBy record.raw)).getD 0) := by
  unfold baseScore
  rw [scoreValue_eq normalized]
  rcases numeric_scoredBy numeric with none | ⟨number, own⟩
  · rw [none]
    rfl
  · rw [toFloat_of_number own, own]
    rfl

/-- No other field of a candidate with the score zero says anything else. -/
def NothingFurther (raw : PyDict) : Prop :=
  (PyDict.get raw "final_score").truthy = false ∧ (PyDict.get raw "rank_score").truthy = false ∧
    ((PyDict.get raw "rank_score").isNone = true → (PyDict.get raw "confidence").truthy = false)

theorem numberOr0_of_not_truthy (numeric : Numeric value) :
    (fieldNumber value).getD 0 = 0 ↔ value.truthy = false := by
  rcases numeric with rfl | ⟨number, own⟩
  · exact iff_of_true rfl rfl
  · rw [own, Option.getD_some, Bool.eq_false_iff, ne_eq, truthy_of_number own, not_not]

theorem scoredBy_of_zero (zero : (PyDict.get raw "score").truthy = false) :
    scoredBy raw =
      if (PyDict.get raw "final_score").truthy then PyDict.get raw "final_score"
      else if !(PyDict.get raw "rank_score").isNone then PyDict.get raw "rank_score"
      else PyDict.get raw "confidence" := by
  have first : PyValue.none.or (PyDict.get raw "score") = PyDict.get raw "score" := rfl
  have three : firstOf raw ["score", "final_score", "rank_score"] =
      (PyDict.get raw "final_score").or (PyDict.get raw "rank_score") := by
    simp only [firstOf, List.foldl_cons, List.foldl_nil]
    rw [first, or_of_not_truthy _ zero]
  have four : firstOf raw scoreKeys =
      (firstOf raw ["score", "final_score", "rank_score"]).or (PyDict.get raw "confidence") := rfl
  unfold scoredBy
  rw [four, three]
  by_cases final : (PyDict.get raw "final_score").truthy = true
  · have present : (PyDict.get raw "final_score").isNone = false := by
      cases found : PyDict.get raw "final_score" with
      | none =>
          rw [found] at final
          cases final
      | bool | int | float | str | list | dict => rfl
    simp only [or_of_truthy _ final, present, final, Bool.not_false, if_true]
  · have lacks := Bool.eq_false_iff.mpr final
    simp only [or_of_not_truthy _ lacks, lacks, Bool.false_eq_true, if_false]
    cases found : PyDict.get raw "rank_score" with
    | none =>
        have empty : PyValue.none.or (PyDict.get raw "confidence") = PyDict.get raw "confidence" :=
          rfl
        cases confidence : PyDict.get raw "confidence" <;>
          simp [PyValue.isNone, PyValue.or, PyValue.truthy]
    | bool | int | float | str | list | dict => rfl

/-- A score is read as it is, unless it is zero and another field is read in its place. -/
theorem scoredBy_eq_score_iff (numeric : NumericScores raw) {number : ℚ}
    (own : fieldNumber (PyDict.get raw "score") = some number) :
    (fieldNumber (scoredBy raw)).getD 0 = number ↔ number ≠ 0 ∨ NothingFurther raw := by
  by_cases zero : number = 0
  · have lacks : (PyDict.get raw "score").truthy = false := by
      rw [Bool.eq_false_iff, ne_eq, truthy_of_number own, not_not]
      exact zero
    rw [scoredBy_of_zero lacks, zero]
    unfold NothingFurther
    have ofFinal := numberOr0_of_not_truthy (numeric "final_score" (by decide))
    have ofRank := numberOr0_of_not_truthy (numeric "rank_score" (by decide))
    have ofConfidence := numberOr0_of_not_truthy (numeric "confidence" (by decide))
    by_cases final : (PyDict.get raw "final_score").truthy = true
    · rw [if_pos final, ofFinal]
      simp [final]
    · rw [if_neg final]
      by_cases absent : (PyDict.get raw "rank_score").isNone = true
      · have lacksRank : (PyDict.get raw "rank_score").truthy = false := by
          cases found : PyDict.get raw "rank_score" with
          | none => rfl
          | bool | int | float | str | list | dict =>
              rw [found] at absent
              cases absent
        simp [absent, final, lacksRank, ofConfidence]
      · simp [absent, final, ofRank]
  · have given : (PyDict.get raw "score").truthy = true := (truthy_of_number own).mpr zero
    have present : (PyDict.get raw "score").isNone = false := by
      cases found : PyDict.get raw "score" with
      | none =>
          rw [found] at own
          cases own
      | bool | int | float | str | list | dict => rfl
    have first : firstOf raw ["score", "final_score", "rank_score"] = PyDict.get raw "score" := by
      have start : PyValue.none.or (PyDict.get raw "score") = PyDict.get raw "score" := rfl
      simp only [firstOf, List.foldl_cons, List.foldl_nil]
      rw [start, or_of_truthy _ given, or_of_truthy _ given]
    unfold scoredBy
    simp [first, present, own, zero]

end Score

/-! ### Where the records go -/

def CandidateTruthRecord.isDropped (record : CandidateTruthRecord) : Bool :=
  decide (record.truthStatus ∈ nonRankableTruthStatuses)

def CandidateTruthRecord.isBlocked (record : CandidateTruthRecord) : Bool :=
  !record.isDropped && !record.blockers.isEmpty

def droppedRow (record : CandidateTruthRecord) : OpportunityRecord :=
  makeOpportunityRecord record .dropped (.finite 0) none
    ["NON_RANKABLE_TRUTH_STATUS:" ++ record.truthStatus.value]

def blockedRow (record : CandidateTruthRecord) : OpportunityRecord :=
  makeOpportunityRecord record .blocked (baseScore record) none []

theorem classifySurvival_rows (records : List CandidateTruthRecord) :
    (classifySurvival records).blocked =
        (records.filter CandidateTruthRecord.isBlocked).map blockedRow ∧
      (classifySurvival records).dropped =
        (records.filter CandidateTruthRecord.isDropped).map droppedRow := by
  induction records using List.reverseRecOn with
  | nil => exact ⟨rfl, rfl⟩
  | append_singleton records record ih =>
      obtain ⟨blocked, dropped⟩ := ih
      have step : classifySurvival (records ++ [record]) = (classifySurvival records).add record :=
        List.foldl_concat ..
      rw [step, List.filter_append, List.map_append, List.filter_append, List.map_append,
        ← blocked, ← dropped]
      unfold Survival.add
      by_cases drop : record.truthStatus ∈ nonRankableTruthStatuses
      · simp [drop, CandidateTruthRecord.isDropped, CandidateTruthRecord.isBlocked, droppedRow]
      · by_cases free : record.blockers = []
        · simp [drop, free, CandidateTruthRecord.isDropped, CandidateTruthRecord.isBlocked]
        · simp [drop, free, CandidateTruthRecord.isDropped, CandidateTruthRecord.isBlocked,
            blockedRow]

theorem kinds_perm (records : List CandidateTruthRecord) :
    (records.filter CandidateTruthRecord.isRankable ++
      records.filter CandidateTruthRecord.isBlocked ++
      records.filter CandidateTruthRecord.isDropped).Perm records := by
  induction records with
  | nil => exact .nil
  | cons record rest ih =>
      by_cases drop : record.truthStatus ∈ nonRankableTruthStatuses
      · have last : (record :: rest).filter CandidateTruthRecord.isDropped =
            record :: rest.filter CandidateTruthRecord.isDropped := by
          simp [CandidateTruthRecord.isDropped, drop]
        rw [last, List.filter_cons_of_neg (by simp [CandidateTruthRecord.isRankable, drop]),
          List.filter_cons_of_neg (by
            simp [CandidateTruthRecord.isBlocked, CandidateTruthRecord.isDropped, drop])]
        exact List.perm_middle.trans (ih.cons record)
      · rw [List.filter_cons_of_neg (p := CandidateTruthRecord.isDropped)
          (by simp [CandidateTruthRecord.isDropped, drop])]
        by_cases free : record.blockers = []
        · rw [List.filter_cons_of_pos (by simp [CandidateTruthRecord.isRankable, drop, free]),
            List.filter_cons_of_neg (by simp [CandidateTruthRecord.isBlocked, free])]
          exact ih.cons record
        · rw [List.filter_cons_of_neg (by simp [CandidateTruthRecord.isRankable, free]),
            List.filter_cons_of_pos (by
              simp [CandidateTruthRecord.isBlocked, CandidateTruthRecord.isDropped, drop, free]),
            List.append_assoc, List.cons_append]
          rw [List.append_assoc] at ih
          exact List.perm_middle.trans (ih.cons record)

theorem ranks_rankedRecords (rank : Int) (records : List CandidateTruthRecord) :
    (rankedRecords rank records).map OpportunityRecord.rank =
      (List.range records.length).map fun index : ℕ => some (rank + (index : ℤ)) := by
  induction records generalizing rank with
  | nil => rfl
  | cons record rest ih =>
      rw [rankedRecords, List.map_cons, ih, List.length_cons, List.range_succ_eq_map,
        List.map_cons, List.map_map]
      refine congrArg₂ List.cons (by simp [makeOpportunityRecord]) ?_
      apply List.map_congr_left
      intro index _
      simp only [Function.comp_apply, Option.some.injEq]
      omega

theorem map_rankedRecords {α : Type} (rank : Int) (records : List CandidateTruthRecord)
    (read : OpportunityRecord → α) (own : CandidateTruthRecord → α)
    (reads : ∀ record place, read (makeOpportunityRecord record .ranked (baseScore record) place [])
      = own record) :
    (rankedRecords rank records).map read = records.map own := by
  induction records generalizing rank with
  | nil => rfl
  | cons record rest ih => rw [rankedRecords, List.map_cons, List.map_cons, ih, reads]

theorem length_rankedRecords (rank : Int) (records : List CandidateTruthRecord) :
    (rankedRecords rank records).length = records.length := by
  induction records generalizing rank with
  | nil => rfl
  | cons record rest ih => rw [rankedRecords, List.length_cons, List.length_cons, ih]

/-! ### The claim -/

def OpportunityRecord.rawFields (row : OpportunityRecord) : PyValue :=
  PyDict.get row.candidateTruth "raw"

def OpportunityLayerResult.rows (result : OpportunityLayerResult) : List OpportunityRecord :=
  result.ranked ++ result.blocked ++ result.dropped

structure RankedByScore (candidates : List RawCandidate) (selectTop : Bool)
    (result : OpportunityLayerResult) : Prop where
  placed : ∃ raws, candidates.mapM RawCandidate.asDict = .ok raws ∧
    (result.rows.map OpportunityRecord.rawFields).Perm (raws.map PyValue.dict)
  counts : result.counts =
    [("raw_count", .int candidates.length), ("truth_count", .int candidates.length),
      ("rankable_count", .int result.ranked.length), ("ranked_count", .int result.ranked.length),
      ("blocked_count", .int result.blocked.length),
      ("dropped_count", .int result.dropped.length),
      ("selected_count", .int result.selected.toList.length)]
  ranks : result.ranked.map OpportunityRecord.rank =
    (List.range result.ranked.length).map fun index : ℕ => some (1 + (index : ℤ))
  scored : ∀ row ∈ result.rows, ∀ raw, row.rawFields = .dict raw → ∀ number,
    fieldNumber (PyDict.get raw "score") = some number → row.rankScore = .finite number
  descending : result.ranked.Pairwise fun first second =>
    second.rankScore.le first.rankScore = true
  selected : result.selected =
    if selectTop then result.ranked.head?.map OpportunityRecord.asSelected else none

def scoreGiven (raw : PyDict) : PyFloat :=
  if classify raw (blockersOf raw) ∈ nonRankableTruthStatuses then .finite 0
  else .finite ((fieldNumber (scoredBy raw)).getD 0)

def ScoreKept (raw : PyDict) : Prop :=
  ∀ number, fieldNumber (PyDict.get raw "score") = some number →
    if classify raw (blockersOf raw) ∈ nonRankableTruthStatuses then number = 0
    else number ≠ 0 ∨ NothingFurther raw

theorem scoreKept_iff {raw : PyDict} (numeric : NumericScores raw) :
    ScoreKept raw ↔ ∀ number, fieldNumber (PyDict.get raw "score") = some number →
      scoreGiven raw = .finite number := by
  unfold ScoreKept scoreGiven
  constructor
  · intro kept number own
    have holds := kept number own
    split at holds
    · next dropped => rw [if_pos dropped, holds]
    · next ranked => rw [if_neg ranked, (scoredBy_eq_score_iff numeric own).mpr holds]
  · intro given number own
    have same := given number own
    split
    · next dropped =>
        rw [if_pos dropped] at same
        exact (PyFloat.finite.inj same).symm
    · next ranked =>
        rw [if_neg ranked] at same
        exact (scoredBy_eq_score_iff numeric own).mp (PyFloat.finite.inj same)

section Rows

variable {candidates : List RawCandidate} {source : String} {selectTop : Bool}
  {records : List CandidateTruthRecord}

structure RecordsOf (records : List CandidateTruthRecord) : Prop where
  normalized : ∀ record ∈ records, record.normalized = normalizedFields record.raw
  status : ∀ record ∈ records, record.truthStatus = classify record.raw (blockersOf record.raw)
  numeric : ∀ record ∈ records, NumericScores record.raw

theorem rankScore_of_mem (of : RecordsOf records) {row : OpportunityRecord}
    (member : row ∈ (layerResult records source selectTop).rows) {raw : PyDict}
    (own : row.rawFields = .dict raw) : row.rankScore = scoreGiven raw := by
  have based : ∀ record ∈ records, record.truthStatus ∉ nonRankableTruthStatuses →
      baseScore record = scoreGiven record.raw := by
    intro record inRecords ranked
    unfold scoreGiven
    rw [← of.status record inRecords, if_neg ranked,
      baseScore_finite (of.normalized record inRecords) (of.numeric record inRecords)]
  unfold OpportunityLayerResult.rows at member
  rcases List.mem_append.mp member with front | dropped
  · rcases List.mem_append.mp front with ranked | blocked
    · obtain ⟨record, inRecords, rankable, rank, made⟩ := rankable_of_ranked ranked
      rw [made] at own ⊢
      cases PyValue.dict.inj own
      exact based record inRecords ((isRankable_eq_true record).mp rankable).1
    · have rows := (classifySurvival_rows records).1
      have listed : row ∈ (classifySurvival records).blocked := blocked
      rw [rows] at listed
      obtain ⟨record, kept, made⟩ := List.mem_map.mp listed
      obtain ⟨inRecords, kind⟩ := List.mem_filter.mp kept
      rw [← made] at own ⊢
      cases PyValue.dict.inj own
      apply based record inRecords
      unfold CandidateTruthRecord.isBlocked CandidateTruthRecord.isDropped at kind
      simpa using ((Bool.and_eq_true ..).mp kind).1
  · have rows := (classifySurvival_rows records).2
    have listed : row ∈ (classifySurvival records).dropped := dropped
    rw [rows] at listed
    obtain ⟨record, kept, made⟩ := List.mem_map.mp listed
    obtain ⟨inRecords, kind⟩ := List.mem_filter.mp kept
    rw [← made] at own ⊢
    cases PyValue.dict.inj own
    unfold scoreGiven
    rw [← of.status record inRecords, if_pos (of_decide_eq_true kind)]
    rfl

theorem rows_perm (records : List CandidateTruthRecord) (source : String) (selectTop : Bool) :
    ((layerResult records source selectTop).rows.map OpportunityRecord.rawFields).Perm
      (records.map fun record => .dict record.raw) := by
  have ranked : (layerResult records source selectTop).ranked.map OpportunityRecord.rawFields =
      ((classifySurvival records).rankable.insertionSort ScoredBefore).map
        fun record => .dict record.raw :=
    map_rankedRecords 1 _ _ _ fun _ _ => rfl
  have blocked : (layerResult records source selectTop).blocked.map OpportunityRecord.rawFields =
      (records.filter CandidateTruthRecord.isBlocked).map fun record => .dict record.raw := by
    change (classifySurvival records).blocked.map OpportunityRecord.rawFields = _
    rw [(classifySurvival_rows records).1, List.map_map]
    rfl
  have dropped : (layerResult records source selectTop).dropped.map OpportunityRecord.rawFields =
      (records.filter CandidateTruthRecord.isDropped).map fun record => .dict record.raw := by
    change (classifySurvival records).dropped.map OpportunityRecord.rawFields = _
    rw [(classifySurvival_rows records).2, List.map_map]
    rfl
  unfold OpportunityLayerResult.rows
  rw [List.map_append, List.map_append, ranked, blocked, dropped, classifySurvival_rankable]
  have sorted := List.perm_insertionSort ScoredBefore
    (records.filter CandidateTruthRecord.isRankable)
  have joined := ((sorted.append_right _).append_right _).trans (kinds_perm records)
  rw [← List.map_append, ← List.map_append]
  exact joined.map _

def rankNumber (record : CandidateTruthRecord) : ℚ :=
  (fieldNumber (scoredBy record.raw)).getD 0

theorem ranked_descending (of : RecordsOf records) :
    (layerResult records source selectTop).ranked.Pairwise fun first second =>
      second.rankScore.le first.rankScore = true := by
  have rankable : (classifySurvival records).rankable =
      records.filter CandidateTruthRecord.isRankable := classifySurvival_rankable records
  have score : ∀ record ∈ records, baseScore record = .finite (rankNumber record) :=
    fun record member => baseScore_finite (of.normalized record member) (of.numeric record member)
  have descends : Sorting.DescendsBy ScoredBefore rankNumber (classifySurvival records).rankable := by
    rw [rankable]
    intro first inFirst second inSecond
    unfold ScoredBefore
    rw [score first (List.mem_of_mem_filter inFirst), score second (List.mem_of_mem_filter inSecond),
      PyFloat.finite_le]
  have sorted : (((classifySurvival records).rankable.insertionSort ScoredBefore).map
      baseScore).Pairwise fun first second => second.le first = true := by
    apply List.pairwise_map.mpr
    apply descends.sorted.imp_of_mem
    intro first second inFirst inSecond below
    have among : ∀ record ∈ (classifySurvival records).rankable.insertionSort ScoredBefore,
        record ∈ records := by
      intro record member
      have kept := (List.perm_insertionSort _ _).mem_iff.mp member
      rw [rankable] at kept
      exact List.mem_of_mem_filter kept
    rw [score first (among first inFirst), score second (among second inSecond), PyFloat.finite_le]
    exact below
  rw [← map_rankedRecords 1 _ OpportunityRecord.rankScore baseScore fun _ _ => rfl] at sorted
  exact List.pairwise_map.mp sorted

theorem exists_normalizeCandidate_iff {candidate : RawCandidate} :
    (∃ record, normalizeCandidate candidate source = .ok record) ↔
      ∃ raw, candidate.asDict = .ok raw ∧
        ∃ provenance, mappingOf ((PyDict.get raw "provenance").or (.dict [])) = .ok provenance := by
  constructor
  · rintro ⟨record, ran⟩
    unfold normalizeCandidate at ran
    obtain ⟨raw, read, ran⟩ := bind_eq_ok.mp ran
    obtain ⟨provenance, mapped, _⟩ := bind_eq_ok.mp ran
    exact ⟨raw, read, provenance, mapped⟩
  · rintro ⟨raw, read, provenance, mapped⟩
    unfold normalizeCandidate
    exact ⟨_, bind_eq_ok.mpr ⟨raw, read, bind_eq_ok.mpr ⟨provenance, mapped, rfl⟩⟩⟩

theorem mapM_asDict (ran : normalizeCandidates candidates source = .ok records) :
    candidates.mapM RawCandidate.asDict = .ok (records.map CandidateTruthRecord.raw) := by
  unfold normalizeCandidates at ran
  induction candidates generalizing records with
  | nil =>
      cases ran
      rfl
  | cons candidate rest ih =>
      rw [List.mapM_cons] at ran
      obtain ⟨record, first, ran⟩ := bind_eq_ok.mp ran
      obtain ⟨others, later, joined⟩ := bind_eq_ok.mp ran
      cases joined
      rw [List.mapM_cons, (normalizes_of_normalizeCandidate first).read, ih later]
      rfl

def NumericCandidates (candidates : List RawCandidate) : Prop :=
  ∀ candidate ∈ candidates, ∀ raw, candidate.asDict = .ok raw → NumericScores raw

theorem recordsOf_run (numeric : NumericCandidates candidates)
    (ran : normalizeCandidates candidates source = .ok records) : RecordsOf records := by
  refine ⟨?_, ?_, ?_⟩
  · intro record member
    obtain ⟨candidate, _, normalizes⟩ := normalizes_of_mem ran member
    exact normalizes.normalized
  · intro record member
    obtain ⟨candidate, _, normalizes⟩ := normalizes_of_mem ran member
    exact normalizes.status
  · intro record member
    obtain ⟨candidate, given, normalizes⟩ := normalizes_of_mem ran member
    exact numeric candidate given record.raw normalizes.read

theorem rankedByScore_of_kept (numeric : NumericCandidates candidates)
    (ran : normalizeCandidates candidates source = .ok records)
    (kept : ∀ record ∈ records, ScoreKept record.raw) :
    RankedByScore candidates selectTop (layerResult records source selectTop) := by
  have of := recordsOf_run numeric ran
  have perm := rows_perm records source selectTop
  have lengths : records.length = candidates.length := length_of_mapM ran
  have rankable : (layerResult records source selectTop).ranked.length =
      (classifySurvival records).rankable.length := by
    change (rankedRecords 1 _).length = _
    rw [length_rankedRecords, List.length_insertionSort]
  refine ⟨⟨_, mapM_asDict ran, ?_⟩, ?_, ?_, ?_, ranked_descending of, rfl⟩
  · rw [List.map_map]
    exact perm
  · rw [rankable, ← lengths]
    unfold layerResult
    dsimp only
    rw [length_rankedRecords, List.length_insertionSort]
  · have length : (layerResult records source selectTop).ranked.length =
        ((classifySurvival records).rankable.insertionSort ScoredBefore).length := by
      rw [rankable, List.length_insertionSort]
    rw [length]
    exact ranks_rankedRecords 1 _
  · intro row member raw own number score
    obtain ⟨record, inRecords, same⟩ :=
      List.mem_map.mp (perm.mem_iff.mp (List.mem_map_of_mem member))
    cases PyValue.dict.inj (same.trans own)
    rw [rankScore_of_mem of member own]
    exact (scoreKept_iff (of.numeric record inRecords)).mp (kept record inRecords) number score

/-- A run ranks by the own scores exactly if every candidate can be read and its score is
kept. -/
theorem rankedByScore_iff (candidates : List RawCandidate) (source : String) (selectTop : Bool)
    (numeric : NumericCandidates candidates) :
    (∃ result, runOpportunityPipeline candidates source selectTop = .ok result ∧
        RankedByScore candidates selectTop result) ↔
      ∀ candidate ∈ candidates, ∃ raw, candidate.asDict = .ok raw ∧
        (∃ provenance, mappingOf ((PyDict.get raw "provenance").or (.dict [])) = .ok provenance) ∧
        ScoreKept raw := by
  constructor
  · rintro ⟨result, ran, fair⟩ candidate given
    obtain ⟨records, normalized, made⟩ := bind_eq_ok.mp ran
    cases made
    obtain ⟨record, inRecords, own⟩ := exists_of_mapM_mem normalized candidate given
    obtain ⟨raw, read, provenance⟩ := exists_normalizeCandidate_iff.mp ⟨record, own⟩
    refine ⟨raw, read, provenance, ?_⟩
    have of := recordsOf_run numeric normalized
    rw [scoreKept_iff (numeric candidate given raw read)]
    intro number score
    have isRaw : record.raw = raw :=
      Except.ok.inj ((normalizes_of_normalizeCandidate own).read.symm.trans read)
    have listed : PyValue.dict raw ∈
        (layerResult records source selectTop).rows.map OpportunityRecord.rawFields := by
      apply (rows_perm records source selectTop).mem_iff.mpr
      rw [← isRaw]
      exact List.mem_map_of_mem inRecords
    obtain ⟨row, member, repeats⟩ := List.mem_map.mp listed
    rw [← rankScore_of_mem of member repeats]
    exact fair.scored row member raw repeats number score
  · intro readable
    have each : ∀ candidate ∈ candidates, ∃ record,
        normalizeCandidate candidate source = .ok record := by
      intro candidate given
      obtain ⟨raw, read, provenance, _⟩ := readable candidate given
      exact exists_normalizeCandidate_iff.mpr ⟨raw, read, provenance⟩
    obtain ⟨records, normalized⟩ := mapM_exists each
    refine ⟨layerResult records source selectTop, bind_eq_ok.mpr ⟨records, normalized, rfl⟩, ?_⟩
    apply rankedByScore_of_kept numeric normalized
    intro record inRecords
    obtain ⟨candidate, given, normalizes⟩ := normalizes_of_mem normalized inRecords
    obtain ⟨raw, read, _, kept⟩ := readable candidate given
    rw [Except.ok.inj (normalizes.read.symm.trans read)]
    exact kept

def zeroScored : PyDict :=
  [("candidate_id", .str "c1"), ("symbol", .str "NIFTY"), ("strategy_id", .str "orb"),
    ("setup_family", .str "ORB"), ("score", .int 0), ("confidence", .float (.finite (4 / 5)))]

def oneScored : PyDict :=
  PyDict.set zeroScored "score" (.int 1)

theorem numeric_plain {raw : PyDict} (numeric : NumericScores raw) :
    NumericCandidates [.plain (.dict raw)] := by
  intro candidate given other read
  rw [List.mem_singleton.mp given] at read
  cases read
  exact numeric

theorem rankedByScore_one :
    (∃ result, runOpportunityPipeline [.plain (.dict oneScored)] "test" true = .ok result ∧
        RankedByScore [.plain (.dict oneScored)] true result) ↔
      ∀ candidate ∈ [RawCandidate.plain (.dict oneScored)], ∃ raw, candidate.asDict = .ok raw ∧
        (∃ provenance, mappingOf ((PyDict.get raw "provenance").or (.dict [])) = .ok provenance) ∧
        ScoreKept raw := by
  apply rankedByScore_iff
  apply numeric_plain
  intro key member
  simp only [scoreKeys, List.mem_cons, List.not_mem_nil, or_false] at member
  rcases member with rfl | rfl | rfl | rfl
  · exact .inr ⟨1, rfl⟩
  · exact .inl rfl
  · exact .inl rfl
  · exact .inr ⟨4 / 5, rfl⟩

/-- The confidence is taken for the score. -/
theorem zero_score_ranked_by_confidence :
    ¬ ∀ (candidates : List RawCandidate) (source : String) (selectTop : Bool),
      NumericCandidates candidates →
        ∃ result, runOpportunityPipeline candidates source selectTop = .ok result ∧
          RankedByScore candidates selectTop result := by
  intro claimed
  have numeric : NumericCandidates [.plain (.dict zeroScored)] := by
    apply numeric_plain
    intro key member
    simp only [scoreKeys, List.mem_cons, List.not_mem_nil, or_false] at member
    rcases member with rfl | rfl | rfl | rfl
    · exact .inr ⟨0, rfl⟩
    · exact .inl rfl
    · exact .inl rfl
    · exact .inr ⟨4 / 5, rfl⟩
  obtain ⟨result, ran, fair⟩ := claimed _ "test" true numeric
  have scores : ∀ row ∈ result.rows, row.rankScore = .finite (4 / 5) := by
    have shown : (runOpportunityPipeline [.plain (.dict zeroScored)] "test" true).toOption.all
        (fun result => result.rows.all fun row => decide (row.rankScore = .finite (4 / 5))) =
          true := by decide +kernel
    rw [ran] at shown
    intro row member
    exact of_decide_eq_true (List.all_eq_true.mp shown row member)
  obtain ⟨raws, read, perm⟩ := fair.placed
  have one : raws = [zeroScored] := (Except.ok.inj read).symm
  have listed : PyValue.dict zeroScored ∈ result.rows.map OpportunityRecord.rawFields := by
    apply perm.mem_iff.mpr
    rw [one]
    exact List.mem_cons_self
  obtain ⟨row, member, repeats⟩ := List.mem_map.mp listed
  have kept := fair.scored row member zeroScored repeats 0 rfl
  rw [scores row member] at kept
  exact absurd (PyFloat.finite.inj kept) (by decide +kernel)

end Rows

end Algotradify.Candidates
