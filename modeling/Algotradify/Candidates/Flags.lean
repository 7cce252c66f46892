/-
Candidates that are flagged: which of them the opportunity layer keeps out of its ranking.

A candidate is flagged synthetic by a field of that name, or blocked by its status. Neither
flag is read on its own: the first is one of the readings that the truth status is taken
from, after a stated status, an advisory action and the signs of a fallback, and the second
only lets the reason count as a blocker.
-/

import Algotradify.Candidates.Pipeline
import Algotradify.Py.Comprehension

namespace Algotradify.Candidates

open Py Execution

variable {raw : PyDict} {candidate : RawCandidate} {record : CandidateTruthRecord}
variable {candidates : List RawCandidate} {source : String} {records : List CandidateTruthRecord}
variable {selectTop : Bool}

def Flagged (raw : PyDict) : Prop :=
  (PyDict.get raw "synthetic").truthy = true ∨ (PyDict.get raw "is_synthetic").truthy = true ∨
    PyDict.get raw "status" = .str "blocked"

def LacksIdentity (raw : PyDict) : Prop :=
  (candidateIdOf raw).isNone = true ∨ (symbolOf raw).isNone = true ∨
    (strategyIdOf raw).isNone = true ∨ (setupFamilyOf raw).isNone = true

/-- What keeps a candidate out of the ranking: a missing field of its identity, a blocker with
a visible text, a stated status that admits no ranking, or signs of a synthetic candidate
where no status is stated and neither an advisory action nor a sign of a fallback comes
first. -/
def Held (raw : PyDict) : Prop :=
  LacksIdentity raw ∨ (∃ text ∈ givenBlockers raw, strip text ≠ "") ∨
    statedStatus raw ∈ ["SYNTHETIC", "MALFORMED", "UNKNOWN"] ∨
    (statedStatus raw ∉ ["REAL", "FALLBACK", "ADVISORY"] ∧
      statedAction raw ∉ advisoryActions ∧ markedFallback raw = false ∧
      markedSynthetic raw = true)

/-! ### Blockers of a record -/

theorem identityBlockers_visible (raw : PyDict) :
    ∀ text ∈ identityBlockers raw, strip text ≠ "" := by
  intro text member
  obtain ⟨check, kept, rfl⟩ := List.mem_map.mp member
  have listed := List.mem_of_mem_filter kept
  simp only [List.mem_cons, List.not_mem_nil, or_false] at listed
  rcases listed with rfl | rfl | rfl | rfl
  · exact (by decide : strip "MISSING_CANDIDATE_ID" ≠ "")
  · exact (by decide : strip "MISSING_SYMBOL" ≠ "")
  · exact (by decide : strip "MISSING_STRATEGY_ID" ≠ "")
  · exact (by decide : strip "MISSING_SETUP_FAMILY" ≠ "")

theorem identityBlockers_eq_nil_iff (raw : PyDict) :
    identityBlockers raw = [] ↔ ¬ LacksIdentity raw := by
  unfold identityBlockers LacksIdentity
  rw [Dedup.messagesOf_eq_nil_iff]
  simp

theorem blockersOf_eq_nil_iff (raw : PyDict) :
    blockersOf raw = [] ↔
      ¬ LacksIdentity raw ∧ ∀ text ∈ givenBlockers raw, strip text = "" := by
  unfold blockersOf
  rw [Paper.dedupe_append_eq_nil, Paper.dedupe_eq_nil_iff (givenBlockers raw),
    ← identityBlockers_eq_nil_iff]
  apply and_congr_left'
  constructor
  · exact Paper.eq_nil_of_dedupe_eq_nil (identityBlockers_visible raw)
  · intro none
    rw [none, Paper.dedupe_nil]

/-! ### The classification without blockers -/

theorem named?_eq_some_iff {text : String} {status : CandidateTruthStatus} :
    CandidateTruthStatus.named? text = some status ↔ text = status.value := by
  constructor
  · intro found
    unfold CandidateTruthStatus.named? at found
    have named := List.find?_some found
    exact (of_decide_eq_true named).symm
  · intro same
    rw [same]
    cases status <;> decide

theorem named?_eq_none_iff {text : String} :
    CandidateTruthStatus.named? text = none ↔ ∀ status, text ≠ CandidateTruthStatus.value status := by
  rw [Option.eq_none_iff_forall_ne_some]
  apply forall_congr'
  intro status
  exact not_congr named?_eq_some_iff

theorem classify_nil_of_stated {status : CandidateTruthStatus}
    (stated : statedStatus raw = status.value) : classify raw [] = status := by
  unfold classify
  rw [named?_eq_some_iff.mpr stated]
  rfl

theorem classify_nil_of_unstated (unstated : CandidateTruthStatus.named? (statedStatus raw) = none) :
    classify raw [] =
      if statedAction raw ∈ advisoryActions then .advisory
      else if markedFallback raw then .fallback
      else if markedSynthetic raw then .synthetic
      else .real := by
  unfold classify
  rw [unstated]
  rfl

theorem classify_nil_mem_iff (raw : PyDict) :
    classify raw [] ∈ nonRankableTruthStatuses ↔
      statedStatus raw ∈ ["SYNTHETIC", "MALFORMED", "UNKNOWN"] ∨
        (statedStatus raw ∉ ["REAL", "FALLBACK", "ADVISORY"] ∧
          statedAction raw ∉ advisoryActions ∧ markedFallback raw = false ∧
          markedSynthetic raw = true) := by
  cases named : CandidateTruthStatus.named? (statedStatus raw) with
  | some status =>
      have stated := named?_eq_some_iff.mp named
      rw [classify_nil_of_stated stated, stated]
      cases status <;>
        simp [nonRankableTruthStatuses, CandidateTruthStatus.value]
  | none =>
      have unstated := named?_eq_none_iff.mp named
      have other : ∀ status, statedStatus raw ≠ CandidateTruthStatus.value status := unstated
      have real := other .real
      have synthetic := other .synthetic
      have fallback := other .fallback
      have advisory := other .advisory
      have malformed := other .malformed
      have unknown := other .unknown
      simp only [CandidateTruthStatus.value] at real synthetic fallback advisory malformed unknown
      rw [classify_nil_of_unstated named]
      by_cases action : statedAction raw ∈ advisoryActions
      · simp [nonRankableTruthStatuses, action, synthetic, malformed, unknown]
      · cases fell : markedFallback raw with
        | true => simp [nonRankableTruthStatuses, action, synthetic, malformed, unknown]
        | false =>
            cases made : markedSynthetic raw with
            | true => simp [nonRankableTruthStatuses, action, real, fallback, advisory]
            | false => simp [nonRankableTruthStatuses, action, synthetic, malformed, unknown]

theorem isRankable_iff_not_held (normalizes : Normalizes candidate record) :
    record.isRankable = true ↔ ¬ Held record.raw := by
  rw [isRankable_eq_true, normalizes.status, normalizes.blockers]
  by_cases none : blockersOf record.raw = []
  · have free := (blockersOf_eq_nil_iff record.raw).mp none
    have blank : ¬ ∃ text ∈ givenBlockers record.raw, strip text ≠ "" := by
      intro found
      obtain ⟨text, given, visible⟩ := found
      exact visible (free.2 text given)
    rw [none, classify_nil_mem_iff]
    unfold Held
    simp only [free.1, blank, false_or, and_true]
  · have held : Held record.raw := by
      by_contra nothing
      apply none
      apply (blockersOf_eq_nil_iff record.raw).mpr
      constructor
      · intro lacks
        exact nothing (.inl lacks)
      · intro text given
        by_contra visible
        exact nothing (.inr (.inl ⟨text, given, visible⟩))
    simp only [none, and_false, held, not_true_eq_false]

/-! ### Flagged candidates -/

def OpportunityRecord.madeOf (row : OpportunityRecord) (raw : PyDict) : Prop :=
  PyDict.get row.candidateTruth "raw" = .dict raw

def WithholdsFlagged (candidates : List RawCandidate) (result : OpportunityLayerResult) : Prop :=
  ∀ candidate ∈ candidates, ∀ raw, candidate.asDict = .ok raw → Flagged raw →
    ∀ row ∈ result.ranked ++ result.selected.toList, ¬ row.madeOf raw

theorem madeOf_makeOpportunityRecord {status : OpportunityStatus} {score : PyFloat}
    {rank : Option Int} {extra : List String} :
    (makeOpportunityRecord record status score rank extra).madeOf raw ↔ record.raw = raw := by
  constructor
  · intro made
    exact PyValue.dict.inj made
  · intro same
    rw [← same]
    rfl

theorem normalizes_of_mem (ran : normalizeCandidates candidates source = .ok records)
    (member : record ∈ records) : ∃ candidate ∈ candidates, Normalizes candidate record := by
  obtain ⟨candidate, given, normalized⟩ := exists_of_mem_mapM ran record member
  exact ⟨candidate, given, normalizes_of_normalizeCandidate normalized⟩

theorem exists_normalizes (ran : normalizeCandidates candidates source = .ok records)
    (given : candidate ∈ candidates) : ∃ record ∈ records, Normalizes candidate record := by
  obtain ⟨record, member, normalized⟩ := exists_of_mapM_mem ran candidate given
  exact ⟨record, member, normalizes_of_normalizeCandidate normalized⟩

theorem rankable_of_row {row : OpportunityRecord}
    (member : row ∈ (layerResult records source selectTop).ranked ++
      (layerResult records source selectTop).selected.toList) :
    ∃ record ∈ records, record.isRankable = true ∧ row.madeOf record.raw := by
  have ofRanked : ∀ top ∈ (layerResult records source selectTop).ranked,
      ∃ record ∈ records, record.isRankable = true ∧ top.madeOf record.raw := by
    intro top ranked
    obtain ⟨record, inRecords, rankable, rank, made⟩ := rankable_of_ranked ranked
    rw [made]
    exact ⟨record, inRecords, rankable, rfl⟩
  rcases List.mem_append.mp member with ranked | chosen
  · exact ofRanked row ranked
  · obtain ⟨top, ranked, made⟩ := ranked_of_selected (Option.mem_toList.mp chosen)
    rw [made]
    exact ofRanked top ranked

theorem exists_ranked_of_not_held {result : OpportunityLayerResult}
    (ran : runOpportunityPipeline candidates source selectTop = .ok result)
    (given : candidate ∈ candidates) (read : candidate.asDict = .ok raw) (free : ¬ Held raw) :
    ∃ row ∈ result.ranked, row.madeOf raw := by
  obtain ⟨records, normalized, made⟩ := bind_eq_ok.mp ran
  obtain ⟨record, member, normalizes⟩ := exists_normalizes normalized given
  have same : record.raw = raw := Except.ok.inj (normalizes.read.symm.trans read)
  rw [← same] at free
  obtain ⟨rank, ranked⟩ :=
    ranked_of_rankable member ((isRankable_iff_not_held normalizes).mpr free)
  rw [← Except.ok.inj made]
  exact ⟨_, ranked, madeOf_makeOpportunityRecord.mpr same⟩

theorem not_held_of_row {result : OpportunityLayerResult}
    (ran : runOpportunityPipeline candidates source selectTop = .ok result)
    {row : OpportunityRecord} (member : row ∈ result.ranked ++ result.selected.toList)
    (made : row.madeOf raw) : ¬ Held raw := by
  obtain ⟨records, normalized, returned⟩ := bind_eq_ok.mp ran
  rw [← Except.ok.inj returned] at member
  obtain ⟨record, inRecords, rankable, own⟩ := rankable_of_row member
  obtain ⟨candidate, given, normalizes⟩ := normalizes_of_mem normalized inRecords
  have same : record.raw = raw := PyValue.dict.inj (own.symm.trans made)
  rw [← same]
  exact (isRankable_iff_not_held normalizes).mp rankable

/-- A run withholds the flagged candidates exactly when each of them is held. -/
theorem withholdsFlagged_iff {candidates : List RawCandidate} {source : String}
    {selectTop : Bool} {result : OpportunityLayerResult}
    (ran : runOpportunityPipeline candidates source selectTop = .ok result) :
    WithholdsFlagged candidates result ↔
      ∀ candidate ∈ candidates, ∀ raw, candidate.asDict = .ok raw → Flagged raw → Held raw := by
  constructor
  · intro withholds candidate given raw read flagged
    by_contra free
    obtain ⟨row, ranked, made⟩ := exists_ranked_of_not_held ran given read free
    exact withholds candidate given raw read flagged row (List.mem_append_left _ ranked) made
  · intro held candidate given raw read flagged row member made
    exact not_held_of_row ran member made (held candidate given raw read flagged)

def statedReal : PyDict :=
  [("candidate_id", .str "c1"), ("symbol", .str "NIFTY"), ("strategy_id", .str "orb"),
    ("setup_family", .str "ORB"), ("is_synthetic", .bool true), ("truth_status", .str "REAL")]

theorem withholdsFlagged_stated :
    ∃ result, runOpportunityPipeline [.plain (.dict statedReal)] "test" true = .ok result ∧
      (WithholdsFlagged [.plain (.dict statedReal)] result ↔
        ∀ candidate ∈ [RawCandidate.plain (.dict statedReal)], ∀ raw,
          candidate.asDict = .ok raw → Flagged raw → Held raw) := by
  obtain ⟨result, ran⟩ : ∃ result,
      runOpportunityPipeline [.plain (.dict statedReal)] "test" true = .ok result :=
    exists_ok (by decide)
  exact ⟨result, ran, withholdsFlagged_iff ran⟩

theorem not_held_statedReal : ¬ Held statedReal := by
  unfold Held LacksIdentity
  decide

/-- The flagged candidate is ranked. -/
theorem statedReal_ranked :
    ¬ ∀ candidates source selectTop result,
      runOpportunityPipeline candidates source selectTop = .ok result →
        WithholdsFlagged candidates result := by
  intro claimed
  obtain ⟨result, ran⟩ : ∃ result,
      runOpportunityPipeline [.plain (.dict statedReal)] "test" true = .ok result :=
    exists_ok (by decide)
  obtain ⟨row, ranked, made⟩ :=
    exists_ranked_of_not_held ran List.mem_cons_self rfl not_held_statedReal
  exact claimed _ _ _ result ran _ List.mem_cons_self statedReal rfl (.inr (.inl rfl)) row
    (List.mem_append_left _ ranked) made

end Algotradify.Candidates
