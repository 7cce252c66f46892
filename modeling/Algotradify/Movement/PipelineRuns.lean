/-
Runs of the movement pipeline, for any registry and any context: what is ranked and what is
excluded, and what every ranked candidate has passed.

The filter decides by the gates of the context, whatever status a candidate came with, and the
ranker leaves out what is blocked. So the two agree exactly where no candidate that is blocked
passes the gates.
-/

import Algotradify.Movement.FilterGates
import Algotradify.Movement.PoolOrder
import Algotradify.Movement.RankOrder

namespace Algotradify.Movement

open Py Dedup Sorting

/-! ### Every run returns -/

theorem exists_coerceItems (items : List PoolItem) (index : ℕ) :
    ∃ coerced, coerceItems items index = .ok coerced := by
  induction items generalizing index with
  | nil => exact ⟨[], rfl⟩
  | cons item rest ih =>
      have first : ∃ one, coerceCandidate item index = .ok one := by
        cases item with
        | candidate candidate =>
            unfold coerceCandidate
            dsimp only
            split <;> exact ⟨_, rfl⟩
        | mapping payload =>
            unfold coerceCandidate
            dsimp only
            by_cases valid : (validateStrategyCandidate (some payload)).valid = true
            · obtain ⟨candidate, read⟩ := exists_candidateFromMapping valid
              rw [if_pos valid, read]
              exact ⟨_, rfl⟩
            · rw [if_neg valid]
              exact ⟨_, rfl⟩
        | other typeName => exact ⟨_, rfl⟩
      obtain ⟨one, isOne⟩ := first
      obtain ⟨later, isLater⟩ := ih (index + 1)
      rw [coerceItems, isOne, isLater]
      exact ⟨_, rfl⟩

/-- A candidate that the providers put out: what their items are taken for, with the hard
blockers applied, and of those with its id the preferred one. -/
def Offered (registry : MovementStrategyRegistry) (context : Option StrategyContext)
    (candidate : StrategyCandidate) : Prop :=
  ∃ coerced, coerceItems (registry.run context).candidates 0 = .ok coerced ∧
    choose preferred (groupOf candidate.candidateId
      (coerced.map fun one => applyHardBlockers one.candidate)) = some candidate

theorem exists_run (registry : MovementStrategyRegistry) (context : Option StrategyContext) :
    ∃ pool, runMovementOpportunityPipeline registry context =
        .ok (pipelineResultOf context (registry.run context) pool) ∧
      (pool.candidates.map StrategyCandidate.candidateId).Nodup ∧
      ∀ candidate, Offered registry context candidate ↔ candidate ∈ pool.candidates := by
  obtain ⟨coerced, isCoerced⟩ := exists_coerceItems (registry.run context).candidates 0
  refine ⟨poolOf (registry.run context).candidates.length coerced (registry.run context).warnings
    (registry.run context).diagnostics, ?_, ?_, ?_⟩
  · unfold runMovementOpportunityPipeline buildCandidatePool
    dsimp only
    rw [isCoerced]
    rfl
  · have sorted := ids_sorted (coerced.map fun one => applyHardBlockers one.candidate)
    exact List.pairwise_map.mpr (sorted.imp fun less => ne_of_lt less)
  · intro candidate
    have kept : candidate ∈ (foldCandidates (coerced.map fun one =>
        applyHardBlockers one.candidate)).candidates ↔ _ := mem_candidates_iff
    rw [lookup_foldCandidates] at kept
    refine Iff.trans ?_ kept.symm
    constructor
    · rintro ⟨other, isOther, chosen⟩
      rw [isCoerced] at isOther
      rw [Except.ok.inj isOther]
      exact chosen
    · intro chosen
      exact ⟨coerced, isCoerced, chosen⟩

/-! ### One candidate -/

def filteredOf (context : Option StrategyContext) (candidate : StrategyCandidate) :
    StrategyCandidate :=
  (applyNoTradeFilter (attachOptionPressureConfirmation context candidate)).1

def Rankable (context : Option StrategyContext) (candidate : StrategyCandidate) : Prop :=
  exclusionReason (filteredOf context candidate) = none

instance (context : Option StrategyContext) (candidate : StrategyCandidate) :
    Decidable (Rankable context candidate) :=
  inferInstanceAs (Decidable (exclusionReason (filteredOf context candidate) = none))

/-- The ranker takes what the filter allows, unless it came blocked. -/
theorem exclusionReason_filtered (candidate : StrategyCandidate) :
    exclusionReason (applyDecision candidate (filterResult candidate)) = none ↔
      Allowed candidate ∧ candidate.status ≠ .blockedCandidate := by
  rw [← decision_eq_allow_iff]
  cases decided : (filterResult candidate).decision with
  | blockCandidate =>
      have status : (applyDecision candidate (filterResult candidate)).status =
          .blockedCandidate := by
        unfold applyDecision
        dsimp only
        rw [decided]
        rfl
      unfold exclusionReason
      rw [if_pos status]
      simp
  | noTrade =>
      have status : (applyDecision candidate (filterResult candidate)).status = .noTrade := by
        unfold applyDecision
        dsimp only
        rw [decided]
        rfl
      unfold exclusionReason
      rw [status, if_neg (by decide), if_pos (.inl rfl)]
      simp
  | allowCandidate =>
      have allowed := (decision_eq_allow_iff candidate).mp decided
      have status : (applyDecision candidate (filterResult candidate)).status =
          candidate.status := by
        unfold applyDecision
        dsimp only
        rw [decided]
        rfl
      have direction : (applyDecision candidate (filterResult candidate)).direction =
          candidate.direction := by
        unfold applyDecision
        dsimp only
        rw [decided]
        rfl
      unfold exclusionReason
      rw [status, direction, noTradeDecisionOf_apply, decided]
      by_cases blocked : candidate.status = .blockedCandidate
      · rw [if_pos blocked]
        simp [blocked]
      · have known : ¬ candidate.status ∉ rankableStatuses := by
          have apart := allowed.notStopped
          cases held : candidate.status with
          | blockedCandidate => exact absurd held blocked
          | noTrade => exact absurd held apart
          | rawCandidate | validatedCandidate | rankedOpportunity => decide
        rw [if_neg blocked, if_neg (not_or.mpr ⟨allowed.notStopped, allowed.tradable⟩),
          if_neg known, if_neg (not_not.mpr rfl)]
        simp [blocked]

theorem rankable_iff (context : Option StrategyContext) (candidate : StrategyCandidate) :
    Rankable context candidate ↔
      (∃ known, context = some known ∧ Passes known candidate) ∧
        candidate.status ≠ .blockedCandidate := by
  unfold Rankable filteredOf applyNoTradeFilter
  dsimp only
  rw [exclusionReason_filtered]
  cases context with
  | none => simp [not_allowed_attach_none]
  | some known =>
      rw [allowed_attach_iff]
      simp [attachOptionPressureConfirmation]

theorem allowed_iff (context : Option StrategyContext) (candidate : StrategyCandidate) :
    (filterResult (attachOptionPressureConfirmation context candidate)).decision =
        .allowCandidate ↔
      ∃ known, context = some known ∧ Passes known candidate := by
  rw [decision_eq_allow_iff]
  cases context with
  | none => simp [not_allowed_attach_none]
  | some known =>
      rw [allowed_attach_iff]
      simp

/-! ### The stages -/

section Stages

variable (context : Option StrategyContext) (registryResult : MovementRegistryRunResult)
  (pool : CandidatePoolResult)

theorem filtered_candidates :
    (pipelineResultOf context registryResult pool).noTradeFilterResult.candidates =
      pool.candidates.map (filteredOf context) := by
  unfold pipelineResultOf applyNoTradeFilterToCandidates attachOptionPressureToCandidates filteredOf
  dsimp only
  rw [List.map_map, List.map_map]
  rfl

theorem filter_results :
    (pipelineResultOf context registryResult pool).noTradeFilterResult.results =
      pool.candidates.map fun candidate =>
        filterResult (attachOptionPressureConfirmation context candidate) := by
  unfold pipelineResultOf applyNoTradeFilterToCandidates attachOptionPressureToCandidates
  dsimp only
  rw [List.map_map, List.map_map]
  rfl

theorem rank_result :
    (pipelineResultOf context registryResult pool).rankResult =
      rankMovementCandidates (pool.candidates.map (filteredOf context)) := by
  rw [← filtered_candidates context registryResult pool]
  rfl

end Stages

theorem length_rankedEntries (candidates : List StrategyCandidate) :
    (rankedEntries candidates).length =
      candidates.countP fun candidate => (exclusionReason candidate).isNone := by
  unfold rankedEntries
  rw [List.length_zipIdx, scoredCandidates_eq, List.length_map]
  unfold ranking
  rw [List.length_insertionSort, List.countP_eq_length_filter]

theorem rankedCount_eq (context : Option StrategyContext) (candidates : List StrategyCandidate) :
    (rankMovementCandidates (candidates.map (filteredOf context))).summary.rankedCount =
      candidates.countP fun candidate => decide (Rankable context candidate) := by
  unfold rankMovementCandidates
  dsimp only
  rw [List.length_map, length_rankedEntries, List.countP_map]
  apply List.countP_congr
  intro candidate _
  rw [Function.comp_apply, Option.isNone_iff_eq_none, decide_eq_true_iff]
  exact Iff.rfl

theorem excludedCount_eq (context : Option StrategyContext)
    (candidates : List StrategyCandidate) :
    (rankMovementCandidates (candidates.map (filteredOf context))).summary.excludedCount =
      candidates.countP fun candidate => !decide (Rankable context candidate) := by
  unfold rankMovementCandidates
  dsimp only
  induction candidates with
  | nil => rfl
  | cons candidate rest ih =>
      rw [List.map_cons, List.countP_cons]
      cases reason : exclusionReason (filteredOf context candidate) with
      | none =>
          have excluded : rankExclusion (filteredOf context candidate) = none := by
            unfold rankExclusion
            rw [reason]
            rfl
          have rankable : Rankable context candidate := reason
          rw [List.filterMap_cons_none excluded, ih, decide_eq_true rankable]
          rfl
      | some why =>
          obtain ⟨exclusion, excluded⟩ :
              ∃ exclusion, rankExclusion (filteredOf context candidate) = some exclusion := by
            unfold rankExclusion
            rw [reason]
            exact ⟨_, rfl⟩
          have notRankable : ¬ Rankable context candidate := by
            unfold Rankable
            rw [reason]
            exact Option.some_ne_none why
          rw [List.filterMap_cons_some excluded, List.length_cons, ih,
            decide_eq_false notRankable]
          rfl

theorem countDecision_total (results : List NoTradeFilterResult) :
    countDecision results .allowCandidate + countDecision results .blockCandidate +
      countDecision results .noTrade = results.length := by
  unfold countDecision
  induction results with
  | nil => rfl
  | cons result rest ih =>
      rw [List.countP_cons, List.countP_cons, List.countP_cons, List.length_cons]
      cases result.decision <;> simp <;> omega

/-! ### Ranked candidates -/

theorem ids_rankedCandidates (candidates : List StrategyCandidate) :
    (rankMovementCandidates candidates).rankedCandidates.map StrategyCandidate.candidateId =
      (ranking candidates).map StrategyCandidate.candidateId := by
  have fronts : (rankedEntries candidates).map Prod.fst =
      (ranking candidates).map fun candidate => (rankScoreOf candidate, candidate) := by
    unfold rankedEntries
    rw [List.zipIdx_map_fst, scoredCandidates_eq]
  have ids := congrArg (List.map fun scored : PyFloat × StrategyCandidate =>
    scored.2.candidateId) fronts
  rw [List.map_map, List.map_map] at ids
  unfold rankMovementCandidates
  dsimp only
  rw [List.map_map]
  exact ids

theorem exists_of_mem_ranked {candidates : List StrategyCandidate} {ranked : StrategyCandidate}
    (member : ranked ∈ (rankMovementCandidates candidates).rankedCandidates) :
    ∃ candidate ∈ candidates, exclusionReason candidate = none ∧
      ∃ record, ranked = attachRank candidate record := by
  obtain ⟨entry, inEntries, rfl⟩ := List.mem_map.mp member
  have at_ : RankedAt candidates entry.1.2 entry.2 := ⟨entry, inEntries, rfl, rfl⟩
  obtain ⟨-, found⟩ := rankedAt_iff.mp at_
  obtain ⟨inCandidates, rankable⟩ := mem_ranking_iff.mp (List.mem_of_getElem? found)
  exact ⟨entry.1.2, inCandidates, rankable, rankRecord entry, rfl⟩

theorem ranked_iff_rankable {context : Option StrategyContext}
    {candidates : List StrategyCandidate}
    (distinct : (candidates.map StrategyCandidate.candidateId).Nodup)
    {candidate : StrategyCandidate} (member : candidate ∈ candidates) :
    candidate.candidateId ∈ (rankMovementCandidates
        (candidates.map (filteredOf context))).rankedCandidates.map StrategyCandidate.candidateId ↔
      Rankable context candidate := by
  rw [ids_rankedCandidates, List.mem_map]
  constructor
  · rintro ⟨ranked, inRanking, sameId⟩
    obtain ⟨inFiltered, rankable⟩ := mem_ranking_iff.mp inRanking
    obtain ⟨other, inOthers, rfl⟩ := List.mem_map.mp inFiltered
    have same := List.inj_on_of_nodup_map distinct inOthers member sameId
    rw [← same]
    exact rankable
  · intro rankable
    exact ⟨filteredOf context candidate,
      mem_ranking_iff.mpr ⟨List.mem_map_of_mem member, rankable⟩, rfl⟩

structure RankedClean (context : Option StrategyContext)
    (result : MovementOpportunityPipelineResult) (ranked : StrategyCandidate) : Prop where
  tradable : ranked.direction ≠ .noTrade
  noHardBlocker : ∀ blocker ∈ ranked.blockers, blocker ∉ hardNoTradeBlockers
  pressure : PyDict.get ranked.evidence optionPressureEvidenceKey =
    .dict (confirmOptionPressure context ranked.direction).toDict
  confirmed : (confirmOptionPressure context ranked.direction).status = .confirmed ∨
    (confirmOptionPressure context ranked.direction).status = .weakConfirmation
  allowed : ∃ decided ∈ result.noTradeFilterResult.results,
    decided.candidateId = ranked.candidateId ∧ decided.decision = .allowCandidate ∧
      PyDict.get ranked.evidence noTradeFilterEvidenceKey = .dict (filterEvidence decided)

structure PipelineSound (context : Option StrategyContext)
    (result : MovementOpportunityPipelineResult) : Prop where
  distinct : (result.candidatePoolResult.candidates.map StrategyCandidate.candidateId).Nodup
  complete : (result.rankResult.rankedCandidates.map StrategyCandidate.candidateId ++
      result.rankResult.exclusions.map CandidateRankExclusion.candidateId).Perm
    (result.candidatePoolResult.candidates.map StrategyCandidate.candidateId)
  recorded : result.rankResult.rankRecords.map CandidateRankRecord.candidateId =
    result.rankResult.rankedCandidates.map StrategyCandidate.candidateId
  ranks : result.rankResult.rankRecords.map CandidateRankRecord.rank =
    List.range' 1 result.rankResult.rankedCandidates.length
  scores : result.rankResult.rankRecords.Pairwise
    fun earlier later => later.rankScore.le earlier.rankScore = true
  clean : ∀ ranked ∈ result.rankResult.rankedCandidates, RankedClean context result ranked

theorem scores_descend (candidates : List StrategyCandidate) :
    (rankedEntries candidates).Pairwise fun earlier later =>
      later.1.1.le earlier.1.1 = true := by
  have fronts : ((rankedEntries candidates).map Prod.fst).Pairwise fun earlier later =>
      later.1.le earlier.1 = true := by
    unfold rankedEntries
    rw [List.zipIdx_map_fst, scoredCandidates_eq, List.pairwise_map]
    apply (ranking_sorted candidates).imp
    intro earlier later ordered
    have heads (candidate : StrategyCandidate) : rankKey candidate =
        .number (-rankScoreOf candidate) :: tieBreakerOf candidate := rfl
    unfold NotAfter at ordered
    rw [heads, heads, tupleLess] at ordered
    dsimp only
    rw [rankScoreOf_eq, rankScoreOf_eq, bounded_eq, bounded_eq] at ordered ⊢
    rw [PyFloat.neg_finite, PyFloat.neg_finite] at ordered
    apply (PyFloat.finite_le _ _).mpr
    by_contra above
    have less := neg_lt_neg (not_le.mp above)
    have apart : ¬ (KeyPart.number (.finite (-roundFour (clamped (.finite (weightedSum later)))))).same
        (.number (.finite (-roundFour (clamped (.finite (weightedSum earlier)))))) = true := by
      unfold KeyPart.same
      simpa [PyFloat.eq] using ne_of_gt (not_le.mp above)
    rw [if_neg apart] at ordered
    exact Bool.false_ne_true (ordered.symm.trans ((PyFloat.finite_lt _ _).mpr less))
  exact List.pairwise_map.mp fronts

theorem ids_exclusions (candidates : List StrategyCandidate) :
    (rankMovementCandidates candidates).exclusions.map CandidateRankExclusion.candidateId =
      (candidates.filter fun candidate => !(exclusionReason candidate).isNone).map
        StrategyCandidate.candidateId := by
  unfold rankMovementCandidates
  dsimp only
  induction candidates with
  | nil => rfl
  | cons candidate rest ih =>
      cases reason : exclusionReason candidate with
      | none =>
          have excluded : rankExclusion candidate = none := by
            unfold rankExclusion
            rw [reason]
            rfl
          rw [List.filterMap_cons_none excluded, List.filter_cons_of_neg (by simp [reason]), ih]
      | some why =>
          have excluded : ∃ exclusion, rankExclusion candidate = some exclusion ∧
              exclusion.candidateId = candidate.candidateId := by
            unfold rankExclusion
            rw [reason]
            exact ⟨_, rfl, rfl⟩
          obtain ⟨exclusion, isExclusion, id⟩ := excluded
          rw [List.filterMap_cons_some isExclusion, List.filter_cons_of_pos (by simp [reason]),
            List.map_cons, List.map_cons, ih, id]

theorem rankedClean {context : Option StrategyContext} {registryResult : MovementRegistryRunResult}
    {pool : CandidatePoolResult} {ranked : StrategyCandidate}
    (member : ranked ∈
      (pipelineResultOf context registryResult pool).rankResult.rankedCandidates) :
    RankedClean context (pipelineResultOf context registryResult pool) ranked := by
  rw [rank_result] at member
  obtain ⟨filtered, inFiltered, rankable, record, rfl⟩ := exists_of_mem_ranked member
  obtain ⟨candidate, inPool, rfl⟩ := List.mem_map.mp inFiltered
  have allowed : Allowed (attachOptionPressureConfirmation context candidate) :=
    ((exclusionReason_filtered _).mp rankable).1
  have decided := (decision_eq_allow_iff _).mpr allowed
  have direction : (filteredOf context candidate).direction = candidate.direction := by
    unfold filteredOf applyNoTradeFilter applyDecision
    dsimp only
    rw [decided]
    rfl
  have pressure : PyDict.get (filteredOf context candidate).evidence optionPressureEvidenceKey =
      .dict (confirmOptionPressure context candidate.direction).toDict :=
    (PyDict.get_set_of_ne _ _ (by decide)).trans (PyDict.get_set_self _ _ _)
  constructor
  · change (filteredOf context candidate).direction ≠ .noTrade
    rw [direction]
    exact allowed.tradable
  · change ∀ blocker ∈ (filteredOf context candidate).blockers, blocker ∉ hardNoTradeBlockers
    have blockers : (filteredOf context candidate).blockers =
        dedupe (attachOptionPressureConfirmation context candidate).blockers := allowed.blockers
    intro blocker inBlockers
    rw [blockers] at inBlockers
    exact (hasHardBlocker_eq_false_iff _).mp allowed.noHardBlocker blocker
      (List.mem_append_left _ (mem_dedupe.mp inBlockers).1)
  · change PyDict.get ((filteredOf context candidate).evidence.set rankerEvidenceKey _)
      optionPressureEvidenceKey =
      .dict (confirmOptionPressure context (filteredOf context candidate).direction).toDict
    rw [PyDict.get_set_of_ne _ _ (by decide), pressure, direction]
  · change (confirmOptionPressure context (filteredOf context candidate).direction).status =
        .confirmed ∨
      (confirmOptionPressure context (filteredOf context candidate).direction).status =
        .weakConfirmation
    rw [direction]
    have unopposed := allowed.unopposed
    have quoted := allowed.quoted
    have applicable := allowed.applicable
    rw [optionPressureStatus_attach] at unopposed quoted applicable
    cases held : (confirmOptionPressure context candidate.direction).status with
    | confirmed => exact .inl rfl
    | weakConfirmation => exact .inr rfl
    | conflictingPressure => exact absurd (by rw [held]) unopposed
    | blocked => exact absurd (by rw [held]) quoted
    | notApplicable => exact absurd (by rw [held]) applicable
  · refine ⟨filterResult (attachOptionPressureConfirmation context candidate), ?_, rfl, decided, ?_⟩
    · rw [filter_results]
      exact List.mem_map_of_mem inPool
    · change PyDict.get ((filteredOf context candidate).evidence.set rankerEvidenceKey _)
        noTradeFilterEvidenceKey = _
      rw [PyDict.get_set_of_ne _ _ (by decide)]
      exact PyDict.get_set_self _ _ _

/-- Every run of the pipeline returns, and what it ranks is clean and complete. -/
theorem pipeline_sound (registry : MovementStrategyRegistry)
    (context : Option StrategyContext) :
    ∃ result, runMovementOpportunityPipeline registry context = .ok result ∧
      PipelineSound context result := by
  obtain ⟨pool, run, distinct, -⟩ := exists_run registry context
  refine ⟨_, run, ?_⟩
  constructor
  · exact distinct
  · rw [rank_result, ids_rankedCandidates, ids_exclusions]
    have parts := List.filter_append_perm
      (fun candidate => (exclusionReason candidate).isNone)
      (pool.candidates.map (filteredOf context))
    have sorted : (ranking (pool.candidates.map (filteredOf context))).Perm
        ((pool.candidates.map (filteredOf context)).filter
          fun candidate => (exclusionReason candidate).isNone) :=
      List.perm_insertionSort _ _
    have ids := ((sorted.append_right _).trans parts).map StrategyCandidate.candidateId
    rw [List.map_append, List.map_map] at ids
    exact ids
  · rw [rank_result]
    unfold rankMovementCandidates
    dsimp only
    rw [List.map_map, List.map_map]
    rfl
  · rw [rank_result]
    unfold rankMovementCandidates
    dsimp only
    rw [List.map_map, List.length_map]
    unfold rankedEntries
    rw [List.length_zipIdx]
    exact List.zipIdx_map_snd 1 _
  · rw [rank_result]
    exact List.pairwise_map.mpr (scores_descend _)
  · intro ranked member
    exact rankedClean member

/-! ### Counts -/

/-- The counts of the filter are those of the ranker, and nothing that comes blocked is
allowed. -/
structure CountsAgree (result : MovementOpportunityPipelineResult) : Prop where
  allowedRanked : result.summary.allowedCount = result.summary.rankedCount
  restExcluded :
    result.summary.blockedCount + result.summary.noTradeCount = result.summary.excludedCount
  everyone : result.summary.allowedCount +
    (result.summary.blockedCount + result.summary.noTradeCount) =
      result.summary.pooledCandidateCount
  neverBlocked : ∀ candidate ∈ result.optionEnrichedCandidates,
    candidate.status = .blockedCandidate →
      (applyNoTradeFilter candidate).2.decision ≠ .allowCandidate

theorem not_passes_of_countsAgree {registryResult : MovementRegistryRunResult}
    {context : Option StrategyContext} {pool : CandidatePoolResult}
    (agree : CountsAgree (pipelineResultOf context registryResult pool)) :
    ∀ candidate ∈ pool.candidates, candidate.status = .blockedCandidate →
      ∀ known, context = some known → ¬ Passes known candidate := by
  intro candidate member blocked known isKnown passes
  apply agree.neverBlocked (attachOptionPressureConfirmation context candidate)
    (List.mem_map_of_mem member) blocked
  exact (allowed_iff context candidate).mpr ⟨known, isKnown, passes⟩

/-- The counts agree exactly if no blocked candidate that is put out passes the gates. -/
theorem countsAgree_iff (registry : MovementStrategyRegistry) (context : Option StrategyContext) :
    ∃ result, runMovementOpportunityPipeline registry context = .ok result ∧
      (CountsAgree result ↔ ∀ candidate, Offered registry context candidate →
        candidate.status = .blockedCandidate →
          ∀ known, context = some known → ¬ Passes known candidate) := by
  obtain ⟨pool, run, -, offered⟩ := exists_run registry context
  refine ⟨_, run, ?_⟩
  simp only [offered]
  constructor
  · intro agree
    exact not_passes_of_countsAgree agree
  · intro never
    have same : ∀ candidate ∈ pool.candidates,
        ((filterResult (attachOptionPressureConfirmation context candidate)).decision =
          .allowCandidate ↔ Rankable context candidate) := by
      intro candidate member
      rw [rankable_iff, allowed_iff]
      constructor
      · rintro ⟨known, isKnown, passes⟩
        exact ⟨⟨known, isKnown, passes⟩,
          fun blocked => never candidate member blocked known isKnown passes⟩
      · exact And.left
    have ranked : (pipelineResultOf context (registry.run context) pool).summary.rankedCount =
        pool.candidates.countP fun candidate => decide (Rankable context candidate) :=
      (congrArg (fun ranked : MovementRankResult => ranked.summary.rankedCount)
        (rank_result context (registry.run context) pool)).trans (rankedCount_eq _ _)
    have excluded : (pipelineResultOf context (registry.run context) pool).summary.excludedCount =
        pool.candidates.countP fun candidate => !decide (Rankable context candidate) :=
      (congrArg (fun ranked : MovementRankResult => ranked.summary.excludedCount)
        (rank_result context (registry.run context) pool)).trans (excludedCount_eq _ _)
    have results := filter_results context (registry.run context) pool
    have allowed : (pipelineResultOf context (registry.run context) pool).summary.allowedCount =
        pool.candidates.countP fun candidate => decide (Rankable context candidate) := by
      have counted : (pipelineResultOf context (registry.run context) pool).summary.allowedCount =
          countDecision (pipelineResultOf context (registry.run context)
            pool).noTradeFilterResult.results .allowCandidate := rfl
      rw [counted, results]
      unfold countDecision
      rw [List.countP_map]
      apply List.countP_congr
      intro candidate member
      simp [same candidate member]
    have everyone : (pipelineResultOf context (registry.run context) pool).summary.allowedCount +
        (pipelineResultOf context (registry.run context) pool).summary.blockedCount +
        (pipelineResultOf context (registry.run context) pool).summary.noTradeCount =
          pool.candidates.length := by
      have total := countDecision_total (pipelineResultOf context (registry.run context)
        pool).noTradeFilterResult.results
      rw [results] at total
      rw [List.length_map] at total
      rw [← total, ← results]
      rfl
    have split := List.length_eq_countP_add_countP
      (fun candidate => decide (Rankable context candidate)) (l := pool.candidates)
    constructor
    · rw [allowed, ranked]
    · rw [excluded]
      simp only [Bool.not_eq_true, Bool.decide_eq_false] at split
      omega
    · change _ = pool.candidates.length
      omega
    · intro enriched member blocked allows
      obtain ⟨candidate, inPool, rfl⟩ := List.mem_map.mp member
      obtain ⟨known, isKnown, passes⟩ := (allowed_iff context candidate).mp allows
      exact never candidate inPool blocked known isKnown passes

/-! ### Undefined numbers -/

/-- The scores of a candidate or the quotes of its side hold a NaN. -/
def HasUndefined (context : Option StrategyContext) (candidate : StrategyCandidate) : Prop :=
  .nan ∈ candidate.rankScores ∨ ∃ known, context = some known ∧
    (known.optionLtpAgeSec = some .nan ∨
      sideOf candidate.direction known.ceSpreadPct known.peSpreadPct = some .nan ∨
      sideOf candidate.direction known.ceDepth known.peDepth = some .nan)

def NanNeverRanked (context : Option StrategyContext)
    (result : MovementOpportunityPipelineResult) : Prop :=
  ∀ candidate ∈ result.candidatePoolResult.candidates, HasUndefined context candidate →
    ∀ ranked ∈ result.rankResult.rankedCandidates, ranked.candidateId ≠ candidate.candidateId

theorem not_passes_of_nanNeverRanked {registryResult : MovementRegistryRunResult}
    {context : Option StrategyContext} {pool : CandidatePoolResult}
    (distinct : (pool.candidates.map StrategyCandidate.candidateId).Nodup)
    (never : NanNeverRanked context (pipelineResultOf context registryResult pool)) :
    ∀ candidate ∈ pool.candidates, HasUndefined context candidate →
      candidate.status = .blockedCandidate ∨
        ∀ known, context = some known → ¬ Passes known candidate := by
  intro candidate member undefined_
  by_cases blocked : candidate.status = .blockedCandidate
  · exact .inl blocked
  · right
    intro known isKnown passes
    have rankable := (rankable_iff context candidate).mpr ⟨⟨known, isKnown, passes⟩, blocked⟩
    have inRanked := (ranked_iff_rankable distinct member).mpr rankable
    rw [← rank_result context registryResult pool] at inRanked
    obtain ⟨ranked, isRanked, sameId⟩ := List.mem_map.mp inRanked
    exact never candidate member undefined_ ranked isRanked sameId

/-- Undefined numbers keep candidates from being ranked exactly where every candidate with one
is blocked or fails the gates, which NaN passes as any other number does. -/
theorem nanNeverRanked_iff (registry : MovementStrategyRegistry)
    (context : Option StrategyContext) :
    ∃ result, runMovementOpportunityPipeline registry context = .ok result ∧
      (NanNeverRanked context result ↔ ∀ candidate, Offered registry context candidate →
        HasUndefined context candidate → candidate.status = .blockedCandidate ∨
          ∀ known, context = some known → ¬ Passes known candidate) := by
  obtain ⟨pool, run, distinct, offered⟩ := exists_run registry context
  refine ⟨_, run, ?_⟩
  simp only [offered]
  constructor
  · intro never
    exact not_passes_of_nanNeverRanked distinct never
  · intro fails candidate member undefined_ ranked isRanked sameId
    have inRanked : candidate.candidateId ∈ (rankMovementCandidates
        (pool.candidates.map (filteredOf context))).rankedCandidates.map
          StrategyCandidate.candidateId := by
      rw [← rank_result context (registry.run context) pool, ← sameId]
      exact List.mem_map_of_mem isRanked
    have rankable := (ranked_iff_rankable distinct member).mp inRanked
    obtain ⟨⟨known, isKnown, passes⟩, notBlocked⟩ := (rankable_iff context candidate).mp rankable
    rcases fails candidate member undefined_ with blocked | stopped
    · exact notBlocked blocked
    · exact stopped known isKnown passes

/-! ### One provider with one candidate -/

def offering (candidate : StrategyCandidate) : MovementStrategyRegistry :=
  [("orb", fun _ => .ok (.item (.candidate candidate)))]

theorem run_offering {candidate : StrategyCandidate} (valid : candidate.Valid)
    (plain : hardBlockersOf candidate = []) (context : StrategyContext) :
    ∃ pool, runMovementOpportunityPipeline (offering candidate) (some context) =
        .ok (pipelineResultOf (some context) ((offering candidate).run (some context)) pool) ∧
      pool.candidates = [candidate] := by
  have members : ∀ other ∈ [candidate], other.Valid := by
    intro other member
    rw [List.mem_singleton.mp member]
    exact valid
  obtain ⟨pool, built, candidates, -⟩ := buildCandidatePool_valid members
  refine ⟨pool, ?_, ?_⟩
  · have items : ((offering candidate).run (some context)).candidates = poolItems [candidate] := rfl
    have warnings : ((offering candidate).run (some context)).warnings = [] := rfl
    have diagnostics : ((offering candidate).run (some context)).diagnostics = [] := rfl
    unfold runMovementOpportunityPipeline
    dsimp only
    rw [items, warnings, diagnostics, built]
    rfl
  · rw [candidates, List.map_singleton, applyHardBlockers_plain plain]
    rfl

private def orbBreakout (status : CandidateStatus) (rawScore : PyFloat) (blockers : List String) :
    StrategyCandidate :=
  { schemaVersion := movementCandidateSchemaVersion
    candidateId := "orb-1"
    strategyId := "orb"
    movementType := "BREAKOUT"
    symbol := "NIFTY"
    direction := .buyCall
    status := status
    rawScore := rawScore
    confidenceScore := decimal (1 / 2)
    priceStructureScore := decimal (1 / 2)
    optionConfirmationScore := decimal (1 / 2)
    liquidityScore := decimal 1
    freshnessScore := decimal 1
    volatilityScore := decimal (1 / 2)
    regimeAlignmentScore := decimal (1 / 2)
    entryTrigger := "break"
    invalidIf := "back inside"
    rankReason := "volume"
    blockers := blockers }

private theorem orbBreakout_valid {status : CandidateStatus} {rawScore : PyFloat}
    {blockers : List String} (inRange : outOfRange rawScore = false)
    (written : ∀ blocker ∈ blockers, strip blocker ≠ "") (notStopped : status ≠ .noTrade) :
    (orbBreakout status rawScore blockers).Valid where
  schema := rfl
  texts := by
    have texts : ∀ text ∈ ["orb-1", "orb", "BREAKOUT", "NIFTY", "break", "back inside", "volume"],
        strip text ≠ "" := by
      decide
    exact texts
  scores := by
    have half : outOfRange (decimal (1 / 2)) = false := by decide +kernel
    have whole : outOfRange (decimal 1) = false := by decide +kernel
    unfold StrategyCandidate.scores orbBreakout
    simp only [List.forall_mem_cons, List.not_mem_nil, false_implies, implies_true, inRange, half,
      whole, and_self]
  blockers := written
  warnings := fun _ member => absurd member List.not_mem_nil
  noTrade := fun stopped => absurd stopped notStopped

private def risingCalls : StrategyContext :=
  { symbol := "NIFTY"
    tsEpoch := decimal 1700000000
    optionCeLtp := some (decimal 120)
    optionPeLtp := some (decimal 90)
    cePremiumChange := some (decimal 20)
    pePremiumChange := some (decimal 0)
    ceSpreadPct := some (decimal (1 / 2))
    peSpreadPct := some (decimal (1 / 2))
    ceDepth := some (decimal 500)
    peDepth := some (decimal 500)
    optionLtpAgeSec := some (decimal 1)
    quoteSource := some "WS" }

private theorem risingCalls_quoted : (baseBlockers risingCalls .buyCall).1 = [] := by
  decide +kernel

private theorem risingCalls_unopposed :
    hasConflictingPressure .buyCall (premiumBiasOf risingCalls) = false := by
  decide +kernel

private theorem risingCalls_strong :
    (decimal (31 / 50)).le (contextPressure risingCalls .buyCall) = true := by
  decide +kernel

private theorem risingCalls_passes {status : CandidateStatus} (rawScore : PyFloat)
    {blockers : List String} (notStopped : status ≠ .noTrade)
    (noHardBlocker : hasHardBlocker blockers = false) :
    Passes risingCalls (orbBreakout status rawScore blockers) where
  tradable := fun aside => Direction.noConfusion aside
  notStopped := notStopped
  noHardBlocker := noHardBlocker
  quoted := risingCalls_quoted
  unopposed := risingCalls_unopposed
  supported := .inl risingCalls_strong

/-- A blocked candidate with a blocker that is not hard is allowed, and then not ranked. -/
theorem blocked_allowed : ¬ ∀ (registry : MovementStrategyRegistry)
    (context : Option StrategyContext) (result : MovementOpportunityPipelineResult),
    runMovementOpportunityPipeline registry context = .ok result → CountsAgree result := by
  intro always
  have valid : (orbBreakout .blockedCandidate (decimal (1 / 2)) ["CUSTOM_BLOCK"]).Valid :=
    orbBreakout_valid (by decide +kernel) (by decide) (by decide)
  obtain ⟨pool, run, candidates⟩ := run_offering valid (by decide) risingCalls
  apply not_passes_of_countsAgree (always _ _ _ run) _ (by rw [candidates]; exact List.mem_cons_self)
    rfl risingCalls rfl
  exact risingCalls_passes _ (by decide) (by decide)

/-- A candidate whose raw score is NaN is ranked. -/
theorem nan_ranked : ¬ ∀ (registry : MovementStrategyRegistry)
    (context : Option StrategyContext) (result : MovementOpportunityPipelineResult),
    runMovementOpportunityPipeline registry context = .ok result →
      NanNeverRanked context result := by
  intro always
  have valid : (orbBreakout .rawCandidate .nan []).Valid :=
    orbBreakout_valid (by decide) (by decide) (by decide)
  obtain ⟨pool, run, candidates⟩ := run_offering valid (by decide) risingCalls
  have distinct : (pool.candidates.map StrategyCandidate.candidateId).Nodup := by
    rw [candidates]
    exact List.nodup_singleton _
  rcases not_passes_of_nanNeverRanked distinct (always _ _ _ run) _
    (by rw [candidates]; exact List.mem_cons_self) (.inl List.mem_cons_self) with blocked | fails
  · cases blocked
  · exact fails risingCalls rfl (risingCalls_passes _ (by decide) (by decide))

end Algotradify.Movement
