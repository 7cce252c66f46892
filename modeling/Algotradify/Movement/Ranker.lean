/-
The ranker: the candidates that are neither blocked nor no trade and that the filter allowed,
the best scored first; ties are broken by four of the scores, then by the names.

The movement pipeline: registry, candidate pool, option pressure, no-trade filter, ranker.

The registry is given; the one that is built where none is given is one of them.
-/

import Algotradify.Movement.NoTradeFilter

namespace Algotradify.Movement

open Py Dedup

def rankerEvidenceKey : String := "movement_ranker"

def rankableStatuses : List CandidateStatus :=
  [.rawCandidate, .validatedCandidate, .rankedOpportunity]

inductive RankExclusionReason where
  | blockedCandidate
  | noTrade
  | notAllowedByNoTradeFilter
  | unrankableStatus
deriving DecidableEq, Repr

def RankExclusionReason.value : RankExclusionReason → String
  | .blockedCandidate => "BLOCKED_CANDIDATE"
  | .noTrade => "NO_TRADE"
  | .notAllowedByNoTradeFilter => "NOT_ALLOWED_BY_NO_TRADE_FILTER"
  | .unrankableStatus => "UNRANKABLE_STATUS"

structure CandidateRankRecord where
  candidateId : String
  strategyId : String
  rank : ℕ
  rankScore : PyFloat
  componentScores : PyDict
  tieBreaker : List KeyPart

structure CandidateRankExclusion where
  candidateId : String
  strategyId : String
  reason : RankExclusionReason
  status : String
  blockers : List String

structure MovementRankSummary where
  inputCount : ℕ
  rankedCount : ℕ
  excludedCount : ℕ
  blockedCount : ℕ
  noTradeCount : ℕ
  topCandidateId : Option String
deriving DecidableEq

structure MovementRankResult where
  rankedCandidates : List StrategyCandidate
  rankRecords : List CandidateRankRecord
  exclusions : List CandidateRankExclusion
  summary : MovementRankSummary
  warnings : List String
  diagnostics : List PyDict

def keyPartValue : KeyPart → PyValue
  | .number value => .float value
  | .text text => .str text

def CandidateRankRecord.toDict (record : CandidateRankRecord) : PyDict :=
  [("candidate_id", .str record.candidateId),
    ("strategy_id", .str record.strategyId),
    ("rank", .int record.rank),
    ("rank_score", .float record.rankScore),
    ("component_scores", .dict record.componentScores),
    ("tie_breaker", .list (record.tieBreaker.map keyPartValue)),
    ("is_order_action", .bool false)]

/-! ### Scores -/

/-- `_component_scores`. -/
def componentScores (candidate : StrategyCandidate) : PyDict :=
  [("raw_score", .float (bounded candidate.rawScore)),
    ("confidence_score", .float (bounded candidate.confidenceScore)),
    ("option_confirmation_score", .float (bounded candidate.optionConfirmationScore)),
    ("liquidity_score", .float (bounded candidate.liquidityScore)),
    ("freshness_score", .float (bounded candidate.freshnessScore)),
    ("volatility_score", .float (bounded candidate.volatilityScore)),
    ("regime_alignment_score", .float (bounded candidate.regimeAlignmentScore))]

/-- `_rank_score`. -/
def rankScoreOf (candidate : StrategyCandidate) : PyFloat :=
  bounded
    (bounded candidate.rawScore * decimal (9 / 50) +
      bounded candidate.confidenceScore * decimal (9 / 50) +
      bounded candidate.optionConfirmationScore * decimal (1 / 5) +
      bounded candidate.liquidityScore * decimal (7 / 50) +
      bounded candidate.freshnessScore * decimal (3 / 25) +
      bounded candidate.volatilityScore * decimal (2 / 25) +
      bounded candidate.regimeAlignmentScore * decimal (1 / 10))

/-- `_tie_breaker`. -/
def tieBreakerOf (candidate : StrategyCandidate) : List KeyPart :=
  [.number (-bounded candidate.optionConfirmationScore),
    .number (-bounded candidate.liquidityScore),
    .number (-bounded candidate.freshnessScore),
    .number (-bounded candidate.regimeAlignmentScore),
    .text candidate.strategyId,
    .text candidate.candidateId]

/-- `_sort_key`. -/
def rankSortKey (scored : PyFloat × StrategyCandidate) : List KeyPart :=
  .number (-scored.1) :: tieBreakerOf scored.2

/-! ### Exclusions -/

/-- `_no_trade_decision`. -/
def noTradeDecisionOf (candidate : StrategyCandidate) : Option String :=
  match getOr candidate.evidence noTradeFilterEvidenceKey (.dict []) with
  | .dict payload => writtenText (PyDict.get payload "decision")
  | _ => none

def exclusionReason (candidate : StrategyCandidate) : Option RankExclusionReason :=
  if candidate.status = .blockedCandidate then some .blockedCandidate
  else if candidate.status = .noTrade ∨ candidate.direction = .noTrade then some .noTrade
  else if candidate.status ∉ rankableStatuses then some .unrankableStatus
  else if noTradeDecisionOf candidate ≠ some NoTradeDecision.allowCandidate.value then
    some .notAllowedByNoTradeFilter
  else none

/-- `_rank_exclusion`. -/
def rankExclusion (candidate : StrategyCandidate) : Option CandidateRankExclusion :=
  (exclusionReason candidate).map fun reason =>
    { candidateId := candidate.candidateId
      strategyId := candidate.strategyId
      reason := reason
      status := candidate.status.value
      blockers := candidate.blockers }

def exclusionDiagnostic (candidate : StrategyCandidate) : Option PyDict :=
  (exclusionReason candidate).map fun reason =>
    candidateDiagnostic "RANK_EXCLUDED" candidate
      ("Candidate excluded from ranker: " ++ reason.value)

/-! ### Ranking -/

abbrev rankLe (first second : PyFloat × StrategyCandidate) : Prop :=
  keyLess (rankSortKey second) (rankSortKey first) = false

def scoredCandidates (candidates : List StrategyCandidate) : List (PyFloat × StrategyCandidate) :=
  ((candidates.filter fun candidate => (exclusionReason candidate).isNone).map
    fun candidate => (rankScoreOf candidate, candidate)).insertionSort rankLe

def rankRecord (entry : (PyFloat × StrategyCandidate) × ℕ) : CandidateRankRecord :=
  { candidateId := entry.1.2.candidateId
    strategyId := entry.1.2.strategyId
    rank := entry.2
    rankScore := entry.1.1
    componentScores := componentScores entry.1.2
    tieBreaker := tieBreakerOf entry.1.2 }

/-- `_attach_rank`. -/
def attachRank (candidate : StrategyCandidate) (record : CandidateRankRecord) :
    StrategyCandidate :=
  { candidate with
    status := .rankedOpportunity
    evidence := candidate.evidence.set rankerEvidenceKey (.dict record.toDict) }

/-- `enumerate(scored, start=1)`. -/
def rankedEntries (candidates : List StrategyCandidate) :
    List ((PyFloat × StrategyCandidate) × ℕ) :=
  (scoredCandidates candidates).zipIdx 1

def rankMovementCandidates (candidates : List StrategyCandidate) : MovementRankResult :=
  let entries := rankedEntries candidates
  let ranked := entries.map fun entry => attachRank entry.1.2 (rankRecord entry)
  let exclusions := candidates.filterMap rankExclusion
  { rankedCandidates := ranked
    rankRecords := entries.map rankRecord
    exclusions := exclusions
    summary :=
      { inputCount := candidates.length
        rankedCount := ranked.length
        excludedCount := exclusions.length
        blockedCount := countStatus candidates [.blockedCandidate]
        noTradeCount := candidates.countP fun candidate =>
          decide (candidate.status = .noTrade ∨ candidate.direction = .noTrade)
        topCandidateId := ranked.head?.map StrategyCandidate.candidateId }
    warnings := messageIf (ranked.isEmpty && !candidates.isEmpty) "NO_RANKABLE_CANDIDATES"
    diagnostics := candidates.filterMap exclusionDiagnostic }

/-! ### The pipeline -/

def pipelineSchemaVersion : ℕ := 1

structure MovementOpportunityPipelineSummary where
  schemaVersion : ℕ
  providerCount : ℕ
  registryCandidateCount : ℕ
  pooledCandidateCount : ℕ
  optionEnrichedCount : ℕ
  allowedCount : ℕ
  blockedCount : ℕ
  noTradeCount : ℕ
  rankedCount : ℕ
  excludedCount : ℕ
  diagnosticCount : ℕ
  warningCount : ℕ
  topCandidateId : Option String
  readOnly : Bool
deriving DecidableEq

structure MovementOpportunityPipelineResult where
  summary : MovementOpportunityPipelineSummary
  registryResult : MovementRegistryRunResult
  candidatePoolResult : CandidatePoolResult
  optionEnrichedCandidates : List StrategyCandidate
  noTradeFilterResult : NoTradeFilterBatchResult
  rankResult : MovementRankResult
  warnings : List String
  diagnostics : List PyDict

/-- `_collect_warnings`. -/
def collectWarnings (groups : List (List String)) : List String :=
  dedupe groups.flatten

/-- `payload.setdefault("is_order_action", False)`. -/
def withStage (item : PyDict) : PyDict :=
  if item.contains "is_order_action" then item else item.set "is_order_action" (.bool false)

/-- `_collect_diagnostics`. -/
def collectDiagnostics (groups : List (List PyDict)) : List PyDict :=
  groups.flatten.map withStage

def pipelineResultOf (context : Option StrategyContext) (registryResult : MovementRegistryRunResult)
    (pool : CandidatePoolResult) : MovementOpportunityPipelineResult :=
  let enriched := attachOptionPressureToCandidates context pool.candidates
  let filtered := applyNoTradeFilterToCandidates enriched
  let ranked := rankMovementCandidates filtered.candidates
  let warnings := collectWarnings
    [registryResult.warnings, pool.warnings, filtered.warnings, ranked.warnings]
  let diagnostics := collectDiagnostics
    [registryResult.diagnostics, pool.diagnostics, filtered.diagnostics, ranked.diagnostics]
  { summary :=
      { schemaVersion := pipelineSchemaVersion
        providerCount := registryResult.providerCount
        registryCandidateCount := registryResult.candidates.length
        pooledCandidateCount := pool.candidates.length
        optionEnrichedCount := enriched.length
        allowedCount := filtered.summary.allowedCount
        blockedCount := filtered.summary.blockedCount
        noTradeCount := filtered.summary.noTradeCount
        rankedCount := ranked.summary.rankedCount
        excludedCount := ranked.summary.excludedCount
        diagnosticCount := diagnostics.length
        warningCount := warnings.length
        topCandidateId := ranked.summary.topCandidateId
        readOnly := true }
    registryResult := registryResult
    candidatePoolResult := pool
    optionEnrichedCandidates := enriched
    noTradeFilterResult := filtered
    rankResult := ranked
    warnings := warnings
    diagnostics := diagnostics }

def runMovementOpportunityPipeline (registry : MovementStrategyRegistry)
    (context : Option StrategyContext) : Except PyError MovementOpportunityPipelineResult := do
  let registryResult := registry.run context
  let pool ← buildCandidatePool registryResult.candidates registryResult.warnings
    registryResult.diagnostics
  pure (pipelineResultOf context registryResult pool)

end Algotradify.Movement
