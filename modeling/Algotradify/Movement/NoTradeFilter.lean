/-
The no-trade filter: from its blockers, its direction and the attached option pressure a
candidate is allowed, blocked, or turned into no trade.
-/

import Algotradify.Movement.Pressure

namespace Algotradify.Movement

open Py Dedup

def noTradeFilterEvidenceKey : String := "no_trade_filter"

def hardNoTradeBlockers : List String :=
  ["MARKET_CLOSED", "STALE_OPTION_LTP", "FALLBACK_QUOTE_ONLY", "UNRESOLVED_CONTRACT",
    "WIDE_SPREAD", "MISSING_DEPTH", "CONFLICTING_TRAP_SIGNAL", "NO_TRADE_CHOP",
    "EXECUTION_SAFETY_NOT_PERMITTED"]

def weakConfirmationCompoundBlockers : List String :=
  ["NO_TRADE_CHOP", "WIDE_SPREAD", "MISSING_DEPTH", "STALE_OPTION_LTP", "FALLBACK_QUOTE_ONLY",
    "CONFLICTING_TRAP_SIGNAL"]

inductive NoTradeDecision where
  | allowCandidate
  | blockCandidate
  | noTrade
deriving DecidableEq, Repr

def NoTradeDecision.value : NoTradeDecision → String
  | .allowCandidate => "ALLOW_CANDIDATE"
  | .blockCandidate => "BLOCK_CANDIDATE"
  | .noTrade => "NO_TRADE"

structure NoTradeFilterResult where
  candidateId : String
  decision : NoTradeDecision
  blockers : List String
  warnings : List String
  diagnostics : List PyDict

structure NoTradeFilterSummary where
  inputCount : ℕ
  allowedCount : ℕ
  blockedCount : ℕ
  noTradeCount : ℕ
deriving DecidableEq

structure NoTradeFilterBatchResult where
  candidates : List StrategyCandidate
  results : List NoTradeFilterResult
  summary : NoTradeFilterSummary
  warnings : List String
  diagnostics : List PyDict

/-! ### The attached option pressure -/

def optionPressurePayload (candidate : StrategyCandidate) : PyDict :=
  (getOr candidate.evidence optionPressureEvidenceKey (.dict [])).asDict

/-- `str(value) if value else None`. -/
def writtenText (value : PyValue) : Option String :=
  if value.truthy then some (printValue value) else none

def optionPressureStatus (candidate : StrategyCandidate) : Option String :=
  writtenText ((optionPressurePayload candidate).get "status")

/-- `_float(value, 1.0) < 0.45`. -/
def poorQuality (value : PyValue) : Bool :=
  ((floatOrNone value).getD (decimal 1)).lt (decimal (9 / 20))

def weakConfirmationWithBadContext (candidate : StrategyCandidate) (blockers : List String)
    (optionPayload : PyDict) : Bool :=
  (optionPayload.get "status").isStr OptionPressureStatus.weakConfirmation.value &&
    (blockers.any weakConfirmationCompoundBlockers.contains ||
      candidate.liquidityScore.lt (decimal (9 / 20)) ||
      candidate.freshnessScore.lt (decimal (9 / 20)) ||
      candidate.regimeAlignmentScore.lt (decimal (1 / 4)) ||
      poorQuality (optionPayload.get "spread_quality_score") ||
      poorQuality (optionPayload.get "depth_quality_score") ||
      poorQuality (optionPayload.get "freshness_score"))

def hasHardBlocker (blockers : List String) : Bool :=
  blockers.any hardNoTradeBlockers.contains

/-! ### The decision -/

/-- `_diagnostic`, which the filter and the ranker share. -/
def candidateDiagnostic (code : String) (candidate : StrategyCandidate) (message : String) :
    PyDict :=
  [("code", .str code), ("candidate_id", .str candidate.candidateId),
    ("strategy_id", .str candidate.strategyId), ("message", .str message),
    ("is_order_action", .bool false)]

/-- A decision with its diagnostic, and the blockers and warnings that it adds. -/
structure FilterVerdict where
  decision : NoTradeDecision
  code : String
  message : String
  blockers : List String := []
  warnings : List String := []

/-- The branches of `apply_no_trade_filter`, for the blockers that are known before them. -/
def filterVerdict (candidate : StrategyCandidate) (blockers : List String) : FilterVerdict :=
  let optionStatus := optionPressureStatus candidate
  if candidate.status = .noTrade then
    { decision := .noTrade
      code := "NO_TRADE_STATUS"
      message := "Candidate already has NO_TRADE status."
      blockers := "NO_TRADE_STATUS" ::
        messageIf (decide (candidate.direction = .noTrade)) "NO_TRADE_DIRECTION" }
  else if candidate.direction = .noTrade then
    { decision := .noTrade
      code := "NO_TRADE_DIRECTION"
      message := "Candidate direction is NO_TRADE."
      blockers := ["NO_TRADE_DIRECTION"] }
  else if optionStatus = some OptionPressureStatus.conflictingPressure.value then
    { decision := .blockCandidate
      code := "CONFLICTING_OPTION_PRESSURE"
      message := "Option pressure conflicts with candidate direction."
      blockers := ["CONFLICTING_OPTION_PRESSURE", "CONFLICTING_TRAP_SIGNAL"] }
  else if hasHardBlocker blockers then
    { decision := .blockCandidate
      code := "HARD_NO_TRADE_BLOCKER"
      message := "Candidate contains a hard no-trade blocker." }
  else if optionStatus = some OptionPressureStatus.blocked.value then
    { decision := .blockCandidate
      code := "OPTION_PRESSURE_BLOCKED"
      message := "Option pressure confirmation is blocked." }
  else if optionStatus = some OptionPressureStatus.notApplicable.value then
    -- the direction was found to be no NO_TRADE above
    { decision := .blockCandidate
      code := "OPTION_PRESSURE_NOT_APPLICABLE"
      message := "Option pressure is not applicable for this candidate."
      blockers := ["OPTION_PRESSURE_NOT_APPLICABLE"] }
  else if weakConfirmationWithBadContext candidate blockers (optionPressurePayload candidate) then
    { decision := .blockCandidate
      code := "WEAK_CONFIRMATION_WITH_RISK_CONTEXT"
      message := "Weak option confirmation is combined with bad liquidity, freshness, or " ++
        "regime context."
      blockers := ["WEAK_CONFIRMATION_WITH_RISK_CONTEXT"] }
  else if optionStatus = some OptionPressureStatus.weakConfirmation.value then
    { decision := .allowCandidate
      code := "WEAK_OPTION_CONFIRMATION_ALLOWED"
      message := "Weak option confirmation allowed because no compounding no-trade risk was " ++
        "present."
      warnings := ["WEAK_OPTION_CONFIRMATION_ALLOWED"] }
  else
    { decision := .allowCandidate
      code := "CANDIDATE_ALLOWED"
      message := "Candidate passed no-trade filter." }

def pressureBlockers (candidate : StrategyCandidate) : List String :=
  candidate.blockers ++
    messageIf (decide (optionPressureStatus candidate = some OptionPressureStatus.blocked.value))
      "OPTION_PRESSURE_BLOCKED"

def filterResult (candidate : StrategyCandidate) : NoTradeFilterResult :=
  let blockers := pressureBlockers candidate
  let verdict := filterVerdict candidate blockers
  { candidateId := candidate.candidateId
    decision := verdict.decision
    blockers := dedupe (blockers ++ verdict.blockers)
    warnings := dedupe (candidate.warnings ++ verdict.warnings)
    diagnostics := [candidateDiagnostic verdict.code candidate verdict.message] }

def filterEvidence (result : NoTradeFilterResult) : PyDict :=
  [("decision", .str result.decision.value),
    ("blockers", ofStrings result.blockers),
    ("warnings", ofStrings result.warnings),
    ("diagnostics", .list (result.diagnostics.map PyValue.dict)),
    ("is_order_action", .bool false)]

def decidedStatus (candidate : StrategyCandidate) : NoTradeDecision → CandidateStatus
  | .noTrade => .noTrade
  | .blockCandidate => .blockedCandidate
  | .allowCandidate => candidate.status

def decidedDirection (candidate : StrategyCandidate) : NoTradeDecision → Direction
  | .noTrade => .noTrade
  | _ => candidate.direction

/-- `_apply_decision`. -/
def applyDecision (candidate : StrategyCandidate) (result : NoTradeFilterResult) :
    StrategyCandidate :=
  { candidate with
    direction := decidedDirection candidate result.decision
    status := decidedStatus candidate result.decision
    blockers := result.blockers
    warnings := result.warnings
    evidence := candidate.evidence.set noTradeFilterEvidenceKey (.dict (filterEvidence result)) }

def applyNoTradeFilter (candidate : StrategyCandidate) :
    StrategyCandidate × NoTradeFilterResult :=
  (applyDecision candidate (filterResult candidate), filterResult candidate)

def countDecision (results : List NoTradeFilterResult) (decision : NoTradeDecision) : ℕ :=
  results.countP fun result => decide (result.decision = decision)

def applyNoTradeFilterToCandidates (candidates : List StrategyCandidate) :
    NoTradeFilterBatchResult :=
  let filtered := candidates.map applyNoTradeFilter
  let results := filtered.map Prod.snd
  { candidates := filtered.map Prod.fst
    results := results
    summary :=
      { inputCount := candidates.length
        allowedCount := countDecision results .allowCandidate
        blockedCount := countDecision results .blockCandidate
        noTradeCount := countDecision results .noTrade }
    warnings := dedupe (results.flatMap NoTradeFilterResult.warnings)
    diagnostics := results.flatMap NoTradeFilterResult.diagnostics }

end Algotradify.Movement
