/-
Option pressure: what the option quotes of the context say about the direction of a candidate,
and the evidence that is attached to it.
-/

import Algotradify.Core.RiskState
import Algotradify.Movement.Pool

namespace Algotradify.Movement

open Py Dedup
open Core.Risk (pyMin pyMax)

def optionPressureEvidenceKey : String := "option_pressure_confirmation"

inductive OptionPressureStatus where
  | confirmed
  | weakConfirmation
  | conflictingPressure
  | blocked
  | notApplicable
deriving DecidableEq, Repr

def OptionPressureStatus.value : OptionPressureStatus → String
  | .confirmed => "CONFIRMED"
  | .weakConfirmation => "WEAK_CONFIRMATION"
  | .conflictingPressure => "CONFLICTING_PRESSURE"
  | .blocked => "BLOCKED"
  | .notApplicable => "NOT_APPLICABLE"

structure OptionPressureConfirmationResult where
  direction : Direction
  status : OptionPressureStatus
  pressureScore : PyFloat
  cePressureScore : PyFloat
  pePressureScore : PyFloat
  premiumBias : PyFloat
  spreadQualityScore : PyFloat
  depthQualityScore : PyFloat
  freshnessScore : PyFloat
  blockers : List String
  warnings : List String
  evidence : PyDict

def OptionPressureConfirmationResult.confirmed (result : OptionPressureConfirmationResult) : Bool :=
  decide (result.status = .confirmed)

def OptionPressureConfirmationResult.toDict (result : OptionPressureConfirmationResult) : PyDict :=
  [("direction", .str result.direction.value),
    ("status", .str result.status.value),
    ("confirmed", .bool result.confirmed),
    ("pressure_score", .float result.pressureScore),
    ("ce_pressure_score", .float result.cePressureScore),
    ("pe_pressure_score", .float result.pePressureScore),
    ("premium_bias", .float result.premiumBias),
    ("spread_quality_score", .float result.spreadQualityScore),
    ("depth_quality_score", .float result.depthQualityScore),
    ("freshness_score", .float result.freshnessScore),
    ("blockers", ofStrings result.blockers),
    ("warnings", ofStrings result.warnings),
    ("evidence", .dict result.evidence),
    ("is_order_action", .bool false)]

/-! ### Numbers -/

abbrev decimal (value : ℚ) : PyFloat := .finite value

/-- `round(value, 4)`. -/
def roundFour (value : ℚ) : ℚ :=
  roundHalfEven (value * 10000) / 10000

/-- `_bounded`. -/
def bounded (value : PyFloat) : PyFloat :=
  (pyMax (decimal 0) (pyMin (decimal 1) value)).roundWith roundFour

def spreadQuality : Option PyFloat → PyFloat
  | none => decimal 0
  | some spread =>
      if spread.le (decimal (3 / 4)) then decimal 1
      else if spread.le (decimal (3 / 2)) then decimal (3 / 4)
      else if spread.le (decimal 3) then decimal (9 / 20)
      else decimal 0

def depthQuality : Option PyFloat → PyFloat
  | none => decimal 0
  | some depth =>
      if depth.le (decimal 0) then decimal 0
      else if (decimal 500).le depth then decimal 1
      else if (decimal 250).le depth then decimal (3 / 4)
      else if (decimal 100).le depth then decimal (9 / 20)
      else decimal (1 / 5)

def sidePressureScore (premiumChange spreadPct depth optionLtp : Option PyFloat) : PyFloat :=
  if optionLtp.isNone then decimal 0
  else
    let premiumScore := bounded
      (decimal (7 / 20) + pyMax (decimal 0) (premiumChange.getD (decimal 0)) / decimal 40)
    bounded (premiumScore * decimal (11 / 20) + spreadQuality spreadPct * decimal (1 / 5) +
      depthQuality depth * decimal (1 / 4))

def directionalPressureScore (direction : Direction)
    (cePressure pePressure premiumBias spreadQuality depthQuality freshness : PyFloat) : PyFloat :=
  if direction = .noTrade then decimal 0
  else
    let directional := if direction = .buyCall then cePressure else pePressure
    let opposite := if direction = .buyCall then pePressure else cePressure
    let biasComponent :=
      pyMax (decimal 0) (if direction = .buyCall then premiumBias else -premiumBias)
    let contrast := pyMax (decimal 0) (directional - opposite)
    bounded (directional * decimal (9 / 20) + contrast * decimal (3 / 20) +
      biasComponent * decimal (3 / 20) + spreadQuality * decimal (1 / 10) +
      depthQuality * decimal (1 / 10) + freshness * decimal (1 / 20))

def hasConflictingPressure (direction : Direction) (premiumBias : PyFloat) : Bool :=
  match direction with
  | .buyCall => premiumBias.le (decimal (-3 / 25))
  | .buyPut => (decimal (3 / 25)).le premiumBias
  | .noTrade => false

/-! ### The context -/

/-- `_premium_bias`. -/
def premiumBiasOf (context : StrategyContext) : PyFloat :=
  let ce := context.cePremiumChange.getD (decimal 0)
  let pe := context.pePremiumChange.getD (decimal 0)
  pyMax (decimal (-1)) (pyMin (decimal 1) ((ce - pe) / decimal 40))

def sideOf {α : Type} (direction : Direction) (ce pe : α) : α :=
  if direction = .buyCall then ce else pe

def directionalSpreadQuality (context : StrategyContext) : Direction → PyFloat
  | .buyCall => spreadQuality context.ceSpreadPct
  | .buyPut => spreadQuality context.peSpreadPct
  | .noTrade => pyMin (spreadQuality context.ceSpreadPct) (spreadQuality context.peSpreadPct)

def directionalDepthQuality (context : StrategyContext) : Direction → PyFloat
  | .buyCall => depthQuality context.ceDepth
  | .buyPut => depthQuality context.peDepth
  | .noTrade => pyMin (depthQuality context.ceDepth) (depthQuality context.peDepth)

/-- `_freshness_score`. -/
def freshnessOf (context : StrategyContext) : PyFloat :=
  match context.optionLtpAgeSec with
  | none => decimal 0
  | some age => bounded (decimal 1 - pyMax (decimal 0) age / decimal 10)

/-- `_evidence`. -/
def pressureEvidence (context : StrategyContext) : PyDict :=
  [("symbol", .str context.symbol),
    ("ts_epoch", .float context.tsEpoch),
    ("option_ce_ltp", ofOptionFloat context.optionCeLtp),
    ("option_pe_ltp", ofOptionFloat context.optionPeLtp),
    ("ce_premium_change", ofOptionFloat context.cePremiumChange),
    ("pe_premium_change", ofOptionFloat context.pePremiumChange),
    ("ce_spread_pct", ofOptionFloat context.ceSpreadPct),
    ("pe_spread_pct", ofOptionFloat context.peSpreadPct),
    ("ce_depth", ofOptionFloat context.ceDepth),
    ("pe_depth", ofOptionFloat context.peDepth),
    ("option_ltp_age_sec", ofOptionFloat context.optionLtpAgeSec),
    ("quote_source", ofOptionString context.quoteSource),
    ("is_order_action", .bool false)]

/-- `value is None or value > limit`. -/
def missingOrAbove (value : Option PyFloat) (limit : ℚ) : Bool :=
  match value with
  | none => true
  | some value => (decimal limit).lt value

/-- `depth is None or depth <= 0`. -/
def missingDepth : Option PyFloat → Bool
  | none => true
  | some depth => depth.le (decimal 0)

/-- `context.quote_source and context.quote_source.upper() == "FALLBACK"`. -/
def fallbackQuote : Option String → Bool
  | none => false
  | some source => upper source == "FALLBACK"

def quoteBlockers (context : StrategyContext) : List String :=
  messageIf (missingOrAbove context.optionLtpAgeSec 5) "STALE_OPTION_LTP" ++
    messageIf (fallbackQuote context.quoteSource) "FALLBACK_QUOTE_ONLY"

def sideBlockers (context : StrategyContext) (direction : Direction) : List String :=
  messageIf (sideOf direction context.optionCeLtp context.optionPeLtp).isNone
      "UNRESOLVED_CONTRACT" ++
    messageIf (missingOrAbove (sideOf direction context.ceSpreadPct context.peSpreadPct) 3)
      "WIDE_SPREAD" ++
    messageIf (missingDepth (sideOf direction context.ceDepth context.peDepth)) "MISSING_DEPTH"

/-- `_base_blockers`: the blockers and the warnings. -/
def baseBlockers (context : StrategyContext) (direction : Direction) :
    List String × List String :=
  if direction = .noTrade then (quoteBlockers context, [])
  else
    (quoteBlockers context ++ sideBlockers context direction,
      messageIf (context.cePremiumChange.isNone || context.pePremiumChange.isNone)
        "OPTION_PREMIUM_CHANGE_MISSING")

/-! ### Confirmation -/

/-- `_result`: every score is bounded again, and every list deduplicated. -/
def OptionPressureConfirmationResult.settle (result : OptionPressureConfirmationResult) :
    OptionPressureConfirmationResult :=
  { result with
    pressureScore := bounded result.pressureScore
    cePressureScore := bounded result.cePressureScore
    pePressureScore := bounded result.pePressureScore
    premiumBias :=
      (pyMax (decimal (-1)) (pyMin (decimal 1) result.premiumBias)).roundWith roundFour
    spreadQualityScore := bounded result.spreadQualityScore
    depthQualityScore := bounded result.depthQualityScore
    freshnessScore := bounded result.freshnessScore
    blockers := dedupe result.blockers
    warnings := dedupe result.warnings }

def contextPressure (context : StrategyContext) (direction : Direction) : PyFloat :=
  directionalPressureScore direction
    (sidePressureScore context.cePremiumChange context.ceSpreadPct context.ceDepth
      context.optionCeLtp)
    (sidePressureScore context.pePremiumChange context.peSpreadPct context.peDepth
      context.optionPeLtp)
    (premiumBiasOf context) (directionalSpreadQuality context direction)
    (directionalDepthQuality context direction) (freshnessOf context)

structure PressureVerdict where
  status : OptionPressureStatus
  blockers : List String := []
  warnings : List String := []

def pressureVerdict (context : StrategyContext) (direction : Direction) (blockers : List String) :
    PressureVerdict :=
  if direction = .noTrade then
    { status := if blockers = [] then .notApplicable else .blocked
      warnings := ["OPTION_PRESSURE_NOT_APPLICABLE_FOR_NO_TRADE"] }
  else if blockers ≠ [] then { status := .blocked }
  else if hasConflictingPressure direction (premiumBiasOf context) then
    { status := .conflictingPressure, blockers := ["CONFLICTING_OPTION_PRESSURE"] }
  else if (decimal (31 / 50)).le (contextPressure context direction) then { status := .confirmed }
  else { status := .weakConfirmation, warnings := ["WEAK_OPTION_CONFIRMATION"] }

def confirmOptionPressure (context : Option StrategyContext) (direction : Direction) :
    OptionPressureConfirmationResult :=
  match context with
  | none =>
      OptionPressureConfirmationResult.settle
        { direction := direction
          status := .blocked
          pressureScore := decimal 0
          cePressureScore := decimal 0
          pePressureScore := decimal 0
          premiumBias := decimal 0
          spreadQualityScore := decimal 0
          depthQualityScore := decimal 0
          freshnessScore := decimal 0
          blockers := ["CONTEXT_REQUIRED"]
          warnings := []
          evidence := [] }
  | some context =>
      let base := baseBlockers context direction
      let verdict := pressureVerdict context direction base.1
      OptionPressureConfirmationResult.settle
        { direction := direction
          status := verdict.status
          pressureScore := contextPressure context direction
          cePressureScore := sidePressureScore context.cePremiumChange context.ceSpreadPct
            context.ceDepth context.optionCeLtp
          pePressureScore := sidePressureScore context.pePremiumChange context.peSpreadPct
            context.peDepth context.optionPeLtp
          premiumBias := premiumBiasOf context
          spreadQualityScore := directionalSpreadQuality context direction
          depthQualityScore := directionalDepthQuality context direction
          freshnessScore := freshnessOf context
          blockers := base.1 ++ verdict.blockers
          warnings := base.2 ++ verdict.warnings
          evidence := pressureEvidence context }

def attachOptionPressureConfirmation (context : Option StrategyContext)
    (candidate : StrategyCandidate) : StrategyCandidate :=
  let confirmation := confirmOptionPressure context candidate.direction
  { candidate with
    optionConfirmationScore := bounded
      (if confirmation.status = .blocked then decimal 0 else confirmation.pressureScore)
    liquidityScore := bounded (pyMin (pyMin candidate.liquidityScore
      confirmation.spreadQualityScore) confirmation.depthQualityScore)
    freshnessScore := bounded (pyMin candidate.freshnessScore confirmation.freshnessScore)
    blockers := dedupe (candidate.blockers ++ confirmation.blockers ++
      messageIf (decide (confirmation.status = .conflictingPressure)) "CONFLICTING_TRAP_SIGNAL")
    warnings := dedupe (candidate.warnings ++ confirmation.warnings ++
      messageIf (decide (confirmation.status = .weakConfirmation)) "WEAK_OPTION_CONFIRMATION")
    evidence := candidate.evidence.set optionPressureEvidenceKey (.dict confirmation.toDict) }

def attachOptionPressureToCandidates (context : Option StrategyContext)
    (candidates : List StrategyCandidate) : List StrategyCandidate :=
  candidates.map (attachOptionPressureConfirmation context)

end Algotradify.Movement
