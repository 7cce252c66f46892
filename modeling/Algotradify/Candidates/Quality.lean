/-
Trade quality: the score of an execution readiness record, and the ranking by it.

A record that is not allowed scores nothing. One that is allowed is scored by five
components, less the penalties for warnings and for a contract found by a fallback. Floats
are exact; `rounding` is what `round` does to two digits.

The numbers of a trade quality score.

What the score reads of an allowed record is a handful of numbers. Its parts and its penalties
are functions of these, and one record may be changed in one of them alone.
-/

import Algotradify.Backtest.FillModel
import Algotradify.Paper.Common
import Algotradify.Sorting.Stable
import Mathlib.Data.Prod.Lex
import Mathlib.Data.String.Basic

namespace Algotradify.Candidates

open Py Core.Risk

variable {rounding : ℚ → ℚ} {readiness market : PyDict}

inductive TradeQualityStatus where
  | qualified
  | blockedNotExecutionReady
  | degradedByWarnings
deriving DecidableEq, Repr

def TradeQualityStatus.value : TradeQualityStatus → String
  | .qualified => "QUALIFIED"
  | .blockedNotExecutionReady => "BLOCKED_NOT_EXECUTION_READY"
  | .degradedByWarnings => "DEGRADED_BY_WARNINGS"

structure TradeQualityScore where
  candidateId : String
  qualityScore : PyFloat
  status : TradeQualityStatus
  rank : Option Int := none
  components : List (String × PyFloat) := []
  penalties : List (String × PyFloat) := []
  blockers : List PyValue := []
  warnings : List PyValue := []
  executionReadiness : PyDict := []

def ofFloats (entries : List (String × PyFloat)) : PyValue :=
  .dict (Assoc.mapValues PyValue.float entries)

def TradeQualityScore.toDict (score : TradeQualityScore) : PyDict :=
  [("candidate_id", .str score.candidateId), ("quality_score", .float score.qualityScore),
    ("status", .str score.status.value), ("rank", ofOptionInt score.rank),
    ("components", ofFloats score.components), ("penalties", ofFloats score.penalties),
    ("blockers", .list score.blockers), ("warnings", .list score.warnings),
    ("execution_readiness", .dict score.executionReadiness), ("is_order", .bool false)]

/-! ### Reading evidence -/

/-- `value or {}`, when it is to be asked for a field. -/
def mappingOr (value : PyValue) : Except PyError PyDict :=
  if !value.truthy then .ok []
  else
    match value with
    | .dict entries => .ok entries
    | _ => .error (.runtimeError "object has no attribute 'get'")

/-- `len(value)`. -/
def lengthOf : PyValue → Except PyError Nat
  | .str text => .ok text.length
  | .list items => .ok items.length
  | .dict entries => .ok entries.length
  | _ => .error (.typeError "object has no len()")

/-- `_first_number`. -/
def firstNumber (values : List PyValue) : Option PyFloat :=
  values.findSome? Paper.floatOrNone

/-- `max(0.0, min(top, value))`. -/
def upTo (top : ℚ) (value : PyFloat) : PyFloat :=
  pyMax (.finite 0) (pyMin (.finite top) value)

/-! ### Components -/

/-- `_confidence_component`. -/
def confidenceComponent (candidateTruth opportunity : PyDict) : PyFloat :=
  let value := firstNumber
    [PyDict.get (PyDict.get candidateTruth "normalized").asDict "confidence",
      PyDict.get (PyDict.get candidateTruth "raw").asDict "confidence",
      PyDict.get opportunity "rank_score", PyDict.get opportunity "score"]
  match value with
  | none => .finite 10
  | some value => upTo 25 (value / .finite 100 * .finite 25)

/-- `_broker_component`. -/
def brokerComponent (broker : PyDict) : PyFloat :=
  let status := PyDict.get broker "readiness_status"
  if status.isStr "RESOLVED_EXACT" then .finite 20
  else if status.isStr "RESOLVED_FALLBACK" then .finite 14
  else .finite 0

def quoteOf (market : PyDict) : PyDict :=
  match PyDict.get market "quote" with
  | .dict quote => quote
  | _ => market

def measuredComponent (rounding : ℚ → ℚ) (weight unmeasured : ℚ) (market : PyDict)
    (measure : Option PyFloat) (limit : PyFloat) : PyFloat :=
  match measure with
  | none => if (PyDict.get market "status").isStr "READY" then .finite unmeasured else .finite 0
  | some measure =>
      let left := pyMax (.finite 0) (.finite 1 - pyMin (measure / limit) (.finite 1))
      (.finite weight * left).roundWith rounding

/-- `_quote_freshness_component`. -/
def quoteFreshnessComponent (rounding : ℚ → ℚ) (market : PyDict) : PyFloat :=
  let quote := quoteOf market
  measuredComponent rounding 15 8 market
    (firstNumber [PyDict.get quote "quote_age_sec", PyDict.get quote "ltp_age_sec",
      PyDict.get quote "age_sec"])
    (orDefault (firstNumber [PyDict.get quote "max_quote_age_sec"]) (.finite 2))

/-- `_liquidity_component`. -/
def liquidityComponent (rounding : ℚ → ℚ) (market : PyDict) : PyFloat :=
  let quote := quoteOf market
  measuredComponent rounding 20 12 market (firstNumber [PyDict.get quote "spread_pct"])
    (orDefault (firstNumber [PyDict.get quote "max_spread_pct"]) (.finite 1))

/-- `_risk_component`. -/
def riskComponent (risk : PyDict) : PyFloat :=
  if (PyDict.get risk "allowed").isTrue then .finite 20 else .finite 0

/-! ### Penalties -/

def countPenalty (name : String) (top : ℚ) (count : Nat) : List (String × PyFloat) :=
  [(name, pyMin (.finite top) (.finite (2 * count)))]

def warningPenalty (name : String) (evidence : PyDict) :
    Except PyError (List (String × PyFloat)) := do
  let warnings := PyDict.get evidence "warnings"
  if !warnings.truthy then pure []
  else do
    let count ← lengthOf warnings
    pure (countPenalty name 6 count)

/-- `_penalties`. -/
def penaltiesOf (warnings : List PyValue) (broker market risk : PyDict) :
    Except PyError (List (String × PyFloat)) := do
  let ofWarnings := if warnings.isEmpty then [] else countPenalty "warnings" 10 warnings.length
  let ofBroker := if (PyDict.get broker "fallback_used").truthy
    then [("broker_fallback", PyFloat.finite 5)] else []
  let ofMarket ← warningPenalty "market_warnings" market
  let ofRisk ← warningPenalty "risk_warnings" risk
  pure (ofWarnings ++ ofBroker ++ ofMarket ++ ofRisk)

/-! ### The score -/

def scoreAllowed (rounding : ℚ → ℚ) (readiness : PyDict) (candidateId : String)
    (blockers warnings : List PyValue) : Except PyError TradeQualityScore := do
  let evidence ← mappingOr (PyDict.get readiness "evidence")
  let candidateTruth ← mappingOr (PyDict.get evidence "candidate_truth")
  let opportunity ← mappingOr (PyDict.get evidence "opportunity")
  let broker ← mappingOr (PyDict.get evidence "broker_contract")
  let market ← mappingOr (PyDict.get evidence "market_readiness")
  let risk ← mappingOr (PyDict.get evidence "risk")
  let components :=
    [("confidence", confidenceComponent candidateTruth opportunity),
      ("broker_contract", brokerComponent broker),
      ("quote_freshness", quoteFreshnessComponent rounding market),
      ("liquidity", liquidityComponent rounding market), ("risk", riskComponent risk)]
  let penalties ← penaltiesOf warnings broker market risk
  let raw := sumFloats (components.map Prod.snd) - sumFloats (penalties.map Prod.snd)
  pure
    { candidateId := candidateId
      qualityScore := upTo 100 (raw.roundWith rounding)
      status := if warnings.isEmpty && penalties.isEmpty then .qualified else .degradedByWarnings
      components := components
      penalties := penalties
      blockers := blockers
      warnings := warnings
      executionReadiness := readiness }

def scoreBlocked (readiness : PyDict) (candidateId : String) (blockers warnings : List PyValue) :
    TradeQualityScore :=
  { candidateId := candidateId
    qualityScore := .finite 0
    status := .blockedNotExecutionReady
    blockers := if blockers.isEmpty then [.str "EXECUTION_NOT_ALLOWED"] else blockers
    warnings := warnings
    executionReadiness := readiness }

/-- `score_trade_quality`. -/
def scoreTradeQuality (rounding : ℚ → ℚ) (readiness : PyDict) :
    Except PyError TradeQualityScore := do
  let candidateId := printValue ((PyDict.get readiness "candidate_id").or (.str "unknown"))
  let blockers ← toItems ((PyDict.get readiness "blockers").or (.list []))
  let warnings ← toItems ((PyDict.get readiness "warnings").or (.list []))
  if !(PyDict.get readiness "execution_allowed").truthy then
    pure (scoreBlocked readiness candidateId blockers warnings)
  else scoreAllowed rounding readiness candidateId blockers warnings

/-! ### The ranking -/

/-- `first < second` of pairs of a score and an id. -/
def scoredLess (first second : PyFloat × String) : Bool :=
  first.1.lt second.1 || (first.1.eq second.1 && decide (first.2 < second.2))

def TradeQualityScore.rankedBy (score : TradeQualityScore) : PyFloat × String :=
  (score.qualityScore, score.candidateId)

def RankedBefore (first second : TradeQualityScore) : Prop :=
  scoredLess first.rankedBy second.rankedBy = false

instance : DecidableRel RankedBefore := fun _ _ => inferInstanceAs (Decidable (_ = false))

def withRanks (rank : Int) : List TradeQualityScore → List TradeQualityScore
  | [] => []
  | row :: rest => { row with rank := some rank } :: withRanks (rank + 1) rest

/-- `rank_trade_quality`. -/
def rankTradeQuality (rounding : ℚ → ℚ) (records : List PyDict) :
    Except PyError (List TradeQualityScore) := do
  let scored ← records.mapM (scoreTradeQuality rounding)
  pure (withRanks 1 (scored.insertionSort RankedBefore))

/-! ### Every score is a number -/

theorem scoredLess_eq_false_iff {low high : ℚ} {first second : String} :
    scoredLess (.finite low, first) (.finite high, second) = false ↔
      toLex (high, second) ≤ toLex (low, first) := by
  rw [Prod.Lex.toLex_le_toLex]
  simp only [scoredLess, PyFloat.lt, PyFloat.eq, Bool.or_eq_false_iff, Bool.and_eq_false_iff,
    decide_eq_false_iff_not, not_lt]
  constructor
  · rintro ⟨atMost, apart | later⟩
    · exact .inl (lt_of_le_of_ne atMost fun same => apart same.symm)
    · rcases lt_or_eq_of_le atMost with less | same
      · exact .inl less
      · exact .inr ⟨same, later⟩
  · rintro (less | ⟨same, later⟩)
    · exact ⟨less.le, .inl less.ne'⟩
    · exact ⟨same.le, .inr later⟩

theorem upTo_finite (top : ℚ) (value : PyFloat) : ∃ number : ℚ, upTo top value = .finite number := by
  have least : ∀ bounded : PyFloat, bounded ≠ .posInf →
      ∃ number : ℚ, pyMax (.finite 0) bounded = .finite number := by
    intro bounded low
    unfold pyMax
    cases bounded with
    | finite number =>
        split
        · exact ⟨number, rfl⟩
        · exact ⟨0, rfl⟩
    | nan => exact ⟨0, rfl⟩
    | posInf => exact absurd rfl low
    | negInf => exact ⟨0, rfl⟩
  apply least
  unfold pyMin
  cases value with
  | finite number => split <;> exact PyFloat.noConfusion
  | nan | posInf | negInf => exact PyFloat.noConfusion

/-- What every score keeps of its record. Whatever the evidence says, it is a finite number. -/
structure ScoreOf (readiness : PyDict) (score : TradeQualityScore) : Prop where
  finite : ∃ number : ℚ, score.qualityScore = .finite number
  id : score.candidateId = printValue ((PyDict.get readiness "candidate_id").or (.str "unknown"))
  record : score.executionReadiness = readiness

theorem scoreOf_of_scoreTradeQuality {score : TradeQualityScore}
    (scored : scoreTradeQuality rounding readiness = .ok score) :
    ScoreOf readiness score := by
  obtain ⟨blockers, -, scored⟩ := bind_eq_ok.mp scored
  obtain ⟨warnings, -, scored⟩ := bind_eq_ok.mp scored
  split at scored
  · rw [← Except.ok.inj scored]
    exact ⟨⟨0, rfl⟩, rfl, rfl⟩
  · unfold scoreAllowed at scored
    obtain ⟨evidence, -, scored⟩ := bind_eq_ok.mp scored
    obtain ⟨candidateTruth, -, scored⟩ := bind_eq_ok.mp scored
    obtain ⟨opportunity, -, scored⟩ := bind_eq_ok.mp scored
    obtain ⟨broker, -, scored⟩ := bind_eq_ok.mp scored
    obtain ⟨market, -, scored⟩ := bind_eq_ok.mp scored
    obtain ⟨risk, -, scored⟩ := bind_eq_ok.mp scored
    obtain ⟨penalties, -, scored⟩ := bind_eq_ok.mp scored
    rw [← Except.ok.inj scored]
    exact ⟨upTo_finite 100 _, rfl, rfl⟩

theorem mem_withRanks {rank : Int} {scores : List TradeQualityScore} {row : TradeQualityScore}
    (member : row ∈ withRanks rank scores) :
    ∃ score ∈ scores, ∃ own, row = { score with rank := some own } := by
  induction scores generalizing rank with
  | nil => cases member
  | cons score rest ih =>
      rcases List.mem_cons.mp member with here | later
      · exact ⟨score, List.mem_cons_self, rank, here⟩
      · obtain ⟨other, inRest, own, made⟩ := ih later
        exact ⟨other, List.mem_cons_of_mem _ inRest, own, made⟩

theorem scoreOf_of_ranked {records : List PyDict} {ranked : List TradeQualityScore}
    (ran : rankTradeQuality rounding records = .ok ranked) {row : TradeQualityScore}
    (member : row ∈ ranked) :
    ∃ record ∈ records, ScoreOf record row := by
  obtain ⟨scored, each, made⟩ := bind_eq_ok.mp ran
  rw [← Except.ok.inj made] at member
  obtain ⟨score, sorted, rank, same⟩ := mem_withRanks member
  have inScored := (List.perm_insertionSort _ _).mem_iff.mp sorted
  obtain ⟨record, given, own⟩ := exists_of_mem_mapM each score inScored
  have kept := scoreOf_of_scoreTradeQuality own
  rw [same]
  exact ⟨record, given, kept.finite, kept.id, kept.record⟩

/-! ### Parts -/

/-- `round(value, 2)`. -/
def roundTwo : ℚ → ℚ :=
  Backtest.roundPlaces 2

inductive ContractMatch where
  | resolvedExact
  | resolvedFallback
  | unresolved
deriving DecidableEq, Repr

structure QualityInputs where
  confidence : Option ℚ
  contract : ContractMatch
  fallbackUsed : Bool
  ready : Bool
  age : Option ℚ
  maxAge : ℚ
  spread : Option ℚ
  maxSpread : ℚ
  riskAllowed : Bool
  warnings : ℕ
  marketWarnings : ℕ
  riskWarnings : ℕ

/-! ### The parts of a score -/

def confidencePart : Option ℚ → ℚ
  | none => 10
  | some value => max 0 (min 25 (value / 100 * 25))

def ContractMatch.part : ContractMatch → ℚ
  | .resolvedExact => 20
  | .resolvedFallback => 14
  | .unresolved => 0

def measuredPart (weight unmeasured : ℚ) (ready : Bool) (measure : Option ℚ) (limit : ℚ) : ℚ :=
  match measure with
  | none => if ready then unmeasured else 0
  | some value => roundTwo (weight * max 0 (1 - min (value / limit) 1))

namespace QualityInputs

variable (inputs : QualityInputs)

def freshnessPart : ℚ :=
  measuredPart 15 8 inputs.ready inputs.age inputs.maxAge

def liquidityPart : ℚ :=
  measuredPart 20 12 inputs.ready inputs.spread inputs.maxSpread

def riskPart : ℚ :=
  if inputs.riskAllowed then 20 else 0

def fallbackPenalty : ℚ :=
  if inputs.fallbackUsed then 5 else 0

def total : ℚ :=
  confidencePart inputs.confidence + inputs.contract.part + inputs.freshnessPart +
    inputs.liquidityPart + inputs.riskPart

def penalty : ℚ :=
  min 10 (2 * (inputs.warnings : ℚ)) + inputs.fallbackPenalty +
    min 6 (2 * (inputs.marketWarnings : ℚ)) + min 6 (2 * (inputs.riskWarnings : ℚ))

def score : ℚ :=
  max 0 (min 100 (roundTwo (inputs.total - inputs.penalty)))

end QualityInputs

/-! ### Reading them -/

structure EvidenceParts where
  candidateTruth : PyDict
  opportunity : PyDict
  broker : PyDict
  market : PyDict
  risk : PyDict

def partsOf (readiness : PyDict) : Except PyError EvidenceParts := do
  let evidence ← mappingOr (PyDict.get readiness "evidence")
  let candidateTruth ← mappingOr (PyDict.get evidence "candidate_truth")
  let opportunity ← mappingOr (PyDict.get evidence "opportunity")
  let broker ← mappingOr (PyDict.get evidence "broker_contract")
  let market ← mappingOr (PyDict.get evidence "market_readiness")
  let risk ← mappingOr (PyDict.get evidence "risk")
  pure ⟨candidateTruth, opportunity, broker, market, risk⟩

def confidenceOf (candidateTruth opportunity : PyDict) : Option PyFloat :=
  firstNumber
    [PyDict.get (PyDict.get candidateTruth "normalized").asDict "confidence",
      PyDict.get (PyDict.get candidateTruth "raw").asDict "confidence",
      PyDict.get opportunity "rank_score", PyDict.get opportunity "score"]

def contractOf (broker : PyDict) : ContractMatch :=
  let status := PyDict.get broker "readiness_status"
  if status.isStr "RESOLVED_EXACT" then .resolvedExact
  else if status.isStr "RESOLVED_FALLBACK" then .resolvedFallback
  else .unresolved

def ageOf (market : PyDict) : Option PyFloat :=
  let quote := quoteOf market
  firstNumber [PyDict.get quote "quote_age_sec", PyDict.get quote "ltp_age_sec",
    PyDict.get quote "age_sec"]

def maxAgeOf (market : PyDict) : PyFloat :=
  orDefault (firstNumber [PyDict.get (quoteOf market) "max_quote_age_sec"]) (.finite 2)

def spreadOf (market : PyDict) : Option PyFloat :=
  firstNumber [PyDict.get (quoteOf market) "spread_pct"]

def maxSpreadOf (market : PyDict) : PyFloat :=
  orDefault (firstNumber [PyDict.get (quoteOf market) "max_spread_pct"]) (.finite 1)

def warningCount (evidence : PyDict) : Except PyError ℕ :=
  let warnings := PyDict.get evidence "warnings"
  if !warnings.truthy then .ok 0 else lengthOf warnings

structure ReadsMarket (market : PyDict) (inputs : QualityInputs) : Prop where
  ready : (PyDict.get market "status").isStr "READY" = inputs.ready
  age : ageOf market = inputs.age.map .finite
  maxAge : maxAgeOf market = .finite inputs.maxAge
  spread : spreadOf market = inputs.spread.map .finite
  maxSpread : maxSpreadOf market = .finite inputs.maxSpread
  warnings : warningCount market = .ok inputs.marketWarnings

structure ReadsParts (parts : EvidenceParts) (inputs : QualityInputs) : Prop where
  confidence : confidenceOf parts.candidateTruth parts.opportunity = inputs.confidence.map .finite
  contract : contractOf parts.broker = inputs.contract
  fallback : (PyDict.get parts.broker "fallback_used").truthy = inputs.fallbackUsed
  market : ReadsMarket parts.market inputs
  risk : (PyDict.get parts.risk "allowed").isTrue = inputs.riskAllowed
  riskWarnings : warningCount parts.risk = .ok inputs.riskWarnings

structure Reads (readiness : PyDict) (inputs : QualityInputs) : Prop where
  allowed : (PyDict.get readiness "execution_allowed").truthy = true
  blockers : ∃ items, toItems ((PyDict.get readiness "blockers").or (.list [])) = .ok items
  warnings : ∃ items, toItems ((PyDict.get readiness "warnings").or (.list [])) = .ok items ∧
    items.length = inputs.warnings
  evidence : ∃ parts, partsOf readiness = .ok parts ∧ ReadsParts parts inputs

/-! ### The score is a function of the numbers -/

theorem confidenceComponent_eq {candidateTruth opportunity : PyDict} {confidence : Option ℚ}
    (read : confidenceOf candidateTruth opportunity = confidence.map .finite) :
    confidenceComponent candidateTruth opportunity = .finite (confidencePart confidence) := by
  unfold confidenceOf at read
  unfold confidenceComponent
  dsimp only
  rw [read]
  cases confidence with
  | none => rfl
  | some value =>
      change upTo 25 (.finite value / .finite 100 * .finite 25) = _
      unfold upTo confidencePart
      rw [PyFloat.finite_div, PyFloat.finite_mul, pyMin_finite, pyMax_finite]

theorem brokerComponent_eq (broker : PyDict) :
    brokerComponent broker = .finite (contractOf broker).part := by
  unfold brokerComponent contractOf
  dsimp only
  split
  · rfl
  · split <;> rfl

theorem measuredComponent_eq {weight unmeasured limit : ℚ} {measure : Option ℚ} :
    measuredComponent roundTwo weight unmeasured market (measure.map .finite) (.finite limit) =
      .finite (measuredPart weight unmeasured ((PyDict.get market "status").isStr "READY")
        measure limit) := by
  cases measure with
  | none =>
      change (if (PyDict.get market "status").isStr "READY" = true then PyFloat.finite unmeasured
        else .finite 0) = _
      unfold measuredPart
      dsimp only
      split <;> rfl
  | some value =>
      change (PyFloat.finite weight * pyMax (.finite 0) (.finite 1 -
        pyMin (.finite value / .finite limit) (.finite 1))).roundWith roundTwo = _
      rw [PyFloat.finite_div, pyMin_finite, PyFloat.finite_sub, pyMax_finite, PyFloat.finite_mul]
      rfl

theorem quoteFreshnessComponent_eq {inputs : QualityInputs} (reads : ReadsMarket market inputs) :
    quoteFreshnessComponent roundTwo market = .finite inputs.freshnessPart := by
  have own : quoteFreshnessComponent roundTwo market =
      measuredComponent roundTwo 15 8 market (ageOf market) (maxAgeOf market) := rfl
  rw [own, reads.age, reads.maxAge, measuredComponent_eq, reads.ready]
  rfl

theorem liquidityComponent_eq {inputs : QualityInputs} (reads : ReadsMarket market inputs) :
    liquidityComponent roundTwo market = .finite inputs.liquidityPart := by
  have own : liquidityComponent roundTwo market =
      measuredComponent roundTwo 20 12 market (spreadOf market) (maxSpreadOf market) := rfl
  rw [own, reads.spread, reads.maxSpread, measuredComponent_eq, reads.ready]
  rfl

theorem riskComponent_eq {risk : PyDict} {inputs : QualityInputs}
    (read : (PyDict.get risk "allowed").isTrue = inputs.riskAllowed) :
    riskComponent risk = .finite inputs.riskPart := by
  unfold riskComponent QualityInputs.riskPart
  rw [read]
  split <;> rfl

def penaltyEntries (penalties : List (String × ℚ)) : List (String × PyFloat) :=
  penalties.map fun entry => (entry.1, .finite entry.2)

theorem sum_penaltyEntries (penalties : List (String × ℚ)) :
    sumFloats ((penaltyEntries penalties).map Prod.snd) =
      .finite (penalties.map Prod.snd).sum := by
  unfold penaltyEntries
  rw [List.map_map]
  exact sumFloats_finite penalties _ Prod.snd fun _ _ => rfl

theorem countPenalty_eq (name : String) (top : ℚ) (count : ℕ) :
    countPenalty name top count = penaltyEntries [(name, min top (2 * count))] := by
  unfold countPenalty
  rw [pyMin_finite]
  rfl

theorem warningPenalty_eq {evidence : PyDict} {count : ℕ} (name : String)
    (counted : warningCount evidence = .ok count) :
    ∃ penalties, warningPenalty name evidence = .ok (penaltyEntries penalties) ∧
      (penalties.map Prod.snd).sum = min 6 (2 * (count : ℚ)) := by
  unfold warningCount at counted
  unfold warningPenalty
  dsimp only at counted ⊢
  by_cases empty : (!(PyDict.get evidence "warnings").truthy) = true
  · rw [if_pos empty] at counted ⊢
    refine ⟨[], rfl, ?_⟩
    rw [← Except.ok.inj counted]
    norm_num
  · rw [if_neg empty] at counted ⊢
    refine ⟨[(name, min 6 (2 * count))], ?_, by simp⟩
    rw [counted, ← countPenalty_eq]
    rfl

theorem penaltiesOf_eq {warnings : List PyValue} {parts : EvidenceParts} {inputs : QualityInputs}
    (reads : ReadsParts parts inputs) (count : warnings.length = inputs.warnings) :
    ∃ penalties, penaltiesOf warnings parts.broker parts.market parts.risk =
        .ok (penaltyEntries penalties) ∧
      (penalties.map Prod.snd).sum = inputs.penalty := by
  obtain ⟨ofMarket, isMarket, marketSum⟩ :=
    warningPenalty_eq "market_warnings" reads.market.warnings
  obtain ⟨ofRisk, isRisk, riskSum⟩ := warningPenalty_eq "risk_warnings" reads.riskWarnings
  have ofWarnings : ∃ penalties, (if warnings.isEmpty then []
        else countPenalty "warnings" 10 warnings.length) = penaltyEntries penalties ∧
      (penalties.map Prod.snd).sum = min 10 (2 * (inputs.warnings : ℚ)) := by
    rw [← count]
    cases warnings with
    | nil => exact ⟨[], rfl, by norm_num⟩
    | cons first rest => exact ⟨_, countPenalty_eq _ _ _, by simp⟩
  have ofBroker : ∃ penalties, (if (PyDict.get parts.broker "fallback_used").truthy
        then [("broker_fallback", PyFloat.finite 5)] else []) = penaltyEntries penalties ∧
      (penalties.map Prod.snd).sum = inputs.fallbackPenalty := by
    unfold QualityInputs.fallbackPenalty
    rw [reads.fallback]
    cases inputs.fallbackUsed with
    | true => exact ⟨[("broker_fallback", 5)], rfl, by simp⟩
    | false => exact ⟨[], rfl, by simp⟩
  obtain ⟨own, isOwn, ownSum⟩ := ofWarnings
  obtain ⟨broker, isBroker, brokerSum⟩ := ofBroker
  refine ⟨own ++ broker ++ ofMarket ++ ofRisk, ?_, ?_⟩
  · unfold penaltiesOf
    dsimp only
    rw [isOwn, isBroker, isMarket, isRisk]
    unfold penaltyEntries
    rw [List.map_append, List.map_append, List.map_append]
    rfl
  · rw [List.map_append, List.map_append, List.map_append, List.sum_append, List.sum_append,
      List.sum_append, ownSum, brokerSum, marketSum, riskSum]
    rfl

def QualityInputs.components (inputs : QualityInputs) : List (String × PyFloat) :=
  [("confidence", .finite (confidencePart inputs.confidence)),
    ("broker_contract", .finite inputs.contract.part),
    ("quote_freshness", .finite inputs.freshnessPart),
    ("liquidity", .finite inputs.liquidityPart), ("risk", .finite inputs.riskPart)]

structure ScoredAs (inputs : QualityInputs) (score : TradeQualityScore) : Prop where
  components : score.components = inputs.components
  quality : score.qualityScore = .finite inputs.score

def scoreOfParts (rounding : ℚ → ℚ) (readiness : PyDict) (candidateId : String)
    (blockers warnings : List PyValue) (parts : EvidenceParts)
    (penalties : List (String × PyFloat)) : TradeQualityScore :=
  let components :=
    [("confidence", confidenceComponent parts.candidateTruth parts.opportunity),
      ("broker_contract", brokerComponent parts.broker),
      ("quote_freshness", quoteFreshnessComponent rounding parts.market),
      ("liquidity", liquidityComponent rounding parts.market), ("risk", riskComponent parts.risk)]
  let raw := sumFloats (components.map Prod.snd) - sumFloats (penalties.map Prod.snd)
  { candidateId := candidateId
    qualityScore := upTo 100 (raw.roundWith rounding)
    status := if warnings.isEmpty && penalties.isEmpty then .qualified else .degradedByWarnings
    components := components
    penalties := penalties
    blockers := blockers
    warnings := warnings
    executionReadiness := readiness }

theorem scoreAllowed_of_parts {candidateId : String} {blockers warnings : List PyValue}
    {parts : EvidenceParts} {penalties : List (String × PyFloat)}
    (isParts : partsOf readiness = .ok parts)
    (isPenalties : penaltiesOf warnings parts.broker parts.market parts.risk = .ok penalties) :
    scoreAllowed rounding readiness candidateId blockers warnings =
      .ok (scoreOfParts rounding readiness candidateId blockers warnings parts penalties) := by
  obtain ⟨evidence, isEvidence, isParts⟩ := bind_eq_ok.mp isParts
  obtain ⟨candidateTruth, isTruth, isParts⟩ := bind_eq_ok.mp isParts
  obtain ⟨opportunity, isOpportunity, isParts⟩ := bind_eq_ok.mp isParts
  obtain ⟨broker, isBroker, isParts⟩ := bind_eq_ok.mp isParts
  obtain ⟨market, isMarket, isParts⟩ := bind_eq_ok.mp isParts
  obtain ⟨risk, isRisk, isParts⟩ := bind_eq_ok.mp isParts
  rw [← Except.ok.inj isParts] at isPenalties ⊢
  apply bind_eq_ok.mpr ⟨evidence, isEvidence, ?_⟩
  apply bind_eq_ok.mpr ⟨candidateTruth, isTruth, ?_⟩
  apply bind_eq_ok.mpr ⟨opportunity, isOpportunity, ?_⟩
  apply bind_eq_ok.mpr ⟨broker, isBroker, ?_⟩
  apply bind_eq_ok.mpr ⟨market, isMarket, ?_⟩
  apply bind_eq_ok.mpr ⟨risk, isRisk, ?_⟩
  exact bind_eq_ok.mpr ⟨penalties, isPenalties, rfl⟩

theorem scored_of_reads {inputs : QualityInputs} (reads : Reads readiness inputs) :
    ∃ score, scoreTradeQuality roundTwo readiness = .ok score ∧ ScoredAs inputs score := by
  obtain ⟨blockers, isBlockers⟩ := reads.blockers
  obtain ⟨warnings, isWarnings, count⟩ := reads.warnings
  obtain ⟨parts, isParts, own⟩ := reads.evidence
  obtain ⟨penalties, isPenalties, penaltySum⟩ := penaltiesOf_eq own count
  refine ⟨scoreOfParts roundTwo readiness
    (printValue ((PyDict.get readiness "candidate_id").or (.str "unknown"))) blockers warnings parts
    (penaltyEntries penalties), ?_, ?_⟩
  · apply bind_eq_ok.mpr ⟨blockers, isBlockers, ?_⟩
    apply bind_eq_ok.mpr ⟨warnings, isWarnings, ?_⟩
    rw [reads.allowed, Bool.not_true, if_neg Bool.false_ne_true]
    exact scoreAllowed_of_parts isParts isPenalties
  · have components : [("confidence", confidenceComponent parts.candidateTruth parts.opportunity),
        ("broker_contract", brokerComponent parts.broker),
        ("quote_freshness", quoteFreshnessComponent roundTwo parts.market),
        ("liquidity", liquidityComponent roundTwo parts.market),
        ("risk", riskComponent parts.risk)] = inputs.components := by
      rw [confidenceComponent_eq own.confidence, brokerComponent_eq, own.contract,
        quoteFreshnessComponent_eq own.market, liquidityComponent_eq own.market,
        riskComponent_eq own.risk]
      rfl
    have total : sumFloats (inputs.components.map Prod.snd) = .finite inputs.total := by
      unfold QualityInputs.components QualityInputs.total sumFloats
      simp only [List.map_cons, List.map_nil, List.foldl_cons, List.foldl_nil, PyFloat.finite_add,
        zero_add]
    unfold scoreOfParts
    dsimp only
    rw [components, sum_penaltyEntries, penaltySum, total, PyFloat.finite_sub]
    refine ⟨rfl, ?_⟩
    unfold upTo PyFloat.roundWith QualityInputs.score
    dsimp only
    rw [pyMin_finite, pyMax_finite]

end Algotradify.Candidates
