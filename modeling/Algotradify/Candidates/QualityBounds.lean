/-
Trade quality is bounded and monotone, and where it is not.

Only the confidence is clipped on both sides. A quote age or a spread below zero earns more than
its weight, and a limit below zero turns the order around: the older quote scores more. The
exact bounds are those of rounding to two digits.
-/

import Algotradify.Candidates.Quality

namespace Algotradify.Candidates

open Py Core.Risk

/-! ### Rounding to two digits -/

theorem rounds_roundTwo : Rounds roundTwo :=
  rounds_grid (by norm_num) (fun _ _ => roundHalfEven_mono) roundHalfEven_int

theorem roundTwo_monotone : Monotone roundTwo :=
  rounds_roundTwo.monotone

theorem roundTwo_whole (whole : ℤ) : roundTwo whole = whole := by
  unfold roundTwo Backtest.roundPlaces
  have cents : (whole : ℚ) * 10 ^ 2 = ((whole * 100 : ℤ) : ℚ) := by
    push_cast
    norm_num
  rw [cents, roundHalfEven_int]
  push_cast
  ring

theorem roundTwo_le_iff (value : ℚ) (whole : ℤ) :
    roundTwo value ≤ whole ↔ value ≤ whole + 1 / 200 := by
  have even : whole * 100 % 2 = 0 := by omega
  have cents := @roundHalfEven_le_iff (value * 10 ^ 2) _ even
  unfold roundTwo Backtest.roundPlaces
  rw [div_le_iff₀ (by norm_num)]
  have cast : (roundHalfEven (value * 10 ^ 2) : ℚ) ≤ whole * 10 ^ 2 ↔
      roundHalfEven (value * 10 ^ 2) ≤ whole * 100 := by
    rw [← Int.cast_le (R := ℚ)]
    push_cast
    norm_num
  rw [cast, cents]
  push_cast
  constructor <;> intro bound <;> linarith

theorem le_roundTwo_iff (value : ℚ) (whole : ℤ) :
    whole ≤ roundTwo value ↔ (whole : ℚ) - 1 / 200 ≤ value := by
  have even : whole * 100 % 2 = 0 := by omega
  have cents := @le_roundHalfEven_iff (value * 10 ^ 2) _ even
  unfold roundTwo Backtest.roundPlaces
  rw [le_div_iff₀ (by norm_num)]
  have cast : (whole : ℚ) * 10 ^ 2 ≤ roundHalfEven (value * 10 ^ 2) ↔
      whole * 100 ≤ roundHalfEven (value * 10 ^ 2) := by
    rw [← Int.cast_le (R := ℚ)]
    push_cast
    norm_num
  rw [cast, cents]
  push_cast
  constructor <;> intro bound <;> linarith

/-! ### A measured part -/

structure IsWeight (weight : ℚ) : Prop where
  whole : ∃ number : ℤ, weight = number
  positive : 1 ≤ weight

theorem isWeight_fifteen : IsWeight 15 :=
  ⟨⟨15, by norm_num⟩, by norm_num⟩

theorem isWeight_twenty : IsWeight 20 :=
  ⟨⟨20, by norm_num⟩, by norm_num⟩

section Measured

variable {weight unmeasured limit value later : ℚ} {ready : Bool} {measure : Option ℚ}

theorem IsWeight.roundTwo_le_iff (isWeight : IsWeight weight) :
    roundTwo value ≤ weight ↔ value ≤ weight + 1 / 200 := by
  obtain ⟨number, rfl⟩ := isWeight.whole
  exact Candidates.roundTwo_le_iff value number

theorem IsWeight.le_roundTwo_iff (isWeight : IsWeight weight) :
    weight ≤ roundTwo value ↔ weight - 1 / 200 ≤ value := by
  obtain ⟨number, rfl⟩ := isWeight.whole
  exact Candidates.le_roundTwo_iff value number

theorem measuredPart_nonneg (isWeight : IsWeight weight) (atLeast : 0 ≤ unmeasured) :
    0 ≤ measuredPart weight unmeasured ready measure limit := by
  unfold measuredPart
  cases measure with
  | none =>
      dsimp only
      split
      · exact atLeast
      · exact le_rfl
  | some value =>
      have positive := isWeight.positive
      have left : (0 : ℚ) ≤ weight * max 0 (1 - min (value / limit) 1) :=
        mul_nonneg (by linarith) (le_max_left _ _)
      have rounded := roundTwo_monotone left
      rw [← Int.cast_zero (R := ℚ), roundTwo_whole, Int.cast_zero] at rounded
      exact rounded

theorem measuredPart_le_iff (isWeight : IsWeight weight) :
    measuredPart weight unmeasured ready (some value) limit ≤ weight ↔
      -(1 / (200 * weight)) ≤ value / limit := by
  have positive := zero_lt_one.trans_le isWeight.positive
  have cent : weight * (1 / (200 * weight)) = 1 / 200 := by
    field_simp
  unfold measuredPart
  dsimp only
  rw [isWeight.roundTwo_le_iff]
  constructor
  · intro below
    have used : 1 - value / limit ≤ max 0 (1 - min (value / limit) 1) :=
      (sub_le_sub_left (min_le_left _ _) 1).trans (le_max_right _ _)
    have scaled := mul_le_mul_of_nonneg_left used positive.le
    apply le_of_mul_le_mul_left _ positive
    linarith
  · intro above
    have least : 0 ≤ 1 / (200 * weight) := by positivity
    have used : max 0 (1 - min (value / limit) 1) ≤ 1 + 1 / (200 * weight) := by
      apply max_le
      · linarith
      · have both := le_min above (by linarith : -(1 / (200 * weight)) ≤ 1)
        linarith
    have scaled := mul_le_mul_of_nonneg_left used positive.le
    linarith

theorem le_measuredPart_iff (isWeight : IsWeight weight) :
    weight ≤ measuredPart weight unmeasured ready (some value) limit ↔
      value / limit ≤ 1 / (200 * weight) := by
  have positive := zero_lt_one.trans_le isWeight.positive
  have cent : weight * (1 / (200 * weight)) = 1 / 200 := by
    field_simp
  have small : 1 / (200 * weight) < 1 := by
    have whole := isWeight.positive
    apply lt_of_mul_lt_mul_left _ positive.le
    linarith
  unfold measuredPart
  dsimp only
  rw [isWeight.le_roundTwo_iff]
  constructor
  · intro above
    have used : 1 - 1 / (200 * weight) ≤ max 0 (1 - min (value / limit) 1) := by
      apply le_of_mul_le_mul_left _ positive
      linarith
    rcases le_max_iff.mp used with none | some
    · linarith
    · rcases min_le_iff.mp (sub_le_sub_iff_left 1 |>.mp some) with below | one
      · exact below
      · linarith
  · intro below
    have used : 1 - 1 / (200 * weight) ≤ max 0 (1 - min (value / limit) 1) :=
      (sub_le_sub_left ((min_le_left _ _).trans below) 1).trans (le_max_right _ _)
    have scaled := mul_le_mul_of_nonneg_left used positive.le
    linarith

theorem measuredPart_antitone (isWeight : IsWeight weight) (above : 0 < limit)
    (ordered : value ≤ later) :
    measuredPart weight unmeasured ready (some later) limit ≤
      measuredPart weight unmeasured ready (some value) limit := by
  unfold measuredPart
  apply roundTwo_monotone
  apply mul_le_mul_of_nonneg_left _ (zero_le_one.trans isWeight.positive)
  apply max_le_max_left
  apply sub_le_sub_left
  exact min_le_min_right 1 (div_le_div_of_nonneg_right ordered above.le)

theorem whole_measuredPart_iff (isWeight : IsWeight weight) (less : unmeasured ≤ weight - 1) :
    weight ≤ measuredPart weight unmeasured ready measure limit ↔
      ∃ value, measure = some value ∧ value / limit ≤ 1 / (200 * weight) := by
  have positive := isWeight.positive
  constructor
  · intro above
    cases measure with
    | none =>
        unfold measuredPart at above
        dsimp only at above
        split at above <;> linarith
    | some value => exact ⟨value, rfl, (le_measuredPart_iff isWeight).mp above⟩
  · rintro ⟨value, rfl, below⟩
    exact (le_measuredPart_iff isWeight).mpr below

theorem whole_of_near (isWeight : IsWeight weight) (less : unmeasured ≤ weight - 1)
    (near : weight - 1 / 200 ≤ measuredPart weight unmeasured ready measure limit) :
    weight ≤ measuredPart weight unmeasured ready measure limit := by
  have positive := isWeight.positive
  cases measure with
  | none =>
      unfold measuredPart at near
      dsimp only at near
      split at near <;> linarith
  | some value =>
      have again := isWeight.le_roundTwo_iff.mpr near
      have stable : roundTwo (measuredPart weight unmeasured ready (some value) limit) =
          measuredPart weight unmeasured ready (some value) limit :=
        rounds_roundTwo.stable _
      rw [stable] at again
      exact again

end Measured

/-! ### A whole score -/

theorem confidencePart_bounds (confidence : Option ℚ) :
    0 ≤ confidencePart confidence ∧ confidencePart confidence ≤ 25 := by
  cases confidence with
  | none => constructor <;> norm_num [confidencePart]
  | some value => exact ⟨le_max_left _ _, max_le (by norm_num) (min_le_left _ _)⟩

theorem whole_confidencePart_iff (confidence : Option ℚ) :
    25 - 1 / 200 ≤ confidencePart confidence ↔
      ∃ value, confidence = some value ∧ 9998 / 100 ≤ value := by
  constructor
  · intro above
    cases confidence with
    | none => norm_num [confidencePart] at above
    | some value =>
        refine ⟨value, rfl, ?_⟩
        rcases le_max_iff.mp above with zero | used
        · norm_num at zero
        · have own := used.trans (min_le_right _ _)
          linarith
  · rintro ⟨value, rfl, above⟩
    apply le_trans _ (le_max_right _ _)
    apply le_min
    · norm_num
    · linarith

theorem ContractMatch.part_bounds (contract : ContractMatch) :
    0 ≤ contract.part ∧ contract.part ≤ 20 := by
  cases contract <;> constructor <;> norm_num [ContractMatch.part]

namespace QualityInputs

variable (inputs : QualityInputs)

theorem riskPart_bounds : 0 ≤ inputs.riskPart ∧ inputs.riskPart ≤ 20 := by
  unfold riskPart
  split <;> constructor <;> norm_num

theorem freshnessPart_nonneg : 0 ≤ inputs.freshnessPart :=
  measuredPart_nonneg isWeight_fifteen (by norm_num)

theorem liquidityPart_nonneg : 0 ≤ inputs.liquidityPart :=
  measuredPart_nonneg isWeight_twenty (by norm_num)

/-- Where a measure is given, it is not below zero by more than rounding takes away. -/
structure NotBelow : Prop where
  age : ∀ age, inputs.age = some age → -(1 / 3000) ≤ age / inputs.maxAge
  spread : ∀ spread, inputs.spread = some spread → -(1 / 4000) ≤ spread / inputs.maxSpread

theorem measuredPart_le_weight_iff {weight unmeasured limit : ℚ} {ready : Bool}
    {measure : Option ℚ} (isWeight : IsWeight weight) (less : unmeasured ≤ weight - 1) :
    measuredPart weight unmeasured ready measure limit ≤ weight ↔
      ∀ value, measure = some value → -(1 / (200 * weight)) ≤ value / limit := by
  cases measure with
  | none =>
      have positive := isWeight.positive
      constructor
      · intro _ value absent
        cases absent
      · intro _
        unfold measuredPart
        dsimp only
        split <;> linarith
  | some value =>
      rw [measuredPart_le_iff isWeight]
      constructor
      · intro above other same
        rw [← Option.some.inj same]
        exact above
      · intro above
        exact above value rfl

theorem notBelow_iff :
    inputs.NotBelow ↔ inputs.freshnessPart ≤ 15 ∧ inputs.liquidityPart ≤ 20 := by
  unfold freshnessPart liquidityPart
  rw [measuredPart_le_weight_iff isWeight_fifteen (by norm_num),
    measuredPart_le_weight_iff isWeight_twenty (by norm_num)]
  norm_num
  exact ⟨fun notBelow => ⟨notBelow.age, notBelow.spread⟩, fun both => ⟨both.1, both.2⟩⟩

structure Perfect : Prop where
  confidence : ∃ value, inputs.confidence = some value ∧ 9998 / 100 ≤ value
  contract : inputs.contract = .resolvedExact
  fallback : inputs.fallbackUsed = false
  age : ∃ age, inputs.age = some age ∧ age / inputs.maxAge ≤ 1 / 3000
  spread : ∃ spread, inputs.spread = some spread ∧ spread / inputs.maxSpread ≤ 1 / 4000
  risk : inputs.riskAllowed = true
  warnings : inputs.warnings = 0
  marketWarnings : inputs.marketWarnings = 0
  riskWarnings : inputs.riskWarnings = 0

theorem whole_freshnessPart_iff : 15 ≤ inputs.freshnessPart ↔
    ∃ age, inputs.age = some age ∧ age / inputs.maxAge ≤ 1 / 3000 := by
  unfold freshnessPart
  rw [whole_measuredPart_iff isWeight_fifteen (by norm_num)]
  norm_num

theorem whole_liquidityPart_iff : 20 ≤ inputs.liquidityPart ↔
    ∃ spread, inputs.spread = some spread ∧ spread / inputs.maxSpread ≤ 1 / 4000 := by
  unfold liquidityPart
  rw [whole_measuredPart_iff isWeight_twenty (by norm_num)]
  norm_num

theorem fallbackPenalty_nonneg : 0 ≤ inputs.fallbackPenalty := by
  unfold fallbackPenalty
  split <;> norm_num

theorem eq_zero_of_min_small {top : ℚ} {count : ℕ} (high : 1 < top)
    (small : min top (2 * (count : ℚ)) ≤ 1 / 200) : count = 0 := by
  by_contra some
  have atLeast : (1 : ℚ) ≤ count := by exact_mod_cast Nat.one_le_iff_ne_zero.mpr some
  rcases min_le_iff.mp small with least | doubled <;> linarith

theorem hundred_le_score_iff : 100 ≤ inputs.score ↔ 100 - 1 / 200 ≤ inputs.total - inputs.penalty := by
  have rounded := le_roundTwo_iff (inputs.total - inputs.penalty) 100
  norm_num at rounded
  unfold score
  rw [le_max_iff, le_min_iff]
  norm_num
  exact rounded

theorem perfect_of_hundred (notBelow : inputs.NotBelow) (hundred : 100 ≤ inputs.score) :
    inputs.Perfect := by
  obtain ⟨fresh, liquid⟩ := inputs.notBelow_iff.mp notBelow
  have sum := inputs.hundred_le_score_iff.mp hundred
  obtain ⟨_, confident⟩ := confidencePart_bounds inputs.confidence
  obtain ⟨_, contract⟩ := inputs.contract.part_bounds
  obtain ⟨_, risk⟩ := inputs.riskPart_bounds
  have fallback := inputs.fallbackPenalty_nonneg
  have own : 0 ≤ min 10 (2 * (inputs.warnings : ℚ)) := by positivity
  have ofMarket : 0 ≤ min 6 (2 * (inputs.marketWarnings : ℚ)) := by positivity
  have ofRisk : 0 ≤ min 6 (2 * (inputs.riskWarnings : ℚ)) := by positivity
  unfold total penalty at sum
  refine ⟨?_, ?_, ?_, ?_, ?_, ?_, ?_, ?_, ?_⟩
  · exact (whole_confidencePart_iff _).mp (by linarith)
  · have whole : 20 - 1 / 200 ≤ inputs.contract.part := by linarith
    cases isContract : inputs.contract with
    | resolvedExact => rfl
    | resolvedFallback =>
        rw [isContract] at whole
        norm_num [ContractMatch.part] at whole
    | unresolved =>
        rw [isContract] at whole
        norm_num [ContractMatch.part] at whole
  · have small : inputs.fallbackPenalty ≤ 1 / 200 := by linarith
    unfold fallbackPenalty at small
    cases used : inputs.fallbackUsed with
    | false => rfl
    | true =>
        rw [used] at small
        norm_num at small
  · exact inputs.whole_freshnessPart_iff.mp
      (whole_of_near isWeight_fifteen (by norm_num) (by unfold freshnessPart at *; linarith))
  · exact inputs.whole_liquidityPart_iff.mp
      (whole_of_near isWeight_twenty (by norm_num) (by unfold liquidityPart at *; linarith))
  · have whole : 20 - 1 / 200 ≤ inputs.riskPart := by linarith
    unfold riskPart at whole
    cases allowed : inputs.riskAllowed with
    | true => rfl
    | false =>
        rw [allowed] at whole
        norm_num at whole
  · have small : min 10 (2 * (inputs.warnings : ℚ)) ≤ 1 / 200 := by linarith
    exact eq_zero_of_min_small (by norm_num) small
  · have small : min 6 (2 * (inputs.marketWarnings : ℚ)) ≤ 1 / 200 := by linarith
    exact eq_zero_of_min_small (by norm_num) small
  · have small : min 6 (2 * (inputs.riskWarnings : ℚ)) ≤ 1 / 200 := by linarith
    exact eq_zero_of_min_small (by norm_num) small

theorem hundred_of_perfect (perfect : inputs.Perfect) : 100 ≤ inputs.score := by
  have confident := (whole_confidencePart_iff _).mpr perfect.confidence
  have fresh := inputs.whole_freshnessPart_iff.mpr perfect.age
  have liquid := inputs.whole_liquidityPart_iff.mpr perfect.spread
  have contract : inputs.contract.part = 20 := by
    rw [perfect.contract]
    rfl
  have risk : inputs.riskPart = 20 := by
    unfold riskPart
    rw [perfect.risk, if_pos rfl]
  have nothing : inputs.penalty = 0 := by
    unfold penalty fallbackPenalty
    rw [perfect.fallback, perfect.warnings, perfect.marketWarnings, perfect.riskWarnings]
    norm_num
  rw [hundred_le_score_iff, nothing]
  unfold total
  linarith

theorem score_le_hundred : inputs.score ≤ 100 :=
  max_le (by norm_num) (min_le_left _ _)

theorem score_le_of_difference {inputs other : QualityInputs}
    (less : other.total - other.penalty ≤ inputs.total - inputs.penalty) :
    other.score ≤ inputs.score := by
  unfold score
  exact max_le_max_left 0 (min_le_min_left 100 (roundTwo_monotone less))

end QualityInputs

/-! ### Changes for the worse -/

/-- An older quote, a wider spread, one more warning, or a fallback for an exact contract. -/
inductive Worse (inputs : QualityInputs) : QualityInputs → Prop where
  | older {age later : ℚ} (was : inputs.age = some age) (ordered : age ≤ later) :
      Worse inputs { inputs with age := some later }
  | wider {spread later : ℚ} (was : inputs.spread = some spread) (ordered : spread ≤ later) :
      Worse inputs { inputs with spread := some later }
  | warned : Worse inputs { inputs with warnings := inputs.warnings + 1 }
  | marketWarned : Worse inputs { inputs with marketWarnings := inputs.marketWarnings + 1 }
  | riskWarned : Worse inputs { inputs with riskWarnings := inputs.riskWarnings + 1 }
  | fallback (was : inputs.contract = .resolvedExact) :
      Worse inputs { inputs with contract := .resolvedFallback, fallbackUsed := true }

/-- Measures that are not below zero, of limits above it. A perfect record stays one. -/
structure QualityInputs.Sane (inputs : QualityInputs) : Prop where
  notBelow : inputs.NotBelow
  age : ∀ age, inputs.age = some age → 0 < inputs.maxAge ∨ inputs.Perfect
  spread : ∀ spread, inputs.spread = some spread → 0 < inputs.maxSpread ∨ inputs.Perfect

theorem min_warnings_le (top : ℚ) (count : ℕ) :
    min top (2 * (count : ℚ)) ≤ min top (2 * ((count + 1 : ℕ) : ℚ)) := by
  apply min_le_min_left
  push_cast
  linarith

theorem score_le_of_worse {inputs other : QualityInputs} (sane : inputs.Sane)
    (worse : Worse inputs other) : other.score ≤ inputs.score := by
  have ofPerfect : inputs.Perfect → other.score ≤ inputs.score :=
    fun perfect => other.score_le_hundred.trans (inputs.hundred_of_perfect perfect)
  cases worse with
  | @older age later was ordered =>
      rcases sane.age age was with positive | perfect
      · have lost : measuredPart 15 8 inputs.ready (some later) inputs.maxAge ≤
            inputs.freshnessPart := by
          unfold QualityInputs.freshnessPart
          rw [was]
          exact measuredPart_antitone isWeight_fifteen positive ordered
        apply QualityInputs.score_le_of_difference
        change confidencePart inputs.confidence + inputs.contract.part +
          measuredPart 15 8 inputs.ready (some later) inputs.maxAge + inputs.liquidityPart +
          inputs.riskPart - inputs.penalty ≤ inputs.total - inputs.penalty
        unfold QualityInputs.total
        linarith
      · exact ofPerfect perfect
  | @wider spread later was ordered =>
      rcases sane.spread spread was with positive | perfect
      · have lost : measuredPart 20 12 inputs.ready (some later) inputs.maxSpread ≤
            inputs.liquidityPart := by
          unfold QualityInputs.liquidityPart
          rw [was]
          exact measuredPart_antitone isWeight_twenty positive ordered
        apply QualityInputs.score_le_of_difference
        change confidencePart inputs.confidence + inputs.contract.part + inputs.freshnessPart +
          measuredPart 20 12 inputs.ready (some later) inputs.maxSpread +
          inputs.riskPart - inputs.penalty ≤ inputs.total - inputs.penalty
        unfold QualityInputs.total
        linarith
      · exact ofPerfect perfect
  | warned =>
      apply QualityInputs.score_le_of_difference
      have more := min_warnings_le 10 inputs.warnings
      change inputs.total - (min 10 (2 * ((inputs.warnings + 1 : ℕ) : ℚ)) + inputs.fallbackPenalty +
        min 6 (2 * (inputs.marketWarnings : ℚ)) + min 6 (2 * (inputs.riskWarnings : ℚ))) ≤ _
      unfold QualityInputs.penalty
      linarith
  | marketWarned =>
      apply QualityInputs.score_le_of_difference
      have more := min_warnings_le 6 inputs.marketWarnings
      change inputs.total - (min 10 (2 * (inputs.warnings : ℚ)) + inputs.fallbackPenalty +
        min 6 (2 * ((inputs.marketWarnings + 1 : ℕ) : ℚ)) + min 6 (2 * (inputs.riskWarnings : ℚ))) ≤ _
      unfold QualityInputs.penalty
      linarith
  | riskWarned =>
      apply QualityInputs.score_le_of_difference
      have more := min_warnings_le 6 inputs.riskWarnings
      change inputs.total - (min 10 (2 * (inputs.warnings : ℚ)) + inputs.fallbackPenalty +
        min 6 (2 * (inputs.marketWarnings : ℚ)) + min 6 (2 * ((inputs.riskWarnings + 1 : ℕ) : ℚ))) ≤ _
      unfold QualityInputs.penalty
      linarith
  | fallback was =>
      apply QualityInputs.score_le_of_difference
      have kept : inputs.fallbackPenalty ≤ 5 := by
        unfold QualityInputs.fallbackPenalty
        split <;> norm_num
      have part : inputs.contract.part = 20 := by
        rw [was]
        rfl
      change confidencePart inputs.confidence + 14 + inputs.freshnessPart + inputs.liquidityPart +
        inputs.riskPart - (min 10 (2 * (inputs.warnings : ℚ)) + 5 +
          min 6 (2 * (inputs.marketWarnings : ℚ)) + min 6 (2 * (inputs.riskWarnings : ℚ))) ≤ _
      unfold QualityInputs.total QualityInputs.penalty
      linarith

/-! ### A limit below zero rewards what is worse -/

theorem measuredPart_of_negative {weight unmeasured limit : ℚ} {ready : Bool}
    (isWeight : IsWeight weight) (nonzero : limit ≠ 0) :
    201 ≤ measuredPart weight unmeasured ready (some (-200 * limit)) limit := by
  have ratio : -200 * limit / limit = -200 := mul_div_cancel_right₀ _ nonzero
  unfold measuredPart
  dsimp only
  rw [ratio]
  have whole := roundTwo_whole 201
  norm_num at whole
  rw [← whole]
  apply roundTwo_monotone
  rw [min_eq_left (by norm_num), max_eq_right (by norm_num)]
  have atLeast := isWeight.positive
  linarith

theorem le_of_ratio {value limit bound : ℚ} (negative : limit < 0) (small : bound ≤ 200)
    (ratio : -bound ≤ value / limit) : value ≤ -200 * limit := by
  have scaled := (le_div_iff_of_neg negative).mp ratio
  have less := mul_le_mul_of_nonpos_right small negative.le
  linarith

namespace QualityInputs

variable (inputs : QualityInputs)

theorem total_ge : inputs.freshnessPart ≤ inputs.total ∧ inputs.liquidityPart ≤ inputs.total := by
  obtain ⟨confident, _⟩ := confidencePart_bounds inputs.confidence
  obtain ⟨contract, _⟩ := inputs.contract.part_bounds
  obtain ⟨risk, _⟩ := inputs.riskPart_bounds
  have fresh := inputs.freshnessPart_nonneg
  have liquid := inputs.liquidityPart_nonneg
  unfold total
  constructor <;> linarith

theorem penalty_le : inputs.penalty ≤ 27 := by
  have own := min_le_left 10 (2 * (inputs.warnings : ℚ))
  have ofMarket := min_le_left 6 (2 * (inputs.marketWarnings : ℚ))
  have ofRisk := min_le_left 6 (2 * (inputs.riskWarnings : ℚ))
  have fallback : inputs.fallbackPenalty ≤ 5 := by
    unfold fallbackPenalty
    split <;> norm_num
  unfold penalty
  linarith

theorem hundred_of_total (large : 201 ≤ inputs.total) : 100 ≤ inputs.score := by
  have most := inputs.penalty_le
  rw [hundred_le_score_iff]
  linarith

theorem hundred_of_older (nonzero : inputs.maxAge ≠ 0) :
    100 ≤ ({ inputs with age := some (-200 * inputs.maxAge) } : QualityInputs).score :=
  hundred_of_total _
    ((measuredPart_of_negative isWeight_fifteen nonzero).trans (total_ge _).1)

theorem hundred_of_wider (nonzero : inputs.maxSpread ≠ 0) :
    100 ≤ ({ inputs with spread := some (-200 * inputs.maxSpread) } : QualityInputs).score :=
  hundred_of_total _
    ((measuredPart_of_negative isWeight_twenty nonzero).trans (total_ge _).2)

end QualityInputs

end Algotradify.Candidates
