/-
Trade quality is bounded and monotone for the records whose measures are sane, and for no other.

Where a limit is below zero the quote can be written over with an older age, and that record
scores a hundred. So only a record that scores a hundred itself has nothing to lose by it.
-/

import Algotradify.Candidates.QualityBounds

namespace Algotradify.Candidates

open Py Core.Risk

variable {readiness market : PyDict} {parts : EvidenceParts} {inputs : QualityInputs}

/-! ### Writing a number into the quote -/

def setQuoteField (market : PyDict) (key : String) (number : ℚ) : PyDict :=
  match PyDict.get market "quote" with
  | .dict quote =>
      PyDict.set market "quote" (.dict (PyDict.set quote key (.float (.finite number))))
  | _ => PyDict.set market key (.float (.finite number))

def setMarket (readiness market : PyDict) : PyDict :=
  PyDict.set readiness "evidence"
    (.dict (PyDict.set (PyDict.get readiness "evidence").asDict "market_readiness" (.dict market)))

theorem quoteOf_eq (market : PyDict) (quote : PyDict)
    (isQuote : PyDict.get market "quote" = .dict quote) : quoteOf market = quote := by
  unfold quoteOf
  rw [isQuote]

theorem quoteOf_setQuoteField (market : PyDict) {key : String} (number : ℚ) (other : key ≠ "quote") :
    quoteOf (setQuoteField market key number) =
      PyDict.set (quoteOf market) key (.float (.finite number)) := by
  unfold setQuoteField
  split
  · next quote isQuote =>
      rw [quoteOf_eq market quote isQuote]
      exact quoteOf_eq _ _ (PyDict.get_set_self _ _ _)
  · next none =>
      have noQuote : ∀ entries : PyDict, (∀ quote, PyDict.get entries "quote" ≠ .dict quote) →
          quoteOf entries = entries := by
        intro entries absent
        unfold quoteOf
        split
        · next quote isQuote => exact absurd isQuote (absent quote)
        · rfl
      rw [noQuote market none, noQuote]
      intro quote
      rw [PyDict.get_set_of_ne _ _ (Ne.symm other)]
      exact none quote

theorem get_setQuoteField (market : PyDict) {key field : String} (number : ℚ)
    (apart : field ≠ key) (notQuote : field ≠ "quote") :
    PyDict.get (setQuoteField market key number) field = PyDict.get market field := by
  unfold setQuoteField
  split
  · exact PyDict.get_set_of_ne _ _ notQuote
  · exact PyDict.get_set_of_ne _ _ apart

theorem firstNumber_finite (number : ℚ) (rest : List PyValue) :
    firstNumber (.float (.finite number) :: rest) = some (.finite number) := by
  unfold firstNumber
  rw [List.findSome?_cons, Paper.floatOrNone_float]

theorem mappingOr_dict (entries : PyDict) : mappingOr (.dict entries) = .ok entries := by
  cases entries <;> rfl

theorem asDict_of_mappingOr {value : PyValue} {entries : PyDict}
    (read : mappingOr value = .ok entries) : value.asDict = entries := by
  unfold mappingOr at read
  cases value with
  | dict own =>
      cases own with
      | nil => exact Except.ok.inj read
      | cons entry rest => exact Except.ok.inj read
  | none => exact Except.ok.inj read
  | _ =>
      split at read
      · exact Except.ok.inj read
      · cases read

theorem partsOf_setMarket (market : PyDict) (isParts : partsOf readiness = .ok parts) :
    partsOf (setMarket readiness market) = .ok { parts with market := market } := by
  obtain ⟨evidence, isEvidence, isParts⟩ := bind_eq_ok.mp isParts
  obtain ⟨candidateTruth, isTruth, isParts⟩ := bind_eq_ok.mp isParts
  obtain ⟨opportunity, isOpportunity, isParts⟩ := bind_eq_ok.mp isParts
  obtain ⟨broker, isBroker, isParts⟩ := bind_eq_ok.mp isParts
  obtain ⟨old, isOld, isParts⟩ := bind_eq_ok.mp isParts
  obtain ⟨risk, isRisk, isParts⟩ := bind_eq_ok.mp isParts
  rw [← Except.ok.inj isParts]
  unfold setMarket
  rw [asDict_of_mappingOr isEvidence]
  have others : ∀ field, field ≠ "market_readiness" →
      PyDict.get (PyDict.set evidence "market_readiness" (.dict market)) field =
        PyDict.get evidence field :=
    fun field other => PyDict.get_set_of_ne _ _ other
  apply bind_eq_ok.mpr ⟨PyDict.set evidence "market_readiness" (.dict market), ?_, ?_⟩
  · rw [PyDict.get_set_self]
    exact mappingOr_dict _
  · apply bind_eq_ok.mpr ⟨candidateTruth, by rw [others _ (by decide)]; exact isTruth, ?_⟩
    apply bind_eq_ok.mpr ⟨opportunity, by rw [others _ (by decide)]; exact isOpportunity, ?_⟩
    apply bind_eq_ok.mpr ⟨broker, by rw [others _ (by decide)]; exact isBroker, ?_⟩
    apply bind_eq_ok.mpr ⟨market, by rw [PyDict.get_set_self]; exact mappingOr_dict _, ?_⟩
    exact bind_eq_ok.mpr ⟨risk, by rw [others _ (by decide)]; exact isRisk, rfl⟩

/-- A record with another market record that reads otherwise. -/
theorem reads_setMarket {other : QualityInputs} (reads : Reads readiness inputs)
    (isParts : partsOf readiness = .ok parts)
    (own : ReadsParts { parts with market := market } other)
    (warnings : other.warnings = inputs.warnings) : Reads (setMarket readiness market) other where
  allowed := by
    unfold setMarket
    rw [PyDict.get_set_of_ne _ _ (by decide)]
    exact reads.allowed
  blockers := by
    unfold setMarket
    rw [PyDict.get_set_of_ne _ _ (by decide)]
    exact reads.blockers
  warnings := by
    unfold setMarket
    rw [PyDict.get_set_of_ne _ _ (by decide), warnings]
    exact reads.warnings
  evidence := ⟨_, partsOf_setMarket market isParts, own⟩

theorem readsMarket_older (reads : ReadsMarket market inputs) (later : ℚ) :
    ReadsMarket (setQuoteField market "quote_age_sec" later) { inputs with age := some later } where
  ready := by
    rw [get_setQuoteField market later (by decide) (by decide)]
    exact reads.ready
  age := by
    unfold ageOf
    dsimp only
    rw [quoteOf_setQuoteField market later (by decide), PyDict.get_set_self]
    exact firstNumber_finite later _
  maxAge := by
    unfold maxAgeOf
    rw [quoteOf_setQuoteField market later (by decide), PyDict.get_set_of_ne _ _ (by decide)]
    exact reads.maxAge
  spread := by
    unfold spreadOf
    rw [quoteOf_setQuoteField market later (by decide), PyDict.get_set_of_ne _ _ (by decide)]
    exact reads.spread
  maxSpread := by
    unfold maxSpreadOf
    rw [quoteOf_setQuoteField market later (by decide), PyDict.get_set_of_ne _ _ (by decide)]
    exact reads.maxSpread
  warnings := by
    unfold warningCount
    rw [get_setQuoteField market later (by decide) (by decide)]
    exact reads.warnings

theorem readsMarket_wider (reads : ReadsMarket market inputs) (later : ℚ) :
    ReadsMarket (setQuoteField market "spread_pct" later) { inputs with spread := some later } where
  ready := by
    rw [get_setQuoteField market later (by decide) (by decide)]
    exact reads.ready
  age := by
    unfold ageOf
    dsimp only
    rw [quoteOf_setQuoteField market later (by decide), PyDict.get_set_of_ne _ _ (by decide),
      PyDict.get_set_of_ne _ _ (by decide), PyDict.get_set_of_ne _ _ (by decide)]
    exact reads.age
  maxAge := by
    unfold maxAgeOf
    rw [quoteOf_setQuoteField market later (by decide), PyDict.get_set_of_ne _ _ (by decide)]
    exact reads.maxAge
  spread := by
    unfold spreadOf
    rw [quoteOf_setQuoteField market later (by decide), PyDict.get_set_self]
    exact firstNumber_finite later _
  maxSpread := by
    unfold maxSpreadOf
    rw [quoteOf_setQuoteField market later (by decide), PyDict.get_set_of_ne _ _ (by decide)]
    exact reads.maxSpread
  warnings := by
    unfold warningCount
    rw [get_setQuoteField market later (by decide) (by decide)]
    exact reads.warnings

theorem reads_older (reads : Reads readiness inputs) (isParts : partsOf readiness = .ok parts)
    (own : ReadsParts parts inputs) (later : ℚ) :
    Reads (setMarket readiness (setQuoteField parts.market "quote_age_sec" later))
      { inputs with age := some later } :=
  reads_setMarket reads isParts ⟨own.confidence, own.contract, own.fallback,
    readsMarket_older own.market later, own.risk, own.riskWarnings⟩ rfl

theorem reads_wider (reads : Reads readiness inputs) (isParts : partsOf readiness = .ok parts)
    (own : ReadsParts parts inputs) (later : ℚ) :
    Reads (setMarket readiness (setQuoteField parts.market "spread_pct" later))
      { inputs with spread := some later } :=
  reads_setMarket reads isParts ⟨own.confidence, own.contract, own.fallback,
    readsMarket_wider own.market later, own.risk, own.riskWarnings⟩ rfl

theorem orDefault_ne_zero {number : Option PyFloat} {default value : ℚ} (nonzero : default ≠ 0)
    (read : orDefault number (.finite default) = .finite value) : value ≠ 0 := by
  unfold orDefault at read
  cases number with
  | none => exact PyFloat.finite.inj read ▸ nonzero
  | some own =>
      dsimp only at read
      split at read
      · next truthy =>
          rw [read] at truthy
          exact of_decide_eq_true truthy
      · exact PyFloat.finite.inj read ▸ nonzero

/-! ### Bounded and monotone -/

def componentWeights : List (String × ℚ) :=
  [("confidence", 25), ("broker_contract", 20), ("quote_freshness", 15), ("liquidity", 20),
    ("risk", 20)]

def ComponentsBounded (score : TradeQualityScore) : Prop :=
  List.Forall₂ (fun (component : String × PyFloat) (weight : String × ℚ) =>
    component.1 = weight.1 ∧ (PyFloat.finite 0).le component.2 = true ∧
      component.2.le (.finite weight.2) = true) score.components componentWeights

def NeverRewarded (inputs : QualityInputs) (score : TradeQualityScore) : Prop :=
  ∀ record other worse, Reads record other → Worse inputs other →
    scoreTradeQuality roundTwo record = .ok worse → worse.qualityScore.le score.qualityScore = true

theorem componentsBounded_iff {score : TradeQualityScore} (scored : ScoredAs inputs score) :
    ComponentsBounded score ↔ inputs.NotBelow := by
  obtain ⟨confident, confidentLe⟩ := confidencePart_bounds inputs.confidence
  obtain ⟨contract, contractLe⟩ := inputs.contract.part_bounds
  obtain ⟨risk, riskLe⟩ := inputs.riskPart_bounds
  have fresh := inputs.freshnessPart_nonneg
  have liquid := inputs.liquidityPart_nonneg
  unfold ComponentsBounded
  rw [inputs.notBelow_iff, scored.components]
  unfold QualityInputs.components componentWeights
  simp only [List.forall₂_cons, List.Forall₂.nil, PyFloat.finite_le, confident, confidentLe,
    contract, contractLe, risk, riskLe, fresh, liquid, true_and, and_true]

theorem le_of_neverRewarded {other : QualityInputs} {record : PyDict} {score : TradeQualityScore}
    (scored : ScoredAs inputs score) (never : NeverRewarded inputs score)
    (reads : Reads record other) (worse : Worse inputs other) :
    other.score ≤ inputs.score := by
  obtain ⟨made, isMade, own⟩ := scored_of_reads reads
  have below := never record other made reads worse isMade
  rw [own.quality, scored.quality] at below
  exact (PyFloat.finite_le _ _).mp below

theorem positive_or_perfect {limit : ℚ} (nonzero : limit ≠ 0) (notBelow : inputs.NotBelow)
    (rewarded : limit < 0 → 100 ≤ inputs.score) :
    0 < limit ∨ inputs.Perfect := by
  rcases lt_or_gt_of_ne nonzero with negative | positive
  · exact .inr (inputs.perfect_of_hundred notBelow (rewarded negative))
  · exact .inl positive

/-- The components of an allowed record keep their bounds, and no change for the worse is
rewarded, exactly when its measures are sane. -/
theorem quality_bounded_monotone_iff {readiness : PyDict} {inputs : QualityInputs}
    (reads : Reads readiness inputs) :
    ∃ score, scoreTradeQuality roundTwo readiness = .ok score ∧
      ((ComponentsBounded score ∧ NeverRewarded inputs score) ↔ inputs.Sane) := by
  obtain ⟨score, isScore, scored⟩ := scored_of_reads reads
  obtain ⟨parts, isParts, own⟩ := reads.evidence
  refine ⟨score, isScore, ?_, ?_⟩
  · rintro ⟨bounded, never⟩
    have notBelow := (componentsBounded_iff scored).mp bounded
    refine ⟨notBelow, ?_, ?_⟩
    · intro age was
      have nonzero := orDefault_ne_zero (by norm_num) own.market.maxAge
      apply positive_or_perfect nonzero notBelow
      intro negative
      have later := reads_older reads isParts own (-200 * inputs.maxAge)
      have ordered := le_of_ratio negative (by norm_num) (notBelow.age age was)
      exact (inputs.hundred_of_older nonzero).trans
        (le_of_neverRewarded scored never later (.older was ordered))
    · intro spread was
      have nonzero := orDefault_ne_zero (by norm_num) own.market.maxSpread
      apply positive_or_perfect nonzero notBelow
      intro negative
      have later := reads_wider reads isParts own (-200 * inputs.maxSpread)
      have ordered := le_of_ratio negative (by norm_num) (notBelow.spread spread was)
      exact (inputs.hundred_of_wider nonzero).trans
        (le_of_neverRewarded scored never later (.wider was ordered))
  · intro sane
    refine ⟨(componentsBounded_iff scored).mpr sane.notBelow, ?_⟩
    intro record other made readsOther worse isMade
    obtain ⟨again, isAgain, ownAgain⟩ := scored_of_reads readsOther
    rw [isAgain] at isMade
    rw [← Except.ok.inj isMade, ownAgain.quality, scored.quality, PyFloat.finite_le]
    exact score_le_of_worse sane worse

def quotedRecord (age : ℚ) : PyDict :=
  [("candidate_id", .str "nifty"), ("execution_allowed", .bool true),
    ("evidence", .dict
      [("broker_contract", .dict [("readiness_status", .str "RESOLVED_EXACT")]),
        ("market_readiness", .dict
          [("status", .str "READY"),
            ("quote", .dict [("quote_age_sec", .float (.finite age)),
              ("max_quote_age_sec", .float (.finite 2))])]),
        ("risk", .dict [("allowed", .bool true)])])]

def quotedInputs (age : ℚ) : QualityInputs :=
  { confidence := none
    contract := .resolvedExact
    fallbackUsed := false
    ready := true
    age := some age
    maxAge := 2
    spread := none
    maxSpread := 1
    riskAllowed := true
    warnings := 0
    marketWarnings := 0
    riskWarnings := 0 }

theorem reads_quotedRecord (age : ℚ) : Reads (quotedRecord age) (quotedInputs age) where
  allowed := rfl
  blockers := ⟨[], rfl⟩
  warnings := ⟨[], rfl, rfl⟩
  evidence := ⟨_, rfl, ⟨rfl, rfl, rfl, ⟨rfl, rfl, rfl, rfl, rfl, rfl⟩, rfl, rfl⟩⟩

theorem sane_quotedInputs {age : ℚ} (positive : 0 ≤ age) : (quotedInputs age).Sane where
  notBelow := by
    constructor
    · intro own isOwn
      rw [← Option.some.inj isOwn]
      change -(1 / 3000) ≤ age / 2
      linarith
    · intro spread absent
      cases absent
  age := fun _ _ => .inl (by norm_num [quotedInputs])
  spread := fun _ _ => .inl (by norm_num [quotedInputs])

theorem quality_bounded_monotone_iff_quoted : (quotedInputs 1).Sane ∧
    ∃ score, scoreTradeQuality roundTwo (quotedRecord 1) = .ok score ∧
      ((ComponentsBounded score ∧ NeverRewarded (quotedInputs 1) score) ↔ (quotedInputs 1).Sane) :=
  ⟨sane_quotedInputs (by norm_num), quality_bounded_monotone_iff (reads_quotedRecord 1)⟩

/-- A quote from one second ahead of the clock earns more than the weight of freshness. -/
theorem quote_from_ahead_exceeds_weight :
    ¬ ∀ (readiness : PyDict) (inputs : QualityInputs), Reads readiness inputs →
      ∃ score, scoreTradeQuality roundTwo readiness = .ok score ∧
        ComponentsBounded score ∧ NeverRewarded inputs score := by
  intro all
  obtain ⟨score, isScore, bounded, -⟩ := all _ _ (reads_quotedRecord (-1))
  obtain ⟨made, isMade, scored⟩ := scored_of_reads (reads_quotedRecord (-1))
  rw [isScore] at isMade
  rw [Except.ok.inj isMade] at bounded
  have below := ((componentsBounded_iff scored).mp bounded).age (-1) rfl
  norm_num [quotedInputs] at below

end Algotradify.Candidates
