/-
Which quotes are ready: when a ready quote is a two-sided one.

The spread is cut off at zero before it is set against the middle of the two sides, so
sides that are the wrong way round, or below zero, have no spread at all.
-/

import Algotradify.Market.Quotes

namespace Algotradify.Market

open Py Core.Risk Execution

/-! ### The spread of two sides -/

/-- The spread of two sides in percent of their middle, if that is not zero. -/
def pctOf (bid ask : PyFloat) : Option PyFloat :=
  if ((bid + ask) / .finite 2).eq (.finite 0) then none
  else some (pyMax (.finite 0) (ask - bid) / ((bid + ask) / .finite 2) * .finite 100)

theorem spreadPct_eq {quote : QuoteSnapshot} {bid ask : PyFloat} (bidIs : quote.bid = some bid)
    (askIs : quote.ask = some ask) : quote.spreadPct = pctOf bid ask := by
  unfold QuoteSnapshot.spreadPct QuoteSnapshot.spread QuoteSnapshot.mid
  rw [bidIs, askIs]
  rfl

theorem sides_of_spreadPct {quote : QuoteSnapshot} (present : quote.spreadPct.isSome = true) :
    ∃ bid ask, quote.bid = some bid ∧ quote.ask = some ask := by
  unfold QuoteSnapshot.spreadPct QuoteSnapshot.spread at present
  cases bidIs : quote.bid with
  | none =>
      rw [bidIs] at present
      cases present
  | some bid =>
      cases askIs : quote.ask with
      | none =>
          rw [bidIs, askIs] at present
          cases present
      | some ask => exact ⟨bid, ask, rfl, rfl⟩

theorem pctOf_finite (bid ask : ℚ) :
    pctOf (.finite bid) (.finite ask) =
      if bid + ask = 0 then none
      else some (.finite (max 0 (ask - bid) / ((bid + ask) / 2) * 100)) := by
  have wide : pyMax (.finite 0) (.finite ask - .finite bid) = .finite (max 0 (ask - bid)) := by
    rw [PyFloat.finite_sub, pyMax_finite]
  have middle : ((PyFloat.finite bid + .finite ask) / .finite 2).eq (.finite 0) =
      decide (bid + ask = 0) := by
    change decide ((bid + ask) / 2 = 0) = _
    simp
  unfold pctOf
  rw [middle, wide]
  by_cases opposite : bid + ask = 0
  · rw [if_pos (decide_eq_true opposite), if_pos opposite]
  · rw [if_neg (by simpa using opposite), if_neg opposite]
    rfl

/-- The sides are the wrong way round, and have a middle other than zero. -/
def Inverted (bid ask : PyFloat) : Prop :=
  ask.lt bid = true ∧ bid + ask ≠ .nan ∧ bid + ask ≠ .finite 0

def Endless (bid ask : PyFloat) : Prop :=
  ask = bid ∧ (bid = .posInf ∨ bid = .negInf)

def Below (bid ask : PyFloat) : Prop :=
  ∃ low high : ℚ, bid = .finite low ∧ ask = .finite high ∧ low ≤ high ∧ low + high < 0

/-- The spread of the sides, in percent of their positive middle, is within both limits. -/
def Tight (limits : QuoteLimits) (bid ask : PyFloat) : Prop :=
  ∃ low high : ℚ, bid = .finite low ∧ ask = .finite high ∧ low ≤ high ∧ 0 < low + high ∧
    (PyFloat.finite ((high - low) / ((low + high) / 2) * 100)).le limits.maxSpreadPct = true ∧
    (PyFloat.finite ((high - low) / ((low + high) / 2) * 100)).le limits.slippageBudgetPct = true

theorem below_finite (low high : ℚ) :
    Below (.finite low) (.finite high) ↔ low ≤ high ∧ low + high < 0 := by
  simp [Below]

theorem tight_finite (limits : QuoteLimits) (low high : ℚ) :
    Tight limits (.finite low) (.finite high) ↔ low ≤ high ∧ 0 < low + high ∧
      (PyFloat.finite ((high - low) / ((low + high) / 2) * 100)).le limits.maxSpreadPct = true ∧
      (PyFloat.finite ((high - low) / ((low + high) / 2) * 100)).le limits.slippageBudgetPct =
        true := by
  simp [Tight]

structure QuoteLimits.Nonneg (limits : QuoteLimits) : Prop where
  quoteAge : (PyFloat.finite 0).le limits.maxQuoteAgeSec = true
  depthAge : (PyFloat.finite 0).le limits.maxDepthAgeSec = true
  spread : (PyFloat.finite 0).le limits.maxSpreadPct = true
  slippage : (PyFloat.finite 0).le limits.slippageBudgetPct = true

section Sides

variable {limits : QuoteLimits} {bid ask : PyFloat}

theorem within_of_nonpos (nonneg : limits.Nonneg) {pct : ℚ} (small : pct ≤ 0) :
    within (some (.finite pct)) limits.maxSpreadPct = true ∧
      within (some (.finite pct)) limits.slippageBudgetPct = true :=
  ⟨PyFloat.le_trans ((PyFloat.finite_le _ _).mpr small) nonneg.spread,
    PyFloat.le_trans ((PyFloat.finite_le _ _).mpr small) nonneg.slippage⟩

theorem passes_finite_iff (nonneg : limits.Nonneg) (low high : ℚ) :
    within (pctOf (.finite low) (.finite high)) limits.maxSpreadPct = true ∧
        within (pctOf (.finite low) (.finite high)) limits.slippageBudgetPct = true ↔
      Inverted (.finite low) (.finite high) ∨ Below (.finite low) (.finite high) ∨
        Tight limits (.finite low) (.finite high) := by
  rw [pctOf_finite, below_finite, tight_finite]
  have total : PyFloat.finite low + .finite high = .finite (low + high) := PyFloat.finite_add _ _
  by_cases opposite : low + high = 0
  · rw [if_pos opposite]
    constructor
    · rintro ⟨impossible, _⟩
      cases impossible
    · rintro (⟨_, _, apart⟩ | ⟨_, below⟩ | ⟨_, above, _⟩)
      · rw [total, opposite] at apart
        exact absurd rfl apart
      · rw [opposite] at below
        exact absurd below (lt_irrefl 0)
      · rw [opposite] at above
        exact absurd above (lt_irrefl 0)
  · rw [if_neg opposite]
    by_cases inverted : high < low
    · have none : max 0 (high - low) = 0 := max_eq_left (by linarith)
      rw [none, zero_div, zero_mul]
      refine iff_of_true (within_of_nonpos nonneg (le_refl 0)) (.inl ⟨?_, ?_, ?_⟩)
      · exact (PyFloat.finite_lt _ _).mpr inverted
      · rw [total]
        exact PyFloat.noConfusion
      · rw [total]
        exact fun same => opposite (PyFloat.finite.inj same)
    · have ordered : low ≤ high := not_lt.mp inverted
      have wide : max 0 (high - low) = high - low := max_eq_right (by linarith)
      rw [wide]
      rcases lt_or_gt_of_ne opposite with below | above
      · have small : (high - low) / ((low + high) / 2) * 100 ≤ 0 := by
          have negative := div_nonpos_of_nonneg_of_nonpos (sub_nonneg.mpr ordered)
            (by linarith : (low + high) / 2 ≤ 0)
          linarith
        exact iff_of_true (within_of_nonpos nonneg small)
          (.inr (.inl ⟨ordered, below⟩))
      · constructor
        · rintro ⟨spread, slippage⟩
          exact .inr (.inr ⟨ordered, above, spread, slippage⟩)
        · rintro (⟨less, _⟩ | ⟨_, below⟩ | ⟨_, _, kept⟩)
          · exact absurd ((PyFloat.finite_lt _ _).mp less) inverted
          · exact absurd below (not_lt.mpr above.le)
          · exact kept

theorem passes_spread_iff (nonneg : limits.Nonneg) (bid ask : PyFloat) :
    within (pctOf bid ask) limits.maxSpreadPct = true ∧
        within (pctOf bid ask) limits.slippageBudgetPct = true ↔
      Inverted bid ask ∨ Endless bid ask ∨ Below bid ask ∨ Tight limits bid ask := by
  have zero := within_of_nonpos nonneg (le_refl 0)
  have nothing : PyFloat.finite 0 * .finite 100 = .finite 0 := by
    rw [PyFloat.finite_mul, zero_mul]
  have unread : within (some .nan) limits.maxSpreadPct = false := by
    cases limits.maxSpreadPct <;> rfl
  cases bid with
  | finite low =>
      cases ask with
      | finite high =>
          have apart : ¬Endless (.finite low) (.finite high) := by simp [Endless]
          rw [passes_finite_iff nonneg]
          simp only [apart, false_or]
      | nan =>
          have pct : pctOf (.finite low) .nan = some .nan := rfl
          rw [pct, unread]
          simp [Inverted, Endless, Below, Tight, PyFloat.lt]
      | posInf =>
          have pct : pctOf (.finite low) .posInf = some .nan := rfl
          rw [pct, unread]
          simp [Inverted, Endless, Below, Tight, PyFloat.lt]
      | negInf =>
          have pct : pctOf (.finite low) .negInf = some (.finite 0) := congrArg some nothing
          rw [pct]
          refine iff_of_true zero (.inl ⟨rfl, ?_, ?_⟩) <;> exact PyFloat.noConfusion
  | nan =>
      have pct : pctOf .nan ask = some .nan := by cases ask <;> rfl
      rw [pct, unread]
      cases ask <;> simp [Inverted, Endless, Below, Tight, PyFloat.lt]
  | posInf =>
      cases ask with
      | finite high =>
          have pct : pctOf .posInf (.finite high) = some (.finite 0) := congrArg some nothing
          rw [pct]
          refine iff_of_true zero (.inl ⟨rfl, ?_, ?_⟩) <;> exact PyFloat.noConfusion
      | nan =>
          have pct : pctOf .posInf .nan = some .nan := rfl
          rw [pct, unread]
          simp [Inverted, Endless, Below, Tight, PyFloat.lt]
      | posInf =>
          have pct : pctOf .posInf .posInf = some (.finite 0) := congrArg some nothing
          rw [pct]
          exact iff_of_true zero (.inr (.inl ⟨rfl, .inl rfl⟩))
      | negInf =>
          have pct : pctOf .posInf .negInf = some .nan := rfl
          have total : PyFloat.posInf + .negInf = .nan := rfl
          rw [pct, unread]
          simp [Inverted, Endless, Below, Tight, total]
  | negInf =>
      cases ask with
      | finite high =>
          have pct : pctOf .negInf (.finite high) = some .nan := rfl
          rw [pct, unread]
          simp [Inverted, Endless, Below, Tight, PyFloat.lt]
      | nan =>
          have pct : pctOf .negInf .nan = some .nan := rfl
          rw [pct, unread]
          simp [Inverted, Endless, Below, Tight, PyFloat.lt]
      | posInf =>
          have pct : pctOf .negInf .posInf = some .nan := rfl
          rw [pct, unread]
          simp [Inverted, Endless, Below, Tight, PyFloat.lt]
      | negInf =>
          have pct : pctOf .negInf .negInf = some (.finite 0) := congrArg some nothing
          rw [pct]
          exact iff_of_true zero (.inr (.inl ⟨rfl, .inr rfl⟩))

end Sides

/-! ### Ready quotes -/

/-- A sane two-sided quote: sides the right way round, ages that are not negative and within
their limits, and a spread within both limits. -/
structure Sane (limits : QuoteLimits) (quote : QuoteSnapshot) (bid ask quoteAge depthAge : PyFloat) :
    Prop where
  bidIs : quote.bid = some bid
  askIs : quote.ask = some ask
  quoteAgeIs : quote.quoteAgeSec = some quoteAge
  depthAgeIs : quote.depthAgeSec = some depthAge
  positive : (PyFloat.finite 0).lt bid = true
  ordered : bid.le ask = true
  quoteStarted : (PyFloat.finite 0).le quoteAge = true
  quoteFresh : quoteAge.le limits.maxQuoteAgeSec = true
  depthStarted : (PyFloat.finite 0).le depthAge = true
  depthFresh : depthAge.le limits.maxDepthAgeSec = true
  tight : ((ask - bid) / ((bid + ask) / .finite 2) * .finite 100).le limits.maxSpreadPct = true
  affordable : ((ask - bid) / ((bid + ask) / .finite 2) * .finite 100).le
    limits.slippageBudgetPct = true

def ReadyIsSane (limits : QuoteLimits) (quote : Quote) : Prop :=
  (evaluateMarketReadiness limits quote).status = .ready →
    ∃ numbers bid ask quoteAge depthAge, quote.read = some numbers ∧
      Sane limits numbers bid ask quoteAge depthAge

/-- A fresh quote with a last price whose sides are the wrong way round, infinite or below
zero, or whose spread is within the limits while its bid is not positive or an age is
negative. -/
def Unsound (limits : QuoteLimits) (quote : QuoteSnapshot) : Prop :=
  quote.ltp ≠ none ∧ within quote.quoteAgeSec limits.maxQuoteAgeSec = true ∧
    within quote.depthAgeSec limits.maxDepthAgeSec = true ∧
    ∃ bid ask, quote.bid = some bid ∧ quote.ask = some ask ∧
      (Inverted bid ask ∨ Endless bid ask ∨ Below bid ask ∨
        Tight limits bid ask ∧ (bid.le (.finite 0) = true ∨
          (∃ age, quote.quoteAgeSec = some age ∧ age.lt (.finite 0) = true) ∨
          ∃ age, quote.depthAgeSec = some age ∧ age.lt (.finite 0) = true))

section Ready

variable {limits : QuoteLimits} {quote : QuoteSnapshot}

theorem passes_of_sides (nonneg : limits.Nonneg) {bid ask : PyFloat} (priced : quote.ltp ≠ none)
    (quoteAge : within quote.quoteAgeSec limits.maxQuoteAgeSec = true)
    (depthAge : within quote.depthAgeSec limits.maxDepthAgeSec = true)
    (bidIs : quote.bid = some bid) (askIs : quote.ask = some ask)
    (sides : Inverted bid ask ∨ Endless bid ask ∨ Below bid ask ∨ Tight limits bid ask) :
    Passes limits quote := by
  obtain ⟨spread, slippage⟩ := (passes_spread_iff nonneg bid ask).mpr sides
  rw [← spreadPct_eq bidIs askIs] at spread slippage
  refine ⟨?_, quoteAge, depthAge, spread, slippage⟩
  obtain ⟨pct, present, _⟩ := within_eq_true.mp spread
  unfold QuoteSnapshot.isPriced
  rw [present, Bool.and_eq_true]
  exact ⟨Option.isSome_iff_ne_none.mpr priced, rfl⟩

theorem sides_of_passes (nonneg : limits.Nonneg) (passes : Passes limits quote) :
    ∃ bid ask, quote.bid = some bid ∧ quote.ask = some ask ∧
      (Inverted bid ask ∨ Endless bid ask ∨ Below bid ask ∨ Tight limits bid ask) := by
  have priced := passes.priced
  unfold QuoteSnapshot.isPriced at priced
  rw [Bool.and_eq_true] at priced
  obtain ⟨bid, ask, bidIs, askIs⟩ := sides_of_spreadPct priced.2
  have spread := passes.spread
  have slippage := passes.slippage
  rw [spreadPct_eq bidIs askIs] at spread slippage
  exact ⟨bid, ask, bidIs, askIs, (passes_spread_iff nonneg bid ask).mp ⟨spread, slippage⟩⟩

theorem started_of_not_lt {age limit : PyFloat} (fresh : age.le limit = true)
    (kept : ¬age.lt (.finite 0) = true) : (PyFloat.finite 0).le age = true := by
  have number : age ≠ .nan := by
    rintro rfl
    cases limit <;> cases fresh
  exact PyFloat.le_of_not_lt PyFloat.noConfusion number kept

theorem not_sane_of_unsound {bid ask quoteAge depthAge : PyFloat} (unsound : Unsound limits quote)
    (sane : Sane limits quote bid ask quoteAge depthAge) : False := by
  obtain ⟨_, _, _, bid', ask', bidIs, askIs, kind⟩ := unsound
  cases sane.bidIs.symm.trans bidIs
  cases sane.askIs.symm.trans askIs
  rcases kind with ⟨less, _⟩ | ⟨rfl, endless⟩ | ⟨low, high, rfl, rfl, _, below⟩ | ⟨_, odd⟩
  · rw [PyFloat.not_lt_of_le sane.ordered] at less
    cases less
  · have tight := sane.tight
    have none : limits.maxSpreadPct.lt .nan = false ∧ PyFloat.nan.le limits.maxSpreadPct = false := by
      cases limits.maxSpreadPct <;> exact ⟨rfl, rfl⟩
    rcases endless with rfl | rfl
    · exact absurd (tight.symm.trans none.2) Bool.noConfusion
    · exact absurd (tight.symm.trans none.2) Bool.noConfusion
  · have positive := (PyFloat.finite_lt _ _).mp sane.positive
    have ordered := (PyFloat.finite_le _ _).mp sane.ordered
    linarith
  · rcases odd with low | ⟨age, ageIs, less⟩ | ⟨age, ageIs, less⟩
    · exact absurd (sane.positive.symm.trans (PyFloat.not_lt_of_le low)) Bool.noConfusion
    · cases sane.quoteAgeIs.symm.trans ageIs
      rw [PyFloat.not_lt_of_le sane.quoteStarted] at less
      cases less
    · cases sane.depthAgeIs.symm.trans ageIs
      rw [PyFloat.not_lt_of_le sane.depthStarted] at less
      cases less

theorem sane_of_sound (nonneg : limits.Nonneg) (passes : Passes limits quote)
    (sound : ¬Unsound limits quote) :
    ∃ bid ask quoteAge depthAge, Sane limits quote bid ask quoteAge depthAge := by
  obtain ⟨bid, ask, bidIs, askIs, kind⟩ := sides_of_passes nonneg passes
  obtain ⟨quoteAge, quoteAgeIs, quoteFresh⟩ := within_eq_true.mp passes.quoteAge
  obtain ⟨depthAge, depthAgeIs, depthFresh⟩ := within_eq_true.mp passes.depthAge
  have priced : quote.ltp ≠ none := by
    have both := passes.priced
    unfold QuoteSnapshot.isPriced at both
    rw [Bool.and_eq_true] at both
    exact Option.isSome_iff_ne_none.mp both.1
  have ordinary : ∀ odd, (odd → Inverted bid ask ∨ Endless bid ask ∨ Below bid ask ∨
      Tight limits bid ask ∧ (bid.le (.finite 0) = true ∨
        (∃ age, quote.quoteAgeSec = some age ∧ age.lt (.finite 0) = true) ∨
        ∃ age, quote.depthAgeSec = some age ∧ age.lt (.finite 0) = true)) → ¬odd :=
    fun odd kindOf holds => sound
      ⟨priced, passes.quoteAge, passes.depthAge, bid, ask, bidIs, askIs, kindOf holds⟩
  rcases kind with inverted | endless | below | tight
  · exact absurd (.inl inverted) (ordinary _ id)
  · exact absurd (.inr (.inl endless)) (ordinary _ id)
  · exact absurd (.inr (.inr (.inl below))) (ordinary _ id)
  · have above := ordinary (bid.le (.finite 0) = true) fun low => .inr (.inr (.inr ⟨tight, .inl low⟩))
    have quoteKept := ordinary (quoteAge.lt (.finite 0) = true) fun less =>
      .inr (.inr (.inr ⟨tight, .inr (.inl ⟨quoteAge, quoteAgeIs, less⟩)⟩))
    have depthKept := ordinary (depthAge.lt (.finite 0) = true) fun less =>
      .inr (.inr (.inr ⟨tight, .inr (.inr ⟨depthAge, depthAgeIs, less⟩)⟩))
    obtain ⟨low, high, rfl, rfl, ordered, _, spread, slippage⟩ := tight
    rw [PyFloat.finite_le, not_le] at above
    have pct : (PyFloat.finite high - .finite low) / ((.finite low + .finite high) / .finite 2) *
        .finite 100 = .finite ((high - low) / ((low + high) / 2) * 100) := by
      simp only [PyFloat.finite_sub, PyFloat.finite_add, PyFloat.finite_div, PyFloat.finite_mul]
    refine ⟨.finite low, .finite high, quoteAge, depthAge, bidIs, askIs, quoteAgeIs, depthAgeIs,
      (PyFloat.finite_lt _ _).mpr above, (PyFloat.finite_le _ _).mpr ordered,
      started_of_not_lt quoteFresh quoteKept, quoteFresh, started_of_not_lt depthFresh depthKept,
      depthFresh, ?_, ?_⟩
    · rw [pct]
      exact spread
    · rw [pct]
      exact slippage

end Ready

/-- With limits that are not negative, a quote that is ready is a sane two-sided one exactly
when it is not an unsound one. -/
theorem readyIsSane_iff {limits : QuoteLimits} (nonneg : limits.Nonneg) (quote : Quote) :
    ReadyIsSane limits quote ↔ ∀ numbers, quote.read = some numbers → ¬Unsound limits numbers := by
  unfold ReadyIsSane evaluateMarketReadiness
  cases read : quote.read with
  | none =>
      constructor
      · intro _ numbers impossible
        cases impossible
      · intro _ impossible
        cases impossible
  | some numbers =>
      dsimp only
      rw [ready_iff]
      constructor
      · rintro sane _ ⟨⟩ unsound
        obtain ⟨priced, quoteAge, depthAge, bid, ask, bidIs, askIs, kind⟩ := unsound
        have passes := passes_of_sides nonneg priced quoteAge depthAge bidIs askIs
          (kind.imp_right (Or.imp_right (Or.imp_right And.left)))
        obtain ⟨_, _, _, _, _, same, holds⟩ := sane passes
        cases same
        exact not_sane_of_unsound
          ⟨priced, quoteAge, depthAge, bid, ask, bidIs, askIs, kind⟩ holds
      · intro sound passes
        obtain ⟨bid, ask, quoteAge, depthAge, sane⟩ := sane_of_sound nonneg passes (sound _ rfl)
        exact ⟨numbers, bid, ask, quoteAge, depthAge, rfl, sane⟩

theorem defaultLimits_nonneg : QuoteLimits.Nonneg {} := by
  constructor <;> decide +kernel

def sidesQuote (bid ask : ℚ) : QuoteSnapshot :=
  { symbol := "NIFTY"
    ltp := some (.finite 100)
    bid := some (.finite bid)
    ask := some (.finite ask)
    quoteAgeSec := some (.finite (1 / 2))
    depthAgeSec := some (.finite (1 / 2)) }

theorem readyIsSane_tight : ReadyIsSane {} (.snapshot (sidesQuote (199 / 2) 100)) := by
  refine (readyIsSane_iff defaultLimits_nonneg _).mpr ?_
  rintro _ ⟨⟩ ⟨_, _, _, bid, ask, bidIs, askIs, kind⟩
  cases bidIs
  cases askIs
  rcases kind with ⟨less, _⟩ | ⟨_, endless | endless⟩ | below | ⟨_, low | ⟨_, age, less⟩ | ⟨_, age, less⟩⟩
  · exact absurd less (by decide +kernel)
  · cases endless
  · cases endless
  · rw [below_finite] at below
    norm_num at below
  · exact absurd low (by decide +kernel)
  · cases age
    exact absurd less (by decide +kernel)
  · cases age
    exact absurd less (by decide +kernel)

/-- A quote whose bid is above its ask is ready. -/
theorem inverted_ready :
    (evaluateMarketReadiness {} (.snapshot (sidesQuote 101 99))).status = .ready ∧
      ¬∀ (limits : QuoteLimits) (quote : Quote), limits.Nonneg → ReadyIsSane limits quote := by
  have ready : (evaluateMarketReadiness {} (.snapshot (sidesQuote 101 99))).status = .ready := by
    decide +kernel
  refine ⟨ready, fun sound => ?_⟩
  obtain ⟨_, _, _, _, _, read, sane⟩ := sound {} _ defaultLimits_nonneg ready
  cases read
  have ordered := sane.ordered
  cases sane.bidIs
  cases sane.askIs
  exact absurd ordered (by decide +kernel)

end Algotradify.Market
