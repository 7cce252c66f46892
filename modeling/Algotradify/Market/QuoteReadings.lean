/-
Rows and snapshots with the same numbers: when they have one status, and when a quote stays
ready while its numbers get better.

A row gives a number under the first of its names that has a value. The reading of the code
goes on from a value that counts as false, so a zero is passed over.
-/

import Algotradify.Market.QuoteSanity

namespace Algotradify.Market

open Py Core.Risk Execution

/-! ### The numbers of a row -/

/-- The number that a row gives under the first of some names with a value. -/
def statedNumber (row : PyDict) (keys : List String) : Option PyFloat :=
  Paper.floatOrNone (Candidates.firstPresent row keys)

def statedQuote (row : PyDict) : QuoteSnapshot :=
  { quoteFromMapping row with
    ltp := statedNumber row ["ltp", "last_price", "last_traded_price"]
    bid := statedNumber row ["bid", "best_bid", "buy_price"]
    ask := statedNumber row ["ask", "best_ask", "sell_price"]
    quoteAgeSec := statedNumber row ["quote_age_sec", "ltp_age_sec", "age_sec"]
    depthAgeSec := statedNumber row ["depth_age_sec", "market_depth_age_sec"] }

def SameStatus (row : PyDict) : Prop :=
  ∀ limits, (evaluateMarketReadiness limits (.mapping row)).status =
    (evaluateMarketReadiness limits (.snapshot (statedQuote row))).status

/-! ### Numbers that no limit tells apart -/

def Unread (value : Option PyFloat) : Prop :=
  value = none ∨ value = some .nan

def SameNumber (first second : Option PyFloat) : Prop :=
  first = second ∨ Unread first ∧ Unread second

theorem within_unread {value : Option PyFloat} (unread : Unread value) (limit : PyFloat) :
    within value limit = false := by
  rcases unread with rfl | rfl
  · rfl
  · cases limit <;> rfl

theorem within_self {number : PyFloat} (read : ¬Unread (some number)) :
    within (some number) number = true :=
  PyFloat.le_refl fun nan => read (.inr (congrArg some nan))

theorem within_posInf {value : Option PyFloat} (read : ¬Unread value) :
    within value .posInf = true := by
  cases value with
  | none => exact absurd (.inl rfl) read
  | some number =>
      cases number with
      | nan => exact absurd (.inr rfl) read
      | finite => rfl
      | posInf => rfl
      | negInf => rfl

theorem eq_of_le_of_le {left right : PyFloat} (below : left.le right = true)
    (above : right.le left = true) : left = right := by
  cases left <;> cases right <;> first
    | rfl
    | exact absurd below Bool.noConfusion
    | exact absurd above Bool.noConfusion
    | rw [le_antisymm ((PyFloat.finite_le _ _).mp below) ((PyFloat.finite_le _ _).mp above)]

theorem sameNumber_iff {first second : Option PyFloat} :
    SameNumber first second ↔ ∀ limit, within first limit = within second limit := by
  constructor
  · rintro (rfl | ⟨unread, unread'⟩) limit
    · rfl
    · rw [within_unread unread, within_unread unread']
  · intro same
    by_cases unread : Unread first
    · refine .inr ⟨unread, ?_⟩
      by_contra read
      have none := same .posInf
      rw [within_unread unread, within_posInf read] at none
      cases none
    · have read : ¬Unread second := by
        intro unread'
        have none := same .posInf
        rw [within_unread unread', within_posInf unread] at none
        cases none
      obtain ⟨number, rfl, _⟩ := within_eq_true.mp (within_posInf unread)
      obtain ⟨other, rfl, _⟩ := within_eq_true.mp (within_posInf read)
      have above := (same number).symm.trans (within_self unread)
      have below := (same other).trans (within_self read)
      exact .inl (congrArg some (eq_of_le_of_le below above))

/-! ### One status -/

/-- What two snapshots share when they have one status under all limits: both lack a price, or
both have one and the same quote age, and, where that is a number, the same depth age, and,
where that is a number too, the same spread. -/
structure Alike (first second : QuoteSnapshot) : Prop where
  priced : first.isPriced = second.isPriced
  quoteAge : first.isPriced = true → SameNumber first.quoteAgeSec second.quoteAgeSec
  depthAge : first.isPriced = true → ¬Unread first.quoteAgeSec →
    SameNumber first.depthAgeSec second.depthAgeSec
  spread : first.isPriced = true → ¬Unread first.quoteAgeSec → ¬Unread first.depthAgeSec →
    SameNumber first.spreadPct second.spreadPct

theorem firstFailing_eq_iff (priced quoteAge depthAge spread slippage : Bool)
    (priced' quoteAge' depthAge' spread' slippage' : Bool) :
    firstFailing priced quoteAge depthAge spread slippage =
        firstFailing priced' quoteAge' depthAge' spread' slippage' ↔
      priced = priced' ∧ (priced = true → quoteAge = quoteAge' ∧ (quoteAge = true →
        depthAge = depthAge' ∧ (depthAge = true → spread = spread' ∧
          (spread = true → slippage = slippage')))) := by
  unfold firstFailing
  cases priced <;> cases priced' <;> grind

theorem sameStatus_iff (first second : QuoteSnapshot) :
    (∀ limits, (evaluateSnapshot limits first).status = (evaluateSnapshot limits second).status) ↔
      Alike first second := by
  simp only [evaluateSnapshot_status, firstFailing_eq_iff]
  constructor
  · intro same
    refine ⟨(same {}).1, fun priced => ?_, fun priced quoteAge => ?_,
      fun priced quoteAge depthAge => ?_⟩
    · exact sameNumber_iff.mpr fun limit => ((same ⟨limit, limit, limit, limit⟩).2 priced).1
    · exact sameNumber_iff.mpr fun limit =>
        (((same ⟨.posInf, limit, limit, limit⟩).2 priced).2 (within_posInf quoteAge)).1
    · exact sameNumber_iff.mpr fun limit =>
        ((((same ⟨.posInf, .posInf, limit, limit⟩).2 priced).2 (within_posInf quoteAge)).2
          (within_posInf depthAge)).1
  · intro alike limits
    refine ⟨alike.priced, fun priced => ⟨sameNumber_iff.mp (alike.quoteAge priced) _,
      fun quoteFresh => ?_⟩⟩
    have quoteAge : ¬Unread first.quoteAgeSec := fun unread => by
      rw [within_unread unread] at quoteFresh
      cases quoteFresh
    refine ⟨sameNumber_iff.mp (alike.depthAge priced quoteAge) _, fun depthFresh => ?_⟩
    have depthAge : ¬Unread first.depthAgeSec := fun unread => by
      rw [within_unread unread] at depthFresh
      cases depthFresh
    have spread := sameNumber_iff.mp (alike.spread priced quoteAge depthAge)
    exact ⟨spread _, fun _ => spread _⟩

/-! ### Better numbers -/

/-- A quote is lowered: its quote age or its depth age is less and not negative, or its ask is
less and not below its bid. All other numbers stay. -/
inductive Lowers (before after : QuoteSnapshot) : Prop where
  | quoteAge {age later : PyFloat} (was : before.quoteAgeSec = some later)
      (now : after.quoteAgeSec = some age) (started : (PyFloat.finite 0).le age = true)
      (less : age.lt later = true) (ltp : after.ltp = before.ltp) (bid : after.bid = before.bid)
      (ask : after.ask = before.ask) (depthAge : after.depthAgeSec = before.depthAgeSec)
  | depthAge {age later : PyFloat} (was : before.depthAgeSec = some later)
      (now : after.depthAgeSec = some age) (started : (PyFloat.finite 0).le age = true)
      (less : age.lt later = true) (ltp : after.ltp = before.ltp) (bid : after.bid = before.bid)
      (ask : after.ask = before.ask) (quoteAge : after.quoteAgeSec = before.quoteAgeSec)
  | ask {bid high low : PyFloat} (bidIs : before.bid = some bid) (was : before.ask = some high)
      (now : after.ask = some low) (above : bid.le low = true) (less : low.lt high = true)
      (ltp : after.ltp = before.ltp) (bid : after.bid = before.bid)
      (quoteAge : after.quoteAgeSec = before.quoteAgeSec)
      (depthAge : after.depthAgeSec = before.depthAgeSec)

def StaysReady (before : QuoteSnapshot) : Prop :=
  ∀ limits after, Lowers before after → (evaluateSnapshot limits before).status = .ready →
    (evaluateSnapshot limits after).status = .ready

/-- A complete quote whose ask is above a bid that is not positive. -/
def Stuck (quote : QuoteSnapshot) : Prop :=
  quote.ltp ≠ none ∧ ¬Unread quote.quoteAgeSec ∧ ¬Unread quote.depthAgeSec ∧
    ∃ low high : ℚ, quote.bid = some (.finite low) ∧ quote.ask = some (.finite high) ∧
      low < high ∧ low ≤ 0 ∧ low + high ≠ 0

theorem spreadPct_congr {first second : QuoteSnapshot} {bid ask : PyFloat}
    (bidIs : first.bid = some bid) (askIs : first.ask = some ask) (bid' : second.bid = first.bid)
    (ask' : second.ask = first.ask) : second.spreadPct = first.spreadPct := by
  rw [spreadPct_eq bidIs askIs, spreadPct_eq (bid'.trans bidIs) (ask'.trans askIs)]

theorem priced_of_passes {limits : QuoteLimits} {quote : QuoteSnapshot}
    (passes : Passes limits quote) :
    quote.ltp.isSome = true ∧ ∃ bid ask, quote.bid = some bid ∧ quote.ask = some ask := by
  have both := passes.priced
  unfold QuoteSnapshot.isPriced at both
  rw [Bool.and_eq_true] at both
  exact ⟨both.1, sides_of_spreadPct both.2⟩

theorem pct_mono {low ask high : ℚ} (positive : 0 < low) (above : low ≤ ask) (less : ask ≤ high) :
    max 0 (ask - low) / ((low + ask) / 2) * 100 ≤ max 0 (high - low) / ((low + high) / 2) * 100 := by
  rw [max_eq_right (by linarith), max_eq_right (by linarith)]
  apply mul_le_mul_of_nonneg_right _ (by norm_num)
  rw [div_le_div_iff₀ (by linarith) (by linarith)]
  have gap : low * ask ≤ low * high := mul_le_mul_of_nonneg_left less positive.le
  linarith

theorem finite_of_within {limit bid high : PyFloat} (spread : within (pctOf bid high) limit = true)
    (less : bid.lt high = true) : ∃ low top : ℚ, bid = .finite low ∧ high = .finite top := by
  have unread : within (some .nan) limit = false := within_unread (.inr rfl) limit
  cases bid with
  | finite low =>
      cases high with
      | finite top => exact ⟨low, top, rfl, rfl⟩
      | nan => cases less
      | posInf => exact absurd (spread.symm.trans unread) Bool.noConfusion
      | negInf => cases less
  | nan => cases high <;> cases less
  | posInf => cases high <;> cases less
  | negInf =>
      cases high with
      | finite top => exact absurd (spread.symm.trans unread) Bool.noConfusion
      | nan => cases less
      | posInf => exact absurd (spread.symm.trans unread) Bool.noConfusion
      | negInf => cases less

theorem passes_of_lower_ask {limits : QuoteLimits} {before after : QuoteSnapshot}
    {bid high low : PyFloat} (passes : Passes limits before) (free : ¬Stuck before)
    (bidIs : before.bid = some bid) (was : before.ask = some high) (now : after.ask = some low)
    (above : bid.le low = true) (less : low.lt high = true) (ltp : after.ltp = before.ltp)
    (bid' : after.bid = before.bid) (quoteAge : after.quoteAgeSec = before.quoteAgeSec)
    (depthAge : after.depthAgeSec = before.depthAgeSec) : Passes limits after := by
  have priced := (priced_of_passes passes).1
  have spread := passes.spread
  have slippage := passes.slippage
  rw [spreadPct_eq bidIs was] at spread slippage
  have apart : bid.lt high = true := by
    by_contra kept
    have number : bid ≠ .nan := by
      rintro rfl
      cases low <;> cases above
    have back := PyFloat.le_of_not_lt (PyFloat.ne_nan_of_lt less) number kept
    have again := PyFloat.lt_of_lt_of_le less (PyFloat.le_trans back above)
    have never : low.lt low = false := PyFloat.not_lt_of_le (PyFloat.le_refl fun nan => by
      rw [nan] at less
      cases high <;> cases less)
    rw [again] at never
    cases never
  obtain ⟨bottom, top, rfl, rfl⟩ := finite_of_within spread apart
  obtain ⟨middle, rfl⟩ : ∃ middle : ℚ, low = .finite middle := by
    cases low with
    | finite middle => exact ⟨middle, rfl⟩
    | nan => cases above
    | posInf => cases less
    | negInf => cases above
  rw [PyFloat.finite_le] at above
  rw [PyFloat.finite_lt] at less
  have middleOther : bottom + top ≠ 0 := by
    intro opposite
    rw [pctOf_finite, if_pos opposite] at spread
    cases spread
  have positive : 0 < bottom := by
    by_contra below
    refine free ⟨Option.isSome_iff_ne_none.mp priced, ?_, ?_, bottom, top, bidIs, was, ?_,
      not_lt.mp below, middleOther⟩
    · intro unread
      exact absurd (passes.quoteAge.symm.trans (within_unread unread _)) Bool.noConfusion
    · intro unread
      exact absurd (passes.depthAge.symm.trans (within_unread unread _)) Bool.noConfusion
    · linarith
  have wide : bottom + middle ≠ 0 := by
    intro opposite
    linarith
  have pct := pct_mono positive above less.le
  have pctIs : after.spreadPct = some (.finite (max 0 (middle - bottom) /
      ((bottom + middle) / 2) * 100)) := by
    rw [spreadPct_eq (bid'.trans bidIs) now, pctOf_finite, if_neg wide]
  rw [pctOf_finite, if_neg middleOther] at spread slippage
  refine ⟨?_, ?_, ?_, ?_, ?_⟩
  · unfold QuoteSnapshot.isPriced
    rw [ltp, priced, pctIs]
    rfl
  · rw [quoteAge]
    exact passes.quoteAge
  · rw [depthAge]
    exact passes.depthAge
  · rw [pctIs]
    exact PyFloat.le_trans ((PyFloat.finite_le _ _).mpr pct) spread
  · rw [pctIs]
    exact PyFloat.le_trans ((PyFloat.finite_le _ _).mpr pct) slippage

theorem passes_of_lowers {limits : QuoteLimits} {before after : QuoteSnapshot}
    (passes : Passes limits before) (free : ¬Stuck before) (lowers : Lowers before after) :
    Passes limits after := by
  obtain ⟨priced, bid, ask, bidIs, askIs⟩ := priced_of_passes passes
  have fresh : ∀ {age later limit : PyFloat}, age.lt later = true →
      within (some later) limit = true → within (some age) limit = true :=
    fun less kept => PyFloat.le_trans (PyFloat.le_of_lt less) kept
  cases lowers with
  | quoteAge was now _ less ltp bid' ask' depthAge =>
      have pct := spreadPct_congr bidIs askIs bid' ask'
      have quoteAge := passes.quoteAge
      rw [was] at quoteAge
      refine ⟨?_, ?_, depthAge ▸ passes.depthAge, pct ▸ passes.spread, pct ▸ passes.slippage⟩
      · have both := passes.priced
        unfold QuoteSnapshot.isPriced at both ⊢
        rw [ltp, pct]
        exact both
      · rw [now]
        exact fresh less quoteAge
  | depthAge was now _ less ltp bid' ask' quoteAge =>
      have pct := spreadPct_congr bidIs askIs bid' ask'
      have depthAge := passes.depthAge
      rw [was] at depthAge
      refine ⟨?_, quoteAge ▸ passes.quoteAge, ?_, pct ▸ passes.spread, pct ▸ passes.slippage⟩
      · have both := passes.priced
        unfold QuoteSnapshot.isPriced at both ⊢
        rw [ltp, pct]
        exact both
      · rw [now]
        exact fresh less depthAge
  | ask bidIs was now above less ltp bid' quoteAge depthAge =>
      exact passes_of_lower_ask passes free bidIs was now above less ltp bid' quoteAge depthAge

theorem not_staysReady_of_stuck {quote : QuoteSnapshot} (stuck : Stuck quote) :
    ¬StaysReady quote := by
  obtain ⟨priced, quoteAge, depthAge, low, high, bidIs, askIs, less, below, apart⟩ := stuck
  intro stays
  have pctIs : quote.spreadPct = some (.finite (max 0 (high - low) / ((low + high) / 2) * 100)) := by
    rw [spreadPct_eq bidIs askIs, pctOf_finite, if_neg apart]
  have passes : Passes ⟨.posInf, .posInf,
      .finite (max 0 (high - low) / ((low + high) / 2) * 100),
      .finite (max 0 (high - low) / ((low + high) / 2) * 100)⟩ quote := by
    refine ⟨?_, within_posInf quoteAge, within_posInf depthAge, ?_, ?_⟩
    · unfold QuoteSnapshot.isPriced
      rw [pctIs, Option.isSome_iff_ne_none.mpr priced]
      rfl
    · rw [pctIs]
      exact (PyFloat.finite_le _ _).mpr (le_refl _)
    · rw [pctIs]
      exact (PyFloat.finite_le _ _).mpr (le_refl _)
  have lowered : ∀ ask : ℚ, low ≤ ask → ask < high →
      within (pctOf (.finite low) (.finite ask))
        (.finite (max 0 (high - low) / ((low + high) / 2) * 100)) = true := by
    intro ask above under
    have after := (ready_iff _ _).mp (stays _ { quote with ask := some (.finite ask) }
      (.ask bidIs askIs rfl ((PyFloat.finite_le _ _).mpr above) ((PyFloat.finite_lt _ _).mpr under)
        rfl rfl rfl rfl) ((ready_iff _ _).mpr passes))
    have sides : ({ quote with ask := some (.finite ask) } : QuoteSnapshot).spreadPct =
        pctOf (.finite low) (.finite ask) := spreadPct_eq bidIs rfl
    rw [← sides]
    exact after.spread
  rcases lt_or_gt_of_ne apart with negative | positive
  · have again := lowered low (le_refl low) less
    rw [pctOf_finite, if_neg (by linarith), sub_self, max_self, zero_div, zero_mul] at again
    have upper := (PyFloat.finite_le _ _).mp again
    rw [max_eq_right (by linarith)] at upper
    have down : (high - low) / ((low + high) / 2) < 0 :=
      div_neg_of_pos_of_neg (by linarith) (by linarith)
    linarith
  · have again := lowered (-low) (by linarith) (by linarith)
    rw [pctOf_finite, if_pos (add_neg_cancel low)] at again
    cases again

theorem staysReady_iff (quote : QuoteSnapshot) : StaysReady quote ↔ ¬Stuck quote := by
  constructor
  · intro stays stuck
    exact not_staysReady_of_stuck stuck stays
  · intro free limits after lowers ready
    exact (ready_iff _ _).mpr (passes_of_lowers ((ready_iff _ _).mp ready) free lowers)

/-! ### Rows -/

/-- The code reads a row as the snapshot with its numbers, in all that counts for a status. -/
def ReadsAlike (row : PyDict) : Prop :=
  Alike (quoteFromMapping row) (statedQuote row)

/-- A row has the status of the snapshot with its numbers exactly when the two are alike. A
snapshot that is ready stays ready when it is lowered exactly when it is not stuck, and so
does a row, as long as it and the lowered row are read as they are stated. -/
theorem zero_is_read_iff (row : PyDict) (quote : QuoteSnapshot) :
    (SameStatus row ↔ ReadsAlike row) ∧ (StaysReady quote ↔ ¬Stuck quote) ∧
      ∀ lowered limits, ReadsAlike row → ReadsAlike lowered → ¬Stuck (statedQuote row) →
        Lowers (statedQuote row) (statedQuote lowered) →
          (evaluateMarketReadiness limits (.mapping row)).status = .ready →
            (evaluateMarketReadiness limits (.mapping lowered)).status = .ready := by
  refine ⟨sameStatus_iff _ _, staysReady_iff quote, ?_⟩
  intro lowered limits alike alike' free lowers ready
  have same := (sameStatus_iff _ _).mpr alike limits
  have same' := (sameStatus_iff _ _).mpr alike' limits
  exact same'.trans ((staysReady_iff _).mpr free limits _ lowers (same.symm.trans ready))

def agedRow (age : ℚ) : PyDict :=
  [("symbol", .str "NIFTY"), ("ltp", .float (.finite 100)), ("bid", .float (.finite (199 / 2))),
    ("ask", .float (.finite 100)), ("quote_age_sec", .float (.finite age)),
    ("depth_age_sec", .float (.finite (1 / 2)))]

/-- The freshest possible row is stale, and the snapshot with its numbers is ready; and a row
that is ready does not stay ready when its age is lowered to zero. -/
theorem zero_age_stale :
    (evaluateMarketReadiness {} (.mapping (agedRow 0))).status = .blockedStaleQuote ∧
      (evaluateMarketReadiness {} (.snapshot (statedQuote (agedRow 0)))).status = .ready ∧
      (evaluateMarketReadiness {} (.mapping (agedRow (1 / 2)))).status = .ready ∧
      ¬∀ row, SameStatus row := by
  have stale : (evaluateMarketReadiness {} (.mapping (agedRow 0))).status = .blockedStaleQuote := by
    decide +kernel
  have ready : (evaluateMarketReadiness {} (.snapshot (statedQuote (agedRow 0)))).status =
      .ready := by decide +kernel
  refine ⟨stale, ready, by decide +kernel, fun same => ?_⟩
  have both := same (agedRow 0) {}
  rw [stale, ready] at both
  cases both

end Algotradify.Market
