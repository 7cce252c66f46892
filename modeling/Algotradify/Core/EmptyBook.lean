/-
The first trade into an empty book.

The share of the trade's expiry in what is open after it is one, so the limit on the
concentration in one expiry turns the trade away unless that limit is one itself.
-/

import Mathlib.Tactic.NormNum
import Algotradify.Core.PortfolioRuns

namespace Algotradify.Core.Exposure

open Py Risk

structure EmptyBook (source : PyDict) : Prop where
  byUnderlying : entriesOf (source.get "exposure_by_underlying") = .ok []
  byExpiry : entriesOf (source.get "exposure_by_expiry") = .ok []
  counts : entriesOf (source.get "open_positions_count_by_underlying") = .ok []
  netDelta : toFloat (valueOr source "net_delta" (.float (.finite 0))) = .ok (.finite 0)
  netVega : toFloat (valueOr source "net_vega" (.float (.finite 0))) = .ok (.finite 0)
  total : toFloat ((totalOpenExposure source []).or (.float (.finite 0))) = .ok (.finite 0)

structure Cleared (config : RiskEngineConfig) (riskMode : Option String) (portfolio : PyDict)
    (regime : PyValue) (equityHigh : PyFloat) : Prop where
  mode : riskMode ≠ some "HARD_HALT"
  equity : (positiveEquityHigh portfolio).run = .ok (.ok equityHigh)
  day : (dayChecks config portfolio (resolveRegime portfolio regime) equityHigh).run = .ok (.ok ())

structure PositiveLimits (config : RiskEngineConfig) : Prop where
  exposure : 0 < config.maxUnderlyingExposurePct
  positions : 0 < config.maxPositionsPerUnderlying
  concentration : 0 < config.maxExpiryConcentrationPct

/-- The trade alone is within the limits on its exposure and its greeks. -/
structure Modest (config : RiskEngineConfig) (market : Market) (today : Int) (regime : String)
    (equityHigh : PyFloat) (trade : Trade) : Prop where
  named : gateUnderlying trade ≠ none
  exposure : (estimateTradeExposure market trade / equityHigh).le
    (.finite config.maxUnderlyingExposurePct) = true
  delta : (estimateTradeGreeks market today trade).1.abs.le
    (.finite (netDeltaLimit config regime)) = true
  vega : (estimateTradeGreeks market today trade).2.abs.le
    (.finite (netVegaLimit config regime)) = true

/-! ### The checks, one after another -/

theorem run_bind_of_ok {First Second : Type} {action : Gate First} {next : First → Gate Second}
    {value : First} {result : Second} (ran : action.run = .ok (.ok value)) :
    (action >>= next).run = .ok (.ok result) ↔ (next value).run = .ok (.ok result) := by
  rw [run_bind_eq_ok]
  constructor
  · rintro ⟨other, same, passed⟩
    rw [ran] at same
    rw [Except.ok.inj (Except.ok.inj same)]
    exact passed
  · intro passed
    exact ⟨value, ran, passed⟩

theorem run_bind_and {action : Gate Unit} {next : Unit → Gate Unit}
    (passes : (next ()).run = .ok (.ok ())) :
    (action >>= next).run = .ok (.ok ()) ↔ action.run = .ok (.ok ()) := by
  rw [run_bind_eq_ok]
  constructor
  · rintro ⟨_unit, ran, _⟩
    exact ran
  · intro ran
    exact ⟨(), ran, passes⟩

theorem coerceFloat_ok {value : PyValue} {number : PyFloat} (field : String)
    (read : toFloat value = .ok number) : (coerceFloat value field).run = .ok (.ok number) := by
  unfold coerceFloat
  rw [read]
  rfl

theorem namedUnderlying_ok {trade : Trade} (named : gateUnderlying trade ≠ none) :
    ∃ underlying, (namedUnderlying trade).run = .ok (.ok underlying) := by
  unfold namedUnderlying
  cases own : gateUnderlying trade with
  | none => exact absurd own named
  | some underlying => exact ⟨underlying, rfl⟩

theorem isAbove_of_le {limit : ℚ} {value : PyFloat} (within : value.le (.finite limit) = true) :
    isAbove limit value = false :=
  PyFloat.not_lt_of_le within

theorem zero_add_abs (value : PyFloat) : (PyFloat.finite 0 + value).abs = value.abs := by
  cases value with
  | finite value => rw [PyFloat.finite_add, zero_add]
  | nan | posInf | negInf => rfl

section

variable {config : RiskEngineConfig} {market : Market} {today : Int} {trade : Trade}
variable {equityHigh : PyFloat}

theorem added_exposure {exposure : PyFloat} {limit : ℚ}
    (positive : isAtMostZero equityHigh = false)
    (within : (exposure / equityHigh).le (.finite limit) = true) :
    ∃ amount : ℚ, pyMax (.finite 0) exposure = .finite amount ∧ 0 ≤ amount ∧
      (isPositive exposure = true ↔ 0 < amount) ∧
      (amount = 0 ∨ PyFloat.finite amount = exposure) := by
  cases exposure with
  | finite amount =>
      rw [pyMax_finite, isPositive, PyFloat.finite_lt]
      rcases le_total amount 0 with least | most
      · rw [max_eq_left least]
        exact ⟨0, rfl, le_refl 0, iff_of_false (not_lt.mpr least) (lt_irrefl 0), .inl rfl⟩
      · rw [max_eq_right most]
        exact ⟨amount, rfl, most, Iff.rfl, .inr rfl⟩
  | negInf => exact ⟨0, rfl, le_refl 0, iff_of_false Bool.noConfusion (lt_irrefl 0), .inl rfl⟩
  | nan => cases within
  | posInf =>
      cases equityHigh with
      | finite equity =>
          rw [isAtMostZero, Bool.eq_false_iff, ne_eq, PyFloat.finite_le, not_le] at positive
          have sign : (PyFloat.finite equity).sign? = some 1 := by
            unfold PyFloat.sign?
            dsimp only
            rw [if_neg (not_lt.mpr positive.le), if_neg positive.ne']
          change (PyFloat.infinityOfSign ((PyFloat.finite equity).sign?.map fun sign => 1 * sign)).le
            (.finite limit) = true at within
          rw [sign] at within
          cases within
      | nan | posInf | negInf => cases within

theorem floatEntry_nil (key : String) : floatEntry [] key = .ok (.finite 0) := rfl

theorem checkUnderlyingExposure_ok (limits : PositiveLimits config)
    (positive : isAtMostZero equityHigh = false) {exposure : PyFloat} (underlying : String)
    (within : (exposure / equityHigh).le (.finite config.maxUnderlyingExposurePct) = true) :
    (checkUnderlyingExposure config [] underlying exposure equityHigh).run = .ok (.ok ()) := by
  unfold checkUnderlyingExposure
  apply (run_bind_of_ok (run_lift_eq_ok.mpr (floatEntry_nil underlying))).mpr
  dsimp only
  apply refuse_run.mpr
  rw [Bool.and_eq_false_iff]
  right
  obtain ⟨amount, added, _least, _sign, own⟩ := added_exposure positive within
  rw [added, PyFloat.finite_add, zero_add]
  rcases own with rfl | same
  · apply isAbove_of_le
    cases equityHigh with
    | finite equity =>
        rw [PyFloat.finite_div, zero_div, PyFloat.finite_le]
        exact limits.exposure.le
    | nan =>
        cases exposure <;> cases within
    | posInf | negInf => exact (PyFloat.finite_le _ _).mpr limits.exposure.le
  · rw [same]
    exact isAbove_of_le within

theorem checkPositions_ok (limits : PositiveLimits config) (underlying : String) :
    (checkPositions config [] underlying).run = .ok (.ok ()) := by
  unfold checkPositions
  have none : toInt ((PyDict.get [] underlying).or (.int 0)) = .ok 0 := rfl
  apply (run_bind_of_ok (run_lift_eq_ok.mpr none)).mpr
  apply refuse_run.mpr
  apply decide_eq_false
  have some := limits.positions
  omega

theorem checkExpiry_iff {source : PyDict} (empty : EmptyBook source) (expiry : PyValue)
    {exposure : PyFloat} {amount : ℚ} (added : pyMax (.finite 0) exposure = .finite amount) :
    (checkExpiry config source [] [] expiry exposure).run = .ok (.ok ()) ↔
      (expiry.truthy = true → 0 < amount → 1 ≤ config.maxExpiryConcentrationPct) := by
  unfold checkExpiry
  by_cases dated : expiry.truthy = true
  · rw [if_pos dated, run_bind_of_ok (run_lift_eq_ok.mpr (floatEntry_nil _)),
      run_bind_of_ok (run_lift_eq_ok.mpr empty.total)]
    dsimp only
    rw [refuse_run, added, PyFloat.finite_add, zero_add, Bool.and_eq_false_iff, isPositive,
      isAbove, PyFloat.finite_div, Bool.eq_false_iff, Bool.eq_false_iff, ne_eq, ne_eq,
      PyFloat.finite_lt, PyFloat.finite_lt]
    constructor
    · intro passes _dated more
      rcases passes with none | share
      · exact absurd more none
      · rw [div_self more.ne'] at share
        exact not_lt.mp share
    · intro passes
      by_cases more : 0 < amount
      · right
        rw [div_self more.ne']
        exact not_lt.mpr (passes dated more)
      · exact .inl more
  · rw [if_neg dated]
    exact iff_of_true rfl fun impossible => absurd impossible dated

theorem portfolioLimitChecks_iff {source : PyDict} {regime : String} (limits : PositiveLimits config)
    (empty : EmptyBook source) (positive : isAtMostZero equityHigh = false)
    (modest : Modest config market today regime equityHigh trade) :
    (portfolioLimitChecks config market today source trade equityHigh regime).run =
        .ok (.ok ()) ↔
      ((valueOr trade "expiry" .none).truthy = true →
        isPositive (estimateTradeExposure market trade) = true →
          1 ≤ config.maxExpiryConcentrationPct) := by
  obtain ⟨underlying, named⟩ := namedUnderlying_ok modest.named
  obtain ⟨amount, added, _least, sign, _own⟩ := added_exposure positive modest.exposure
  unfold portfolioLimitChecks
  rw [run_bind_of_ok (run_lift_eq_ok.mpr empty.byUnderlying),
    run_bind_of_ok (run_lift_eq_ok.mpr empty.byExpiry),
    run_bind_of_ok (run_lift_eq_ok.mpr empty.counts),
    run_bind_of_ok (coerceFloat_ok "net_delta" empty.netDelta),
    run_bind_of_ok (coerceFloat_ok "net_vega" empty.netVega), run_bind_of_ok named]
  dsimp only
  rw [run_bind_of_ok (checkUnderlyingExposure_ok limits positive underlying modest.exposure),
    run_bind_of_ok (checkPositions_ok limits underlying), run_bind_and, checkExpiry_iff empty _ added,
    sign]
  have delta : isAbove (netDeltaLimit config regime)
      (PyFloat.finite 0 + (estimateTradeGreeks market today trade).1).abs = false := by
    rw [zero_add_abs]
    exact isAbove_of_le modest.delta
  have vega : isAbove (netVegaLimit config regime)
      (PyFloat.finite 0 + (estimateTradeGreeks market today trade).2).abs = false := by
    rw [zero_add_abs]
    exact isAbove_of_le modest.vega
  exact (run_bind_of_ok (refuse_run.mpr delta)).mpr (refuse_run.mpr vega)

/-- The first trade is let in exactly if it has no expiry or no exposure, or the limit on the
concentration in one expiry allows the whole. -/
theorem first_trade_allowed_iff (config : RiskEngineConfig) (market : Market) (today : Int)
    (riskMode : Option String) (portfolio : PyDict) (regime : PyValue) (trade : Trade)
    (exposureState : Option PyDict) (equityHigh : PyFloat) (limits : PositiveLimits config)
    (cleared : Cleared config riskMode portfolio regime equityHigh)
    (empty : EmptyBook (exposureState.getD portfolio))
    (modest : Modest config market today (resolveRegime portfolio regime) equityHigh trade) :
    allowTrade config market today riskMode portfolio regime (some trade) exposureState =
        .ok (true, "OK") ↔
      ((valueOr trade "expiry" .none).truthy = true →
        isPositive (estimateTradeExposure market trade) = true →
          1 ≤ config.maxExpiryConcentrationPct) := by
  have positive : isAtMostZero equityHigh = false := by
    obtain ⟨own, _read, above⟩ := run_bind_eq_ok.mp cleared.equity
    obtain ⟨_unit, above, returned⟩ := run_bind_eq_ok.mp above
    rw [← Except.ok.inj (Except.ok.inj returned)]
    exact refuse_run.mp above
  have gate : (tradeGate config market today riskMode portfolio regime (some trade)
      exposureState).run = .ok (.ok ()) ↔
      (portfolioLimitChecks config market today (exposureState.getD portfolio) trade equityHigh
        (resolveRegime portfolio regime)).run = .ok (.ok ()) := by
    unfold tradeGate
    dsimp only
    rw [run_bind_of_ok (refuse_run.mpr (decide_eq_false cleared.mode)),
      run_bind_of_ok cleared.equity, run_bind_of_ok cleared.day]
  rw [← portfolioLimitChecks_iff limits empty positive modest, ← gate]
  unfold allowTrade
  constructor
  · intro allowed
    split at allowed
    · assumption
    · cases allowed
    · cases allowed
  · intro passed
    rw [passed]

end

/-! ### A trade with an expiry -/

def dated : Trade :=
  [("symbol", .str "NIFTY"), ("instrument_type", .str "FUT"), ("expiry", .str "2026-01-29"),
    ("entry_price", .int 100), ("qty_units", .int 50)]

theorem cleared_quiet : Cleared defaultLimits none quietPortfolio .none (.finite 100000) := by
  constructor
  · decide
  · rfl
  · exact eq_ok_of_toOption (by decide +kernel)

theorem positiveLimits_default : PositiveLimits defaultLimits := by
  constructor <;> decide +kernel

theorem modest_dated :
    Modest defaultLimits niftyMarket 0 "NEUTRAL" (.finite 100000) dated := by
  constructor <;> decide +kernel

theorem first_trade_allowed_iff_dated :
    allowTrade defaultLimits niftyMarket 0 none quietPortfolio .none (some dated) none =
        .ok (true, "OK") ↔
      ((valueOr dated "expiry" .none).truthy = true →
        isPositive (estimateTradeExposure niftyMarket dated) = true →
          1 ≤ defaultLimits.maxExpiryConcentrationPct) :=
  first_trade_allowed_iff defaultLimits niftyMarket 0 none quietPortfolio .none dated none
    (.finite 100000) positiveLimits_default cleared_quiet (by constructor <;> rfl) modest_dated

/-- With the default limits a first trade with an expiry is turned away. -/
theorem first_trade_refused : ¬∀ (config : RiskEngineConfig) (market : Market) (today : Int)
    (riskMode : Option String) (portfolio : PyDict) (regime : PyValue) (trade : Trade)
    (exposureState : Option PyDict) (equityHigh : PyFloat), PositiveLimits config →
      Cleared config riskMode portfolio regime equityHigh →
        EmptyBook (exposureState.getD portfolio) →
          Modest config market today (resolveRegime portfolio regime) equityHigh trade →
            allowTrade config market today riskMode portfolio regime (some trade) exposureState =
              .ok (true, "OK") := by
  intro always
  have allowed := always defaultLimits niftyMarket 0 none quietPortfolio .none dated none
    (.finite 100000) positiveLimits_default cleared_quiet (by constructor <;> rfl) modest_dated
  have refused : (allowTrade defaultLimits niftyMarket 0 none quietPortfolio .none (some dated)
      none).toOption = some (false, "PORTFOLIO_LIMIT:EXPIRY_CONCENTRATION") := by decide +kernel
  rw [allowed] at refused
  exact absurd refused (by decide)

end Algotradify.Core.Exposure
