/-
The risk state of a trading day: what each update measures, the halts that are evaluated
from it, and the approval of a trade.

Configured values are parameters, as are the readings of the clock and the function that
rounds a number to some digits. Days are counted. An update that raises keeps what it has
measured so far.
-/

import Mathlib.Data.List.Infix
import Mathlib.Data.List.Sort
import Algotradify.Py.Convert
import Algotradify.Py.Equality

namespace Algotradify.Core.Risk

open Py

inductive Mode where
  | normal
  | softHalt
  | hardHalt
  | recoveryMode
deriving DecidableEq, Repr

structure RiskConfig where
  fillDecayAlpha : PyFloat := .finite 0.2
  strategyHeatDecay : PyFloat := .finite 0.98
  strategyHeatLimit : PyFloat := .finite 2.5
  cvarAlpha : ℚ := 0.95
  cvarWindow : ℕ := 200
  cvarLimit : PyFloat := .finite (-0.02)
  maxDailyLossPct : PyFloat := .finite 0.015
  maxDrawdownPct : PyFloat := .finite (-0.04)
  softHaltFraction : PyFloat := .finite 0.7
  profitCaptureEnable : Bool := false
  profitCaptureSoftFraction : PyFloat := .finite 0.55
  profitCaptureTriggerPct : PyFloat := .finite 0.006
  profitCaptureDrawdownPct : PyFloat := .finite (-0.01)
  minFillRatio : PyFloat := .finite 0.5
  volShock : PyFloat := .finite 2
  shockScoreSoft : PyFloat := .finite 0.65
  entropySoft : PyFloat := .finite 1.3
  modelDriftThreshold : PyFloat := .finite 0
  strategyZeroToHero : String := "ZERO_TO_HERO"
  /-- `round(value, digits)` of a finite number. -/
  round : ℕ → ℚ → ℚ

structure RiskState where
  startCapital : PyFloat
  mode : Mode
  lastModeReason : String
  quarantined : List String
  hardHaltDay : Option ℤ
  realizedPnl : PyFloat
  unrealizedPnl : PyFloat
  equity : PyFloat
  currentDay : ℤ
  dailyEquityHigh : PyFloat
  allTimeEquityHigh : PyFloat
  dailyMaxDrawdown : PyFloat
  allTimeMaxDrawdown : PyFloat
  dailyPnlPct : PyFloat
  openRiskPct : PyFloat
  lossStreak : ℤ
  currentRegime : PyValue
  currentRegimeEntropy : PyFloat
  currentShockScore : PyFloat
  volShockIndex : PyFloat
  regimeLast : PyDict
  regimeFlipTs : List ℚ
  regimeFlipFreq : PyFloat
  fillRatioEwma : Option PyFloat
  modelDriftMetrics : PyDict
  strategyHeat : List (String × PyFloat)
  tradePnls : List PyFloat
  cvar : PyFloat
  profitCaptureActive : Bool
  effectiveDailyLossPct : PyFloat
  effectiveDrawdownPct : PyFloat
  effectiveSoftFraction : PyFloat

/-- `RiskState(start_capital)` on a day. -/
def RiskState.start (config : RiskConfig) (today : ℤ) (startCapital : PyFloat) : RiskState :=
  { startCapital := startCapital
    mode := .normal
    lastModeReason := ""
    quarantined := []
    hardHaltDay := none
    realizedPnl := .finite 0
    unrealizedPnl := .finite 0
    equity := startCapital
    currentDay := today
    dailyEquityHigh := startCapital
    allTimeEquityHigh := startCapital
    dailyMaxDrawdown := .finite 0
    allTimeMaxDrawdown := .finite 0
    dailyPnlPct := .finite 0
    openRiskPct := .finite 0
    lossStreak := 0
    currentRegime := .str "NEUTRAL"
    currentRegimeEntropy := .finite 0
    currentShockScore := .finite 0
    volShockIndex := .finite 0
    regimeLast := []
    regimeFlipTs := []
    regimeFlipFreq := .finite 0
    fillRatioEwma := none
    modelDriftMetrics := []
    strategyHeat := []
    tradePnls := []
    cvar := .finite 0
    profitCaptureActive := false
    effectiveDailyLossPct := config.maxDailyLossPct
    effectiveDrawdownPct := config.maxDrawdownPct.abs
    effectiveSoftFraction := config.softHaltFraction }

structure Trade where
  strategy : Option String
  instrument : String

/-! ### Numbers -/

/-- `min(left, right)`: the first one unless the second is less. -/
def pyMin (left right : PyFloat) : PyFloat :=
  if right.lt left then right else left

/-- `max(left, right)`. -/
def pyMax (left right : PyFloat) : PyFloat :=
  if left.lt right then right else left

theorem pyMin_finite (left right : ℚ) :
    pyMin (.finite left) (.finite right) = .finite (min left right) := by
  unfold pyMin
  by_cases less : right < left
  · rw [if_pos ((PyFloat.finite_lt _ _).mpr less), min_eq_right less.le]
  · rw [if_neg (mt (PyFloat.finite_lt _ _).mp less), min_eq_left (not_lt.mp less)]

theorem pyMax_finite (left right : ℚ) :
    pyMax (.finite left) (.finite right) = .finite (max left right) := by
  unfold pyMax
  by_cases less : left < right
  · rw [if_pos ((PyFloat.finite_lt _ _).mpr less), max_eq_right less.le]
  · rw [if_neg (mt (PyFloat.finite_lt _ _).mp less), max_eq_left (not_lt.mp less)]

/-- `left or right` of two floats. -/
def orFloat (left right : PyFloat) : PyFloat :=
  if left.truthy then left else right

def safeDiv (numer : PyValue) (denom default : PyFloat) : PyFloat :=
  match toFloat (numer.or (.float (.finite 0))) with
  | .error _ => default
  | .ok number => if denom.eq (.finite 0) then default else number / denom

/-- `left + right`, by the kinds that have a sum. -/
def addValues : PyValue → PyValue → Except PyError PyValue
  | .str left, .str right => .ok (.str (left ++ right))
  | .list left, .list right => .ok (.list (left ++ right))
  | left, right =>
      match left.number?, right.number? with
      | some first, some second => .ok (.float (first + second))
      | _, _ => .error (.typeError "unsupported operand type(s) for +")

def numberOr (value : PyValue) (message : String) : Except PyError PyFloat :=
  match value.number? with
  | some number => .ok number
  | none => .error (.typeError message)

/-- `append` on a deque with a greatest length. -/
def pushBounded {α : Type} (maxlen : ℕ) (items : List α) (item : α) : List α :=
  (items ++ [item]).drop (items.length + 1 - maxlen)

/-! ### Modes and caps -/

namespace RiskState

variable (config : RiskConfig) (state : RiskState)

def setMode (mode : Mode) (reason : String) : RiskState :=
  { state with
    mode := mode
    lastModeReason := if reason = "" then state.lastModeReason else reason }

def quarantineStrategy (strategy : String) : RiskState :=
  if strategy = "" then state
  else { state with quarantined := state.quarantined.insert strategy }

def refreshHaltCaps : RiskState :=
  let maxDailyLossPct := config.maxDailyLossPct
  let maxDrawdownPct := config.maxDrawdownPct.abs
  let softFraction :=
    if config.profitCaptureEnable then
      pyMin config.softHaltFraction config.profitCaptureSoftFraction
    else config.softHaltFraction
  let lockinDrawdownPct := config.profitCaptureDrawdownPct.abs
  let active :=
    config.profitCaptureEnable && config.profitCaptureTriggerPct.le state.dailyPnlPct
  let maxDrawdownPct :=
    if active then pyMin maxDrawdownPct lockinDrawdownPct else maxDrawdownPct
  let maxDailyLossPct :=
    if active then pyMin maxDailyLossPct lockinDrawdownPct else maxDailyLossPct
  { state with
    profitCaptureActive := active
    effectiveDailyLossPct := pyMax (.finite 0) maxDailyLossPct
    effectiveDrawdownPct := pyMax (.finite 0) maxDrawdownPct
    effectiveSoftFraction := pyMax (.finite 0) (pyMin softFraction (.finite 1)) }

def drawdownPct : PyFloat :=
  pyMin state.dailyMaxDrawdown state.allTimeMaxDrawdown

def breachesHardLimit : Bool :=
  state.dailyPnlPct.le (-state.effectiveDailyLossPct) ||
    state.drawdownPct.le (-state.effectiveDrawdownPct) || state.cvar.le config.cvarLimit

def nearLimit : Bool :=
  state.dailyPnlPct.le (-(state.effectiveDailyLossPct * state.effectiveSoftFraction)) ||
    state.drawdownPct.le (-(state.effectiveDrawdownPct * state.effectiveSoftFraction))

def softHaltReason : Option String :=
  if state.nearLimit then some "near_limit"
  else if state.fillRatioEwma.any fun ratio => ratio.lt config.minFillRatio then
    some "fill_ratio_decay"
  else if config.volShock.le state.volShockIndex then some "vol_shock"
  else if config.shockScoreSoft.le state.currentShockScore then some "shock_score"
  else if config.entropySoft.le state.currentRegimeEntropy then some "high_regime_entropy"
  else none

def evaluateHalts : RiskState :=
  let capped := state.refreshHaltCaps config
  if capped.breachesHardLimit config then
    { capped with hardHaltDay := some capped.currentDay }.setMode .hardHalt "hard_limit_breach"
  else
    match capped.softHaltReason config with
    | some reason => capped.setMode .softHalt reason
    | none => if capped.mode = .softHalt then capped.setMode .normal "recovered" else capped

/-! ### Measuring -/

def resetDailyIfNeeded (today : ℤ) : RiskState :=
  if today ≠ state.currentDay then
    let state :=
      { state with
        currentDay := today
        dailyEquityHigh := state.equity
        dailyMaxDrawdown := .finite 0 }
    if state.mode = .hardHalt then
      { state with mode := .recoveryMode, lastModeReason := "recovery_after_hard_halt" }
    else state
  else state

def updateDrawdown : RiskState :=
  let allTimeEquityHigh := pyMax state.allTimeEquityHigh state.equity
  let dailyEquityHigh := pyMax state.dailyEquityHigh state.equity
  let ddAll := safeDiv (.float (state.equity - allTimeEquityHigh)) allTimeEquityHigh (.finite 0)
  let ddDay := safeDiv (.float (state.equity - dailyEquityHigh)) dailyEquityHigh (.finite 0)
  { state with
    allTimeEquityHigh := allTimeEquityHigh
    dailyEquityHigh := dailyEquityHigh
    allTimeMaxDrawdown := pyMin state.allTimeMaxDrawdown ddAll
    dailyMaxDrawdown := pyMin state.dailyMaxDrawdown ddDay }

def dailyPnl (portfolio : PyDict) : Except PyError PyValue :=
  if (portfolio.get "daily_pnl").isNone then
    addValues ((portfolio.lookup "daily_profit").getD (.float (.finite 0)))
      ((portfolio.lookup "daily_loss").getD (.float (.finite 0)))
  else .ok (portfolio.get "daily_pnl")

/-- `update_portfolio`, after the day and before the halts. -/
def measurePortfolio (portfolio : PyDict) : RiskState × Option PyError :=
  match toFloat ((portfolio.lookup "capital").getD (.float state.equity)) with
  | .error raised => (state, some raised)
  | .ok capital =>
      let equity := capital + state.unrealizedPnl
      let dailyPnlPct :=
        match dailyPnl portfolio with
        | .ok pnl =>
            safeDiv pnl (orFloat (orFloat state.dailyEquityHigh equity) (.finite 1)) (.finite 0)
        | .error _ => .finite 0
      let openRisk := (portfolio.lookup "open_risk_pct").getD (.float (.finite 0))
      let lossStreak := (portfolio.lookup "loss_streak").getD (.int state.lossStreak)
      ({ state with
          realizedPnl := capital - state.startCapital
          equity := equity
          dailyPnlPct := dailyPnlPct
          openRiskPct :=
            ((toFloat (openRisk.or (.float (.finite 0)))).toOption).getD (.finite 0)
          lossStreak := ((toInt (lossStreak.or (.int 0))).toOption).getD 0 }.updateDrawdown, none)

/-- `update_unrealized`, after the day and before the halts. -/
def measureUnrealized (unrealizedPnl : PyValue) : RiskState × Option PyError :=
  match toFloat (unrealizedPnl.or (.float (.finite 0))) with
  | .error raised => (state, some raised)
  | .ok pnl =>
      ({ state with
          unrealizedPnl := pnl
          equity := state.startCapital + state.realizedPnl + pnl }.updateDrawdown, none)

def shockOf (marketData : PyDict) : Except PyError PyFloat := do
  let atr := (marketData.get "atr").or (.int 0)
  let ltp := (marketData.get "ltp").or (.int 0)
  let atrPct ←
    if ltp.truthy then do
      let numer ← numberOr atr "unsupported operand type(s) for /"
      let denom ← numberOr ltp "unsupported operand type(s) for /"
      pure (numer / denom)
    else pure (.finite 0)
  if (marketData.get "vol_z").isNone then pure (atrPct * .finite 100)
  else do
    let number ← numberOr (marketData.get "vol_z") "bad operand type for abs()"
    pure number.abs

/-- The flips that are still in the window, and how many there are in an hour. -/
def computeRegimeFlipFreq (now : ℚ) : RiskState :=
  let kept := state.regimeFlipTs.filter fun ts => now - ts ≤ 3600
  { state with
    regimeFlipTs := kept
    regimeFlipFreq := .finite (config.round 4 kept.length) }

/-- `update_market`, before the halts. The clock is read for a flip and for the window. -/
def measureMarket (flipTime now : ℚ) (symbol : String) (marketData : PyDict) :
    RiskState × Option PyError :=
  let state :=
    { state with
      currentRegime :=
        ((marketData.get "primary_regime").or (marketData.get "regime")).or (.str "NEUTRAL") }
  match toFloat ((marketData.get "regime_entropy").or (.float (.finite 0))) with
  | .error raised => (state, some raised)
  | .ok entropy =>
      let state := { state with currentRegimeEntropy := entropy }
      match toFloat ((marketData.get "shock_score").or (.float (.finite 0))) with
      | .error raised => (state, some raised)
      | .ok shockScore =>
          let state := { state with currentShockScore := shockScore }
          match shockOf marketData with
          | .error raised => (state, some raised)
          | .ok shock =>
              let regime := (marketData.get "regime").or (marketData.get "regime_day")
              let last := state.regimeLast.get symbol
              let flipped := regime.truthy && last.truthy && !regime.equal last
              let state :=
                { state with
                  volShockIndex := shock.roundWith (config.round 4)
                  regimeFlipTs :=
                    if flipped then pushBounded 2000 state.regimeFlipTs flipTime
                    else state.regimeFlipTs
                  regimeLast :=
                    if regime.truthy then state.regimeLast.set symbol regime
                    else state.regimeLast }
              (state.computeRegimeFlipFreq config now, none)

/-- `record_fill`, before the halts. -/
def measureFill (filled : Bool) : RiskState :=
  let obs : PyFloat := if filled then .finite 1 else .finite 0
  { state with
    fillRatioEwma :=
      match state.fillRatioEwma with
      | none => some obs
      | some ratio =>
          some ((config.fillDecayAlpha * obs + (.finite 1 - config.fillDecayAlpha) * ratio).roundWith
            (config.round 4)) }

/-- `_compute_cvar`: the mean of the worst results in the window. -/
def computeCvar : RiskState :=
  if state.tradePnls.isEmpty then { state with cvar := .finite 0 }
  else
    let pnls := state.tradePnls.mergeSort fun left right => !right.lt left
    let share := (pnls.length : ℚ) * (1 - config.cvarAlpha)
    let count := max 1 (share.num.tdiv share.den)
    let tail := pnls.take count.toNat
    let total := tail.foldl (· + ·) (.finite 0)
    { state with cvar := (total / .finite tail.length).roundWith (config.round 6) }

def heatAfter (heat pnl : PyFloat) : PyFloat :=
  if pnl.lt (.finite 0) then heat + pnl.abs
  else pyMax (.finite 0) (heat - pnl * .finite 0.5)

/-- `record_realized_pnl`, before the halts. -/
def measureRealizedPnl (strategy : Option String) (pnl : PyValue) :
    RiskState × Option PyError :=
  match toFloat (pnl.or (.float (.finite 0))) with
  | .error raised => (state, some raised)
  | .ok pnl =>
      let state :=
        { state with tradePnls := pushBounded config.cvarWindow state.tradePnls pnl }
      let name := strategy.getD ""
      let heat := heatAfter ((state.strategyHeat.lookup name).getD (.finite 0)) pnl
      let heated := { state with strategyHeat := Assoc.set state.strategyHeat name heat }
      let state :=
        if name = "" then state
        else if config.strategyHeatLimit.le heat then heated.quarantineStrategy name
        else heated
      (state.computeCvar config, none)

/-! ### Updates and approvals -/

/-- The halts are evaluated from what an update has measured, unless it has raised. -/
def evaluated (config : RiskConfig) : RiskState × Option PyError → RiskState × Option PyError
  | (measured, none) => (measured.evaluateHalts config, none)
  | (measured, some raised) => (measured, some raised)

def updatePortfolio (today : ℤ) (portfolio : PyDict) : RiskState × Option PyError :=
  evaluated config ((state.resetDailyIfNeeded today).measurePortfolio portfolio)

def updateUnrealized (today : ℤ) (unrealizedPnl : PyValue) : RiskState × Option PyError :=
  evaluated config ((state.resetDailyIfNeeded today).measureUnrealized unrealizedPnl)

def updateMarket (flipTime now : ℚ) (symbol : String) (marketData : PyDict) :
    RiskState × Option PyError :=
  evaluated config (state.measureMarket config flipTime now symbol marketData)

def recordTradeAttempt (trade : Trade) : RiskState :=
  match trade.strategy with
  | none => state
  | some strategy =>
      if strategy = "" then state
      else
        let heat := (state.strategyHeat.lookup strategy).getD (.finite 0)
        { state with
          strategyHeat :=
            Assoc.set state.strategyHeat strategy (heat * config.strategyHeatDecay) }

def recordFill (filled : Bool) : RiskState :=
  (state.measureFill config filled).evaluateHalts config

def recordRealizedPnl (strategy : Option String) (pnl : PyValue) : RiskState × Option PyError :=
  evaluated config (state.measureRealizedPnl config strategy pnl)

def driftAccuracy (metrics : PyDict) : Except PyError (Option PyFloat) :=
  if config.modelDriftThreshold.truthy && !(metrics.get "accuracy").isNone then do
    let accuracy ← numberOr (metrics.get "accuracy") "'<' not supported between instances"
    pure (some accuracy)
  else pure none

def updateModelDrift (metrics : Option PyDict) : RiskState × Option PyError :=
  let metrics := metrics.getD []
  let state := { state with modelDriftMetrics := metrics }
  match driftAccuracy config metrics with
  | .error raised => (state, some raised)
  | .ok accuracy =>
      if accuracy.any fun own => own.lt config.modelDriftThreshold then
        (state.setMode .softHalt "model_drift", none)
      else (state, none)

def approve (trade : Trade) : Bool × String :=
  let strategy := trade.strategy.getD ""
  let shown := trade.strategy.getD "None"
  if state.mode = .hardHalt then (false, "hard_halt")
  else if strategy ≠ "" ∧ strategy ∈ state.quarantined then (false, "strategy_quarantined")
  else if state.mode = .recoveryMode then
    if trade.instrument = "SPREAD" ∨ "SPREAD".toList <:+: shown.toList then
      (true, "recovery_ok")
    else (false, "recovery_mode_only_spreads")
  else if state.mode = .softHalt ∧
      (trade.strategy ∈ ["SCALP", "ZERO_HERO", "ZERO_HERO_EXPIRY",
          config.strategyZeroToHero].map some ∨ "QUICK".toList <+: shown.toList) then
    (false, "soft_halt_block_aggressive")
  else (true, "ok")

end RiskState

end Algotradify.Core.Risk
