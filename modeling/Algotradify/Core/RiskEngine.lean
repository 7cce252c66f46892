/-
The exposure of open trades: the notional and the greeks estimated for one trade, and
the totals of a portfolio by underlying and by expiry.

A trade is a dictionary or an object; both are read by the names of their fields. The lot
sizes, the square root, the reading of an expiry date and the present day are parameters.

The gate of a new trade: the locks of the day, and the limits on the exposure, the count
and the greeks of the portfolio with the trade added.

Configured values and the mode of the risk state are parameters. A check that blocks stops
the gate with its reason.
-/

import Algotradify.Core.RiskState

namespace Algotradify.Core.Exposure

open Py Risk

abbrev Trade := PyDict

structure Market where
  lotSize : List (String × Int)
  sqrt : ℚ → ℚ
  expiryDay : String → Option Int

/-- `_get_value(trade, key, default)`. -/
def valueOr (trade : Trade) (key : String) (default : PyValue) : PyValue :=
  (trade.lookup key).getD default

/-- `_to_float(value, default)`. -/
def floatOr (value : PyValue) (default : PyFloat) : PyFloat :=
  match toFloat value with
  | .ok number => number
  | .error _ => default

/-- `str(value or default)`. -/
def textOr (value : PyValue) (default : String) : String :=
  printValue (value.or (.str default))

def instrumentType (trade : Trade) : String :=
  upper (textOr (valueOr trade "instrument_type" (valueOr trade "instrument" (.str "OPT"))) "OPT")

/-- `int(LOT_SIZE.get(symbol, 1) or 1)`. -/
def lotSize (market : Market) (trade : Trade) : Int :=
  let symbol := textOr (valueOr trade "symbol" (valueOr trade "underlying" (.str ""))) ""
  let lot := (market.lotSize.lookup symbol).getD 1
  if lot = 0 then 1 else lot

def isPositive (number : PyFloat) : Bool := (PyFloat.finite 0).lt number

def isAtMostZero (number : PyFloat) : Bool := number.le (.finite 0)

def estimateTradeExposure (market : Market) (trade : Trade) : PyFloat :=
  let capitalAtRisk := floatOr (valueOr trade "capital_at_risk" .none) (.finite 0)
  let entryPrice :=
    floatOr (valueOr trade "entry_price" (valueOr trade "entry" .none)) (.finite 0)
  let qtyUnits := floatOr (valueOr trade "qty_units" .none) (.finite 0)
  let qty := floatOr (valueOr trade "qty" .none) (.finite 0)
  if isPositive capitalAtRisk then capitalAtRisk
  else if isAtMostZero entryPrice then .finite 0
  else if isPositive qtyUnits then (entryPrice * qtyUnits).abs
  else if isAtMostZero qty then .finite 0
  else
    let lots : Int := if instrumentType trade = "OPT" then lotSize market trade else 1
    (entryPrice * (qty * .ofInt lots)).abs

/-! ### Greeks -/

def inferQtyUnits (market : Market) (trade : Trade) : PyFloat :=
  let qtyUnits := floatOr (valueOr trade "qty_units" .none) (.finite 0)
  let qty := floatOr (valueOr trade "qty" .none) (.finite 0)
  if isPositive qtyUnits then qtyUnits
  else if isAtMostZero qty then .finite 0
  else if instrumentType trade = "OPT" then qty * .ofInt (lotSize market trade)
  else qty

def sideSign (trade : Trade) : PyFloat :=
  if upper (textOr (valueOr trade "side" (.str "BUY")) "BUY") = "SELL" then .finite (-1)
  else .finite 1

/-- `_days_to_expiry`, on a day. -/
def daysToExpiry (market : Market) (today : Int) (expiry : PyValue) : ℚ :=
  match expiry with
  | .str text =>
      if text = "" then 1
      else
        match market.expiryDay text with
        | some day => max (day - today) 1
        | none => 1
  | _ => 1

def asPositionGreek (raw : PyValue) (qtyUnits sideSign threshold : PyFloat) : Option PyFloat :=
  match toFloat raw with
  | .ok value =>
      if value.abs.le threshold then some (sideSign * value * qtyUnits)
      else some (sideSign * value)
  | .error _ => none

def atmWeight (trade : Trade) : PyFloat :=
  let strike := floatOr (valueOr trade "strike" .none) (.finite 0)
  let spot := floatOr
    (valueOr trade "underlying_ltp" (valueOr trade "spot" (valueOr trade "ltp" .none))) (.finite 0)
  let moneynessGap :=
    if isAtMostZero strike || isAtMostZero spot then .finite 0
    else (spot - strike).abs / pyMax strike (.finite 1)
  pyMax (.finite (1 / 10)) (.finite 1 - moneynessGap / .finite (2 / 100))

def impliedVolatility (trade : Trade) : PyFloat :=
  let iv := floatOr
    (valueOr trade "iv" (valueOr trade "implied_volatility" (.float (.finite (2 / 10)))))
    (.finite (2 / 10))
  pyMin (pyMax iv (.finite (5 / 100))) (.finite (15 / 10))

def timeWeight (market : Market) (today : Int) (trade : Trade) : ℚ :=
  let dteDays := daysToExpiry market today (valueOr trade "expiry" .none)
  min (max (market.sqrt (dteDays / 30)) (35 / 100)) 2

def deltaProxy (trade : Trade) (qtyUnits : PyFloat) : PyFloat :=
  let right := upper (textOr (valueOr trade "right" (valueOr trade "option_type" (.str "CE"))) "CE")
  let rightSign : PyFloat := if right = "CE" then .finite 1 else .finite (-1)
  let deltaUnit := rightSign * (.finite (2 / 10) + .finite (6 / 10) * atmWeight trade)
  sideSign trade * deltaUnit * qtyUnits

def vegaProxy (market : Market) (today : Int) (trade : Trade) (qtyUnits : PyFloat) : PyFloat :=
  let vegaUnit := (.finite (5 / 100) + .finite (25 / 100) * atmWeight trade) *
    impliedVolatility trade * .finite (timeWeight market today trade)
  sideSign trade * vegaUnit * qtyUnits

/-- `estimate_trade_greeks`: the delta and the vega of a trade. -/
def estimateTradeGreeks (market : Market) (today : Int) (trade : Trade) : PyFloat × PyFloat :=
  let qtyUnits := inferQtyUnits market trade
  let sign := sideSign trade
  if isAtMostZero qtyUnits then (.finite 0, .finite 0)
  else if instrumentType trade = "FUT" then (sign * qtyUnits, .finite 0)
  else if instrumentType trade ≠ "OPT" then (.finite 0, .finite 0)
  else
    let positionDelta :=
      (asPositionGreek (valueOr trade "position_delta" .none) qtyUnits (.finite 1)
        (.finite 1000000000)).or
        (asPositionGreek (valueOr trade "delta" .none) qtyUnits sign (.finite 2))
    let positionVega :=
      (asPositionGreek (valueOr trade "position_vega" .none) qtyUnits (.finite 1)
        (.finite 1000000000)).or
        (asPositionGreek (valueOr trade "vega" .none) qtyUnits sign (.finite 5))
    (positionDelta.getD (deltaProxy trade qtyUnits),
      positionVega.getD (vegaProxy market today trade qtyUnits))

/-! ### The totals of a portfolio -/

structure Totals where
  exposureByUnderlying : List (String × PyFloat)
  exposureByExpiry : List (String × PyFloat)
  countByUnderlying : List (String × Int)
  totalOpenExposure : PyFloat
  netDelta : PyFloat
  netVega : PyFloat

def Totals.empty : Totals :=
  { exposureByUnderlying := []
    exposureByExpiry := []
    countByUnderlying := []
    totalOpenExposure := .finite 0
    netDelta := .finite 0
    netVega := .finite 0 }

/-- `entries[key] += amount` of a dictionary that starts every key at zero. -/
def addAt (entries : List (String × PyFloat)) (key : String) (amount : PyFloat) :
    List (String × PyFloat) :=
  Assoc.set entries key ((entries.lookup key).getD (.finite 0) + amount)

def ledgerUnderlying (trade : Trade) : String :=
  upper (textOr (valueOr trade "symbol" (valueOr trade "underlying" (.str "UNKNOWN"))) "UNKNOWN")

def Totals.add (market : Market) (today : Int) (totals : Totals) (trade : Trade) : Totals :=
  let underlying := ledgerUnderlying trade
  let expiry := valueOr trade "expiry" .none
  let exposure := estimateTradeExposure market trade
  let greeks := estimateTradeGreeks market today trade
  if isAtMostZero exposure then totals
  else
    { exposureByUnderlying := addAt totals.exposureByUnderlying underlying exposure
      exposureByExpiry :=
        if expiry.truthy then addAt totals.exposureByExpiry (printValue expiry) exposure
        else totals.exposureByExpiry
      countByUnderlying := Assoc.set totals.countByUnderlying underlying
        ((totals.countByUnderlying.lookup underlying).getD 0 + 1)
      totalOpenExposure := totals.totalOpenExposure + exposure
      netDelta := totals.netDelta + greeks.1
      netVega := totals.netVega + greeks.2 }

/-- The trades of `open_trades.values()`, in order. -/
def tradesOf (openTrades : List (String × List Trade)) : List Trade :=
  openTrades.flatMap Prod.snd

/-- `value / whole if whole > 0 else 0.0`. -/
def shareOf (whole value : PyFloat) : PyFloat :=
  if isPositive whole then value / whole else .finite 0

structure ExposureSnapshot where
  totals : Totals
  exposureByUnderlyingPct : List (String × PyFloat)
  exposureByExpiryPct : List (String × PyFloat)
  totalOpenExposurePct : PyFloat

/-- `ExposureLedger.snapshot_from_open_trades`, with the capital of the ledger. -/
def snapshotFromOpenTrades (market : Market) (today : Int) (totalCapital : PyValue)
    (openTrades : List (String × List Trade)) : ExposureSnapshot :=
  let capital := floatOr totalCapital (.finite 0)
  let totals := (tradesOf openTrades).foldl (Totals.add market today) .empty
  { totals := totals
    exposureByUnderlyingPct := Assoc.mapValues (shareOf capital) totals.exposureByUnderlying
    exposureByExpiryPct :=
      Assoc.mapValues (shareOf totals.totalOpenExposure) totals.exposureByExpiry
    totalOpenExposurePct := shareOf capital totals.totalOpenExposure }

def floatsToDict (entries : List (String × PyFloat)) : PyValue :=
  .dict (Assoc.mapValues PyValue.float entries)

/-- `to_dict`. -/
def ExposureSnapshot.toDict (snapshot : ExposureSnapshot) : PyDict :=
  [("exposure_by_underlying", floatsToDict snapshot.totals.exposureByUnderlying),
    ("exposure_by_underlying_pct", floatsToDict snapshot.exposureByUnderlyingPct),
    ("exposure_by_expiry", floatsToDict snapshot.totals.exposureByExpiry),
    ("exposure_by_expiry_pct", floatsToDict snapshot.exposureByExpiryPct),
    ("open_positions_count_by_underlying",
      .dict (Assoc.mapValues PyValue.int snapshot.totals.countByUnderlying)),
    ("total_open_exposure", .float snapshot.totals.totalOpenExposure),
    ("total_open_exposure_pct", .float snapshot.totalOpenExposurePct),
    ("net_delta", .float snapshot.totals.netDelta),
    ("net_vega", .float snapshot.totals.netVega)]

/-! ### The gate -/

structure RegimeMult where
  event : ℚ
  trend : ℚ
  range : ℚ

structure RiskEngineConfig where
  maxDailyLossPct : ℚ
  maxTradesPerDay : ℚ
  maxOpenRiskPct : ℚ
  maxNetDelta : ℚ
  maxNetVega : ℚ
  dailyProfitLock : ℚ
  symbolDailyProfitLock : ℚ
  dailyDrawdownLock : ℚ
  maxUnderlyingExposurePct : ℚ
  maxPositionsPerUnderlying : Int
  maxExpiryConcentrationPct : ℚ
  eventNetDeltaMult : ℚ
  eventNetVegaMult : ℚ
  dailyLossMult : RegimeMult
  openRiskMult : RegimeMult
  maxTradesMult : RegimeMult

abbrev Gate := ExceptT String (Except PyError)

def refuse (condition : Bool) (reason : String) : Gate Unit :=
  if condition then throw reason else pure ()

/-- `_coerce_float`, blocking on a value that is no number. -/
def coerceFloat (value : PyValue) (field : String) : Gate PyFloat :=
  match toFloat value with
  | .ok number => pure number
  | .error _ => throw ("RISK_DATA_UNAVAILABLE:" ++ field)

/-- `value or {}`, when it is to be asked for its entries. -/
def entriesOf (value : PyValue) : Except PyError PyDict :=
  match value.or (.dict []) with
  | .dict entries => .ok entries
  | _ => .error (.runtimeError "object has no attribute 'get'")

/-- `float(entries.get(key, 0.0) or 0.0)`. -/
def floatEntry (entries : PyDict) (key : String) : Except PyError PyFloat :=
  toFloat ((entries.get key).or (.float (.finite 0)))

def resolveRegime (portfolio : PyDict) (regime : PyValue) : String :=
  let own := (portfolio.get "primary_regime").or (portfolio.get "regime")
  if regime.truthy then upper (printValue regime)
  else if own.truthy then upper (printValue own)
  else "NEUTRAL"

/-- `_daily_loss_mult_for_regime` and its like. -/
def RegimeMult.forRegime (mult : RegimeMult) (regime : String) : ℚ :=
  if regime = "EVENT" then mult.event
  else if regime = "TREND" then mult.trend
  else if regime = "RANGE" ∨ regime = "RANGE_VOLATILE" then mult.range
  else 1

/-! ### The limits of the portfolio -/

def gateUnderlying (trade : Trade) : Option String :=
  let value := (valueOr trade "symbol" .none).or (valueOr trade "underlying" .none)
  if value.truthy then some (upper (printValue value)) else none

def netDeltaLimit (config : RiskEngineConfig) (regime : String) : ℚ :=
  if upper regime = "EVENT" then config.maxNetDelta * config.eventNetDeltaMult
  else config.maxNetDelta

def netVegaLimit (config : RiskEngineConfig) (regime : String) : ℚ :=
  if upper regime = "EVENT" then config.maxNetVega * config.eventNetVegaMult
  else config.maxNetVega

def isAbove (limit : ℚ) (value : PyFloat) : Bool := (PyFloat.finite limit).lt value

def namedUnderlying (trade : Trade) : Gate String :=
  match gateUnderlying trade with
  | some underlying => pure underlying
  | none => throw "RISK_DATA_UNAVAILABLE:trade_underlying"

def checkUnderlyingExposure (config : RiskEngineConfig) (byUnderlying : PyDict)
    (underlying : String) (exposure equityHigh : PyFloat) : Gate Unit := do
  let existing ← ExceptT.lift (floatEntry byUnderlying underlying)
  let after := existing + pyMax (.finite 0) exposure
  refuse (isPositive equityHigh && isAbove config.maxUnderlyingExposurePct (after / equityHigh))
    "PORTFOLIO_LIMIT:UNDERLYING_EXPOSURE"

def checkPositions (config : RiskEngineConfig) (counts : PyDict) (underlying : String) :
    Gate Unit := do
  let existing ← ExceptT.lift (toInt ((counts.get underlying).or (.int 0)))
  refuse (config.maxPositionsPerUnderlying < existing + 1) "PORTFOLIO_LIMIT:POSITIONS_PER_UNDERLYING"

/-- `total_open_exposure`, else the sum of the exposures by underlying. -/
def totalOpenExposure (source byUnderlying : PyDict) : PyValue :=
  let total := source.get "total_open_exposure"
  if total.isNone then
    match byUnderlying.values.mapM toFloat with
    | .ok values => .float (values.foldl (fun sum value => sum + value) (.finite 0))
    | .error _ => .float (.finite 0)
  else total

def checkExpiry (config : RiskEngineConfig) (source byUnderlying byExpiry : PyDict)
    (expiry : PyValue) (exposure : PyFloat) : Gate Unit := do
  if expiry.truthy then
    let existing ← ExceptT.lift (floatEntry byExpiry (printValue expiry))
    let total ← ExceptT.lift
      (toFloat ((totalOpenExposure source byUnderlying).or (.float (.finite 0))))
    let totalAfter := total + pyMax (.finite 0) exposure
    let expiryAfter := existing + pyMax (.finite 0) exposure
    refuse (isPositive totalAfter &&
      isAbove config.maxExpiryConcentrationPct (expiryAfter / totalAfter))
      "PORTFOLIO_LIMIT:EXPIRY_CONCENTRATION"
  else pure ()

/-- `_portfolio_limit_checks`, of a trade. -/
def portfolioLimitChecks (config : RiskEngineConfig) (market : Market) (today : Int)
    (source : PyDict) (trade : Trade) (equityHigh : PyFloat) (regime : String) : Gate Unit := do
  let byUnderlying ← ExceptT.lift (entriesOf (source.get "exposure_by_underlying"))
  let byExpiry ← ExceptT.lift (entriesOf (source.get "exposure_by_expiry"))
  let counts ← ExceptT.lift (entriesOf (source.get "open_positions_count_by_underlying"))
  let netDelta ← coerceFloat (valueOr source "net_delta" (.float (.finite 0))) "net_delta"
  let netVega ← coerceFloat (valueOr source "net_vega" (.float (.finite 0))) "net_vega"
  let underlying ← namedUnderlying trade
  let exposure := estimateTradeExposure market trade
  let greeks := estimateTradeGreeks market today trade
  checkUnderlyingExposure config byUnderlying underlying exposure equityHigh
  checkPositions config counts underlying
  checkExpiry config source byUnderlying byExpiry (valueOr trade "expiry" .none) exposure
  refuse (isAbove (netDeltaLimit config regime) (netDelta + greeks.1).abs)
    "PORTFOLIO_LIMIT:NET_DELTA"
  refuse (isAbove (netVegaLimit config regime) (netVega + greeks.2).abs)
    "PORTFOLIO_LIMIT:NET_VEGA"

/-! ### The locks of the day -/

/-- `to_pct`. -/
def toPct (value equityHigh : PyFloat) : PyFloat :=
  safeDiv (.float value) equityHigh (.finite 0)

/-- `portfolio.get("equity_high", portfolio.get("capital", None))`. -/
def equityHighOf (portfolio : PyDict) : PyValue :=
  valueOr portfolio "equity_high" (portfolio.get "capital")

def positiveEquityHigh (portfolio : PyDict) : Gate PyFloat := do
  let equityHigh ← coerceFloat (equityHighOf portfolio) "equity_high"
  refuse (isAtMostZero equityHigh) "RISK_DATA_UNAVAILABLE:equity_high"
  return equityHigh

/-- `_required_daily_pnl_pct`. -/
def requiredDailyPnlPct (portfolio : PyDict) : Gate PyFloat := do
  let rawPct := portfolio.get "daily_pnl_pct"
  let dailyProfit := portfolio.get "daily_profit"
  let dailyLoss := portfolio.get "daily_loss"
  if !rawPct.isNone then coerceFloat rawPct "daily_pnl_pct"
  else
    refuse (dailyProfit.isNone && dailyLoss.isNone) "RISK_DATA_UNAVAILABLE:daily_pnl_pct"
    let profit ← coerceFloat (dailyProfit.or (.float (.finite 0))) "daily_profit"
    let loss ← coerceFloat (dailyLoss.or (.float (.finite 0))) "daily_loss"
    let equityHigh ← positiveEquityHigh portfolio
    return toPct (profit + loss) equityHigh

/-- `_required_open_risk_pct`. -/
def requiredOpenRiskPct (portfolio : PyDict) : Gate PyFloat := do
  let rawOpenRisk := portfolio.get "open_risk_pct"
  refuse rawOpenRisk.isNone "RISK_DATA_UNAVAILABLE:open_risk_pct"
  coerceFloat rawOpenRisk "open_risk_pct"

def checkSymbolProfits (config : RiskEngineConfig) (equityHigh : PyFloat) :
    PyDict → Gate Unit
  | [] => pure ()
  | (symbol, pnl) :: rest => do
      let value ← coerceFloat pnl ("symbol_profit:" ++ symbol)
      refuse ((PyFloat.finite config.symbolDailyProfitLock).le (toPct value equityHigh))
        ("Symbol profit lock hit for " ++ symbol)
      checkSymbolProfits config equityHigh rest

def symbolProfits (portfolio : PyDict) : Gate PyDict :=
  match portfolio.get "symbol_profit" with
  | .none => pure []
  | .dict entries => pure entries
  | _ => throw "RISK_DATA_UNAVAILABLE:symbol_profit"

/-- `portfolio.get("trades_today", 0) >= limit`. -/
def checkTradesToday (portfolio : PyDict) (limit : Int) : Gate Unit := do
  let today ← ExceptT.lift (numberOr (valueOr portfolio "trades_today" (.int 0))
    "'>=' not supported between these types")
  refuse ((PyFloat.ofInt limit).le today) "Trade count exceeded"

def dayChecks (config : RiskEngineConfig) (portfolio : PyDict) (regime : String)
    (equityHigh : PyFloat) : Gate Unit := do
  let dailyLossLimit := |config.maxDailyLossPct| * config.dailyLossMult.forRegime regime
  let openRiskLimit := config.maxOpenRiskPct * config.openRiskMult.forRegime regime
  let trades := config.maxTradesPerDay * config.maxTradesMult.forRegime regime
  let dailyProfit ← coerceFloat (valueOr portfolio "daily_profit" (.float (.finite 0)))
    "daily_profit"
  refuse ((PyFloat.finite config.dailyProfitLock).le (toPct dailyProfit equityHigh))
    "Daily profit lock hit"
  let dailyPnlPct ← requiredDailyPnlPct portfolio
  refuse (dailyPnlPct.le (.finite (-dailyLossLimit))) "Daily loss limit hit"
  let profits ← symbolProfits portfolio
  checkSymbolProfits config equityHigh profits
  let capital ← coerceFloat (portfolio.get "capital") "capital"
  refuse (((capital - equityHigh) / pyMax (.finite 1) equityHigh).le
    (.finite config.dailyDrawdownLock)) "Daily drawdown lock hit"
  checkTradesToday portfolio (max 1 (trades.num.tdiv trades.den))
  let openRiskPct ← requiredOpenRiskPct portfolio
  refuse ((PyFloat.finite openRiskLimit).le openRiskPct) "Open risk limit hit"

/-- The gate of `allow_trade`. Without an exposure state the portfolio is asked for one. -/
def tradeGate (config : RiskEngineConfig) (market : Market) (today : Int) (riskMode : Option String)
    (portfolio : PyDict) (regime : PyValue) (trade : Option Trade)
    (exposureState : Option PyDict) : Gate Unit := do
  let resolvedRegime := resolveRegime portfolio regime
  refuse (riskMode = some "HARD_HALT") "RiskState hard halt"
  let equityHigh ← positiveEquityHigh portfolio
  dayChecks config portfolio resolvedRegime equityHigh
  match trade with
  | none => pure ()
  | some trade =>
      portfolioLimitChecks config market today (exposureState.getD portfolio) trade equityHigh
        resolvedRegime

/-- `RiskEngine.allow_trade`. -/
def allowTrade (config : RiskEngineConfig) (market : Market) (today : Int)
    (riskMode : Option String) (portfolio : PyDict) (regime : PyValue) (trade : Option Trade)
    (exposureState : Option PyDict) : Except PyError (Bool × String) :=
  match (tradeGate config market today riskMode portfolio regime trade exposureState).run with
  | .ok (.ok ()) => .ok (true, "OK")
  | .ok (.error reason) => .ok (false, reason)
  | .error raised => .error raised

end Algotradify.Core.Exposure
