/-
Fills of the paper engine: market orders pay the touch and an adverse slippage, limit orders fill
when the limit crosses the touch, and quotes that are stale, wide or thin are rejected.

Arithmetic is exact, and prices and amounts are not rounded. The age of the quote and the draw of
the request are parameters.
-/

import Algotradify.Py.CaseConversion
import Algotradify.Py.Convert

namespace Algotradify.Core.FillRealism

open Py

structure FillRequest where
  side : String
  qty : ℚ
  orderType : String
  limitPrice : PyValue
  ltp : PyValue
  bid : PyValue
  ask : PyValue
  spread : PyValue
  depth : PyValue
  volatility : PyValue
  latencyMs : PyValue

structure FillRealismConfig where
  maxQuoteAgeMs : ℤ
  maxSpreadPctForMarket : ℚ
  spreadMultiplierRange : PyValue
  volImpactK : PyValue
  depthImpactK : PyValue
  latencyMs : ℤ
  limitOrderRejectOnSlip : Bool
  allowPartialFills : Bool
  fillRemainderAtWorse : Bool

inductive FillStatus where
  | rejected
  | opened
  | partFilled
  | filled
deriving DecidableEq, Repr

structure PartialFill where
  fillId : String
  qty : ℚ
  price : ℚ
deriving DecidableEq, Repr

structure FillResult where
  status : FillStatus
  filledQty : ℚ
  avgPrice : Option ℚ
  slippage : Option ℚ
  rejectReason : Option String
  partialFills : List PartialFill
deriving DecidableEq, Repr

/-- `_safe_float`: a number that is neither NaN nor infinite. -/
def safeFloat (value : PyValue) : Option ℚ :=
  match toFloat value with
  | .ok (.finite number) => some number
  | _ => none

/-- `_safe_int`. -/
def safeInt (value : PyValue) (default : ℤ) : ℤ := (toInt value).toOption.getD default

/-- `_reject`. -/
def reject (reason : String) : FillResult :=
  { status := .rejected
    filledQty := 0
    avgPrice := none
    slippage := none
    rejectReason := some reason
    partialFills := [] }

/-! ### What is read of a request -/

namespace FillRequest

def sideName (req : FillRequest) : String := upper req.side

def orderTypeName (req : FillRequest) : String :=
  upper (if req.orderType = "" then "LIMIT" else req.orderType)

def levels (req : FillRequest) : Option PyValue :=
  match req.depth with
  | .dict depth => some (PyDict.get depth (if req.sideName = "BUY" then "sell" else "buy"))
  | _ => none

/-- `_top_of_book_depth`. -/
def topOfBookDepth (req : FillRequest) : ℚ :=
  match req.levels with
  | some (.list (.dict level :: _)) =>
      match safeFloat (PyDict.get level "quantity") with
      | some quantity => if 0 < quantity then quantity else 0
      | none => 0
  | _ => 0

def hasDepthBook (req : FillRequest) : Bool :=
  match req.levels with
  | some (.list _) => true
  | _ => false

/-- The quantity that is available at the touch. Without a book it is that of the request. -/
def depthBest (req : FillRequest) : ℚ :=
  let depthBest := max req.topOfBookDepth 0
  if depthBest ≤ 0 ∧ req.hasDepthBook = false then max req.qty 1 else depthBest

/-- `_compute_spread`. -/
def computeSpread (req : FillRequest) : Option ℚ :=
  match (safeFloat req.spread).filter fun spread => 0 ≤ spread with
  | some spread => some spread
  | none => do
      let bid ← safeFloat req.bid
      let ask ← safeFloat req.ask
      if ask - bid < 0 then none else some (ask - bid)

def mid (req : FillRequest) : Option ℚ :=
  match safeFloat req.bid, safeFloat req.ask with
  | some bid, some ask => some ((bid + ask) / 2)
  | _, _ => safeFloat req.ltp

def touchPrice (req : FillRequest) : Option ℚ :=
  let quoted := if req.sideName = "BUY" then safeFloat req.ask else safeFloat req.bid
  match quoted.filter fun price => 0 < price with
  | some price => some price
  | none => safeFloat req.ltp

end FillRequest

/-! ### Slippage -/

/-- `_spread_multiplier`, with the draw of the request from a range. -/
def spreadMultiplier (cfg : FillRealismConfig) (uniform : ℚ → ℚ → ℚ) : ℚ :=
  let single := match safeFloat cfg.spreadMultiplierRange with
    | some value => max value 0
    | none => 1 / 2
  match cfg.spreadMultiplierRange with
  | .list (first :: second :: _) =>
      match safeFloat first, safeFloat second with
      | some lo, some hi =>
          if |max lo hi - min lo hi| < 1 / 10 ^ 12 then min lo hi
          else uniform (min lo hi) (max lo hi)
      | _, _ => single
  | _ => single

/-- The parts of `_component_slippage`: for the spread, the volatility, the depth and the latency. -/
def componentSlippage (cfg : FillRealismConfig) (uniform : ℚ → ℚ → ℚ) (req : FillRequest)
    (mid : ℚ) : List ℚ :=
  let spread := req.computeSpread.getD 0
  let spreadComponent :=
    if req.orderTypeName = "MARKET" then max 0 spread * spreadMultiplier cfg uniform else 0
  let volatility := |(safeFloat req.volatility).getD 0|
  let volK := max ((safeFloat cfg.volImpactK).getD 0) 0
  let volatilityComponent := max 0 (mid * volK * volatility * (1 / 1000))
  let depthK := max ((safeFloat cfg.depthImpactK).getD 0) 0
  let sizeRatio := max req.qty 0 / max req.depthBest 1
  let depthImpactComponent := max 0 (mid * depthK * max (sizeRatio - 1) 0 * (1 / 1000))
  let latencyMs := safeInt req.latencyMs cfg.latencyMs
  let latencyUnitMove := mid * |volatility| * (2 / 10000)
  let latencyComponent := max 0 (latencyUnitMove * max latencyMs 0 / 1000)
  [spreadComponent, volatilityComponent, depthImpactComponent, latencyComponent]

def totalSlippage (cfg : FillRealismConfig) (uniform : ℚ → ℚ → ℚ) (req : FillRequest)
    (mid : ℚ) : ℚ :=
  ((componentSlippage cfg uniform req mid).map fun component => max component 0).sum

def slippedExecPrice (side : String) (touch slippage : ℚ) : ℚ :=
  if side = "BUY" then touch + slippage else max (1 / 100) (touch - slippage)

/-! ### Filling -/

/-- The end of `simulate_fill`, once the price is known. -/
def fillAt (cfg : FillRealismConfig) (req : FillRequest) (touch execPrice slippage : ℚ) :
    FillResult :=
  let depthBest := req.depthBest
  if depthBest ≤ 0 then reject "INSUFFICIENT_LIQUIDITY"
  else if req.qty ≤ depthBest then
    { status := .filled
      filledQty := req.qty
      avgPrice := some execPrice
      slippage := some slippage
      rejectReason := none
      partialFills := [{ fillId := "fill-1", qty := req.qty, price := execPrice }] }
  else if cfg.allowPartialFills = false then reject "INSUFFICIENT_LIQUIDITY"
  else
    let firstFillQty := max (min depthBest req.qty) 0
    let remainingQty := max (req.qty - firstFillQty) 0
    let firstFill : PartialFill := { fillId := "fill-1", qty := firstFillQty, price := execPrice }
    if 0 < remainingQty ∧ cfg.fillRemainderAtWorse = true then
      let worsen := if 0 < |slippage| then |slippage| else |req.computeSpread.getD 0| * (1 / 2)
      let remainderPrice :=
        if req.sideName = "BUY" then execPrice + worsen else max (1 / 100) (execPrice - worsen)
      let avgPrice := (firstFillQty * execPrice + remainingQty * remainderPrice) /
        max req.qty (1 / 10 ^ 9)
      { status := .filled
        filledQty := req.qty
        avgPrice := some avgPrice
        slippage := some |avgPrice - touch|
        rejectReason := none
        partialFills :=
          [firstFill, { fillId := "fill-2", qty := remainingQty, price := remainderPrice }] }
    else
      { status := .partFilled
        filledQty := firstFillQty
        avgPrice := some execPrice
        slippage := some slippage
        rejectReason := some "INSUFFICIENT_LIQUIDITY"
        partialFills := [firstFill] }

def crosses (side : String) (limitPrice price : ℚ) : Bool :=
  if side = "BUY" then price ≤ limitPrice else limitPrice ≤ price

/-- The limit orders of `simulate_fill`. -/
def fillLimit (cfg : FillRealismConfig) (req : FillRequest) (touch slipped : ℚ) : FillResult :=
  match safeFloat req.limitPrice with
  | none => reject "INVALID_LIMIT"
  | some limitPrice =>
      if limitPrice ≤ 0 then reject "INVALID_LIMIT"
      else if crosses req.sideName limitPrice touch = false then
        { status := .opened
          filledQty := 0
          avgPrice := none
          slippage := some 0
          rejectReason := some "LIMIT_NOT_CROSSED"
          partialFills := [] }
      else if cfg.limitOrderRejectOnSlip = true ∧ crosses req.sideName limitPrice slipped = false
      then reject "LIMIT_SLIPPED"
      else
        let execPrice :=
          if req.sideName = "BUY" then min limitPrice touch else max limitPrice touch
        fillAt cfg req touch execPrice |execPrice - touch|

/-- `simulate_fill` at a quote with a middle price and a touch. -/
def fillQuoted (cfg : FillRealismConfig) (uniform : ℚ → ℚ → ℚ) (req : FillRequest)
    (mid touch : ℚ) : FillResult :=
  let slippage := totalSlippage cfg uniform req mid
  let slipped := slippedExecPrice req.sideName touch slippage
  if req.orderTypeName = "LIMIT" then fillLimit cfg req touch slipped
  else fillAt cfg req touch slipped slippage

def isStale (cfg : FillRealismConfig) (ageMs : Option ℚ) : Bool :=
  match ageMs with
  | some age => (cfg.maxQuoteAgeMs : ℚ) < age
  | none => false

def isWide (cfg : FillRealismConfig) (req : FillRequest) (mid : ℚ) : Bool :=
  match req.computeSpread with
  | some spread => req.orderTypeName = "MARKET" ∧ cfg.maxSpreadPctForMarket < spread / mid
  | none => false

/-- `simulate_fill`. -/
def simulateFill (cfg : FillRealismConfig) (uniform : ℚ → ℚ → ℚ) (ageMs : Option ℚ)
    (req : FillRequest) : FillResult :=
  if req.sideName ≠ "BUY" ∧ req.sideName ≠ "SELL" then reject "INVALID_SIDE"
  else if req.qty ≤ 0 then reject "INVALID_QTY"
  else
    match req.mid.filter fun mid => 0 < mid with
    | none => reject "NO_PRICE"
    | some mid =>
        if isStale cfg ageMs then reject "STALE_QUOTE"
        else if isWide cfg req mid then reject "SPREAD_TOO_WIDE"
        else
          match req.touchPrice.filter fun touch => 0 < touch with
          | none => reject "NO_PRICE"
          | some touch => fillQuoted cfg uniform req mid touch

end Algotradify.Core.FillRealism
