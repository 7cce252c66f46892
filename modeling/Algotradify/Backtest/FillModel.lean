/-
The deterministic fill model of limit orders.

The draws of the model come from a digest of the run, the order and the quote.
The digest is a parameter; everything computed from a draw follows the source.
-/

import Algotradify.Core.RiskState
import Algotradify.Py.Floats

namespace Algotradify.Backtest

open Py Core.Risk

/-- `status` of a fill. A row without an entry price is skipped before the model is asked. -/
inductive FillStatus where
  | skipped
  | noFill
  | partFilled
  | filled
deriving DecidableEq, Repr

structure Fill where
  fillQty : Int
  fillPrice : Option PyFloat
  status : FillStatus
  slippageBp : Option PyFloat
  latencyMs : Int
  reason : Option String
deriving DecidableEq, Repr

structure LimitOrder where
  side : String
  symbol : String
  qty : Int
  limitPrice : PyFloat

/-- The quote an order meets. The engine gives the first four numbers only, and the
others then read as zero. -/
structure MarketSnapshot where
  bid : Option PyFloat
  ask : Option PyFloat
  volume : PyFloat
  oi : PyFloat
  volatility : PyFloat := .finite 0
  bidQty : PyFloat := .finite 0
  askQty : PyFloat := .finite 0

/-- `round(value, places)`. -/
def roundPlaces (places : ℕ) (value : ℚ) : ℚ :=
  roundHalfEven (value * 10 ^ places) / 10 ^ places

/-- `math.floor(value)`. -/
def mathFloor : PyFloat → Except PyError Int
  | .finite value => .ok value.floor
  | .nan => .error (.valueError "cannot convert float NaN to integer")
  | _ => .error (.overflowError "cannot convert float infinity to integer")

namespace FillModel

def minLatencyMs : ℚ := 35

def maxLatencyMs : ℚ := 280

section

-- `_uniform`: the number in the unit interval that the digest of the parts gives
variable (uniform : List PyValue → ℚ)

def latencyMs (runId symbol side : String) : Int :=
  let u := uniform [.str runId, .str symbol, .str side, .str "latency"]
  let span := max (maxLatencyMs - minLatencyMs) 1
  let latency := minLatencyMs + u * span
  latency.num.tdiv latency.den

/-- The quantity the book shows, else a proxy from volume and open interest. -/
def bookQty (side : String) (snapshot : MarketSnapshot) : PyFloat :=
  let shown := if side = "BUY" then snapshot.askQty else snapshot.bidQty
  if shown.le (.finite 0) then
    pyMax (pyMax (snapshot.volume * .finite (1 / 100)) (snapshot.oi * .finite (2 / 1000)))
      (.finite 1)
  else shown

def effectiveRatio (qty : Int) (bookQty spreadPct vol : PyFloat) : PyFloat :=
  let sizeRatio := .ofInt qty / pyMax bookQty (.finite 1)
  let spreadPenalty := .finite 1 + pyMin (.finite 2) (spreadPct * .finite 25)
  let volPenalty := .finite 1 + pyMin (.finite 2) (vol * .finite (1 / 4))
  sizeRatio * spreadPenalty * volPenalty

/-- The quantity filled: at least one unit, and no more than the order asks for. -/
def fillQty (qty : Int) (effectiveRatio : PyFloat) : Except PyError Int := do
  let fillRatio := .finite 1 / (.finite 1 + effectiveRatio)
  let floored ← mathFloor (.ofInt qty * fillRatio)
  return min (if floored ≤ 0 then 1 else floored) qty

def noFill (latency : Int) (reason : String) : Fill :=
  { fillQty := 0
    fillPrice := none
    status := .noFill
    slippageBp := none
    latencyMs := latency
    reason := some reason }

end

end FillModel

end Algotradify.Backtest
