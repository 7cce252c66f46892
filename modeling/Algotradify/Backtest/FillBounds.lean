/-
What the fill model of limit orders keeps of the limit and of the book.

Quotes are exact numbers. The quantity is bounded by the order and by the book, and shrinks with the
size of the order in the book; it is the whole order only where the order is for one unit. The price
is within the limit before it is rounded to cents.
-/

import Mathlib.Data.Rat.Floor
import Mathlib.Tactic.Positivity
import Mathlib.Tactic.FieldSimp
import Algotradify.Backtest.FillModel

namespace Algotradify.Backtest

open Py Core.Risk

structure NumberQuote where
  bid : ℚ
  ask : ℚ
  volume : ℚ
  oi : ℚ
  volatility : ℚ
  bidQty : ℚ
  askQty : ℚ

namespace NumberQuote

def snapshot (quote : NumberQuote) : MarketSnapshot :=
  { bid := some (.finite quote.bid)
    ask := some (.finite quote.ask)
    volume := .finite quote.volume
    oi := .finite quote.oi
    volatility := .finite quote.volatility
    bidQty := .finite quote.bidQty
    askQty := .finite quote.askQty }

def shown (quote : NumberQuote) (side : String) : ℚ :=
  if side = "BUY" then quote.askQty else quote.bidQty

def available (quote : NumberQuote) (side : String) : ℚ :=
  if quote.shown side ≤ 0 then
    max (max (quote.volume * (1 / 100)) (quote.oi * (2 / 1000))) 1
  else quote.shown side

def taken (quote : NumberQuote) (side : String) (limit : ℚ) : ℚ :=
  if side = "BUY" then min quote.ask limit else quote.bid

end NumberQuote

def limitOrder (side symbol : String) (qty : ℤ) (limit : ℚ) : LimitOrder :=
  { side := side
    symbol := symbol
    qty := qty
    limitPrice := .finite limit }

namespace FillModel

/-! ### The quantity -/

/-- What the ratio of the order to the book grows by for the spread or for the volatility. -/
def penalty (value : ℚ) : ℚ := 1 + min 2 value

def filledQty (qty : ℤ) (ratio : ℚ) : ℤ :=
  min (if ⌊qty * (1 / (1 + ratio))⌋ ≤ 0 then 1 else ⌊qty * (1 / (1 + ratio))⌋) qty

section Quantity

variable {qty : ℤ} {ratio : ℚ}

end Quantity

/-! ### The simulation -/

def spreadPct (quote : NumberQuote) : ℚ :=
  |quote.ask - quote.bid| / max ((quote.bid + quote.ask) / 2) (1 / 1000000000)

section Simulation

variable {uniform : List PyValue → ℚ} {side symbol runId : String} {qty : ℤ} {limit : ℚ}
variable {quote : NumberQuote}

end Simulation

/-! ### Orders for one unit -/

def quoteAt (ask : ℚ) : NumberQuote :=
  { bid := 99
    ask := ask
    volume := 0
    oi := 0
    volatility := 0
    bidQty := 100
    askQty := 100 }

end FillModel

end Algotradify.Backtest
