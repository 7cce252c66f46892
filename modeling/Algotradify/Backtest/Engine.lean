/-
The candles of one option and the exit of a trade: it is left at its target, its stop or the
last row it may be held.

The candles are those the loader returns, sorted by time, where times may repeat. Booking the
trades and the summary are left out.
-/

import Algotradify.Backtest.FillModel
import Algotradify.Core.EntrySemantics
import Algotradify.Execution.OrderIntent

namespace Algotradify.Backtest

open Py Core.Risk Core.EntrySemantics

structure OptionBacktestConfig where
  symbol : String
  maxHoldMinutes : Int := 30
  quantity : Int := 1
  fillModelRunId : String := "option_backtest"
deriving Repr

/-- A row of the table. The columns that only the builder of candidates reads are `cells`. -/
structure Candle where
  timestamp : Int
  high : PyFloat
  low : PyFloat
  close : PyFloat
  volume : PyFloat
  oi : PyFloat
  bid : PyFloat
  ask : PyFloat
  hasBidAsk : Bool
  cells : PyDict

/-- What `load_option_symbol_csv` returns. -/
structure CandleTable where
  rows : List Candle
  sorted : rows.Pairwise fun earlier later => earlier.timestamp ≤ later.timestamp

/-! ### The exit of a trade -/

/-- What `_simulate_exit` returns, and the row it is read from. -/
structure Exit where
  row : ℕ
  price : PyFloat
  timestamp : Int
  reason : String
deriving DecidableEq, Repr

/-- The target or the stop a candle reaches; a candle that reaches both counts for the target. -/
def levelHit (side : String) (targetPrice stopPrice : PyFloat) (candle : Candle) :
    Option (PyFloat × String) :=
  if side = "SELL" then
    if candle.low.le targetPrice then some (targetPrice, "TARGET_HIT")
    else if stopPrice.le candle.high then some (stopPrice, "STOP_HIT")
    else none
  else
    if targetPrice.le candle.high then some (targetPrice, "TARGET_HIT")
    else if candle.low.le stopPrice then some (stopPrice, "STOP_HIT")
    else none

/-- The first of the candles, numbered from `index`, that reaches a level. -/
def scanLevels (side : String) (targetPrice stopPrice : PyFloat) (index : ℕ) :
    List Candle → Option Exit
  | [] => none
  | candle :: rest =>
      match levelHit side targetPrice stopPrice candle with
      | some (price, reason) => some ⟨index, price, candle.timestamp, reason⟩
      | none => scanLevels side targetPrice stopPrice (index + 1) rest

/-- The row that `candles.iloc[index]` reads; a negative index counts from the end. -/
def ilocRow (rows : List Candle) (index : Int) : Except PyError (ℕ × Candle) :=
  let row := if index < 0 then index + rows.length else index
  if row < 0 then .error (.runtimeError "single positional indexer is out-of-bounds")
  else
    match rows[row.toNat]? with
    | some candle => .ok (row.toNat, candle)
    | none => .error (.runtimeError "single positional indexer is out-of-bounds")

/-- `_simulate_exit`. -/
def simulateExit (cfg : OptionBacktestConfig) (rows : List Candle) (side : String)
    (targetPrice stopPrice : PyFloat) (entryIndex : ℕ) : Except PyError Exit :=
  let maxIndex : Int := min ((rows.length : Int) - 1) (entryIndex + cfg.maxHoldMinutes)
  let held := (rows.drop entryIndex).take (maxIndex + 1 - entryIndex).toNat
  match scanLevels side targetPrice stopPrice entryIndex held with
  | some exit => .ok exit
  | none => do
      let (row, candle) ← ilocRow rows maxIndex
      return ⟨row, candle.close, candle.timestamp, "TIME_EXIT"⟩

def signedPoints (side : String) (entryFillPrice exitPrice : PyFloat) : PyFloat :=
  if side = "SELL" then entryFillPrice - exitPrice else exitPrice - entryFillPrice

end Algotradify.Backtest
