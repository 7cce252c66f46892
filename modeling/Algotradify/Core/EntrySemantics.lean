/-
Entry prices of a trade row: the expected entry, the fill entry, and which of the
two is the entry price in a trading mode.
-/

import Algotradify.Py.Convert

namespace Algotradify.Core.EntrySemantics

open Py

/-- `_EXPECTED_ENTRY_SOURCES`. -/
def expectedEntrySources : List String :=
  ["expected_entry", "mark_price", "entry_price_proxy", "suggested_entry", "current_ltp", "entry",
    "entry_price", "signal_price"]

/-- `_FILL_ENTRY_SOURCES`. -/
def fillEntrySources : List String :=
  ["fill_entry", "avg_fill_price", "fill_price", "execution_fill_price", "broker_avg_fill_price"]

/-- `_safe_float`: a number that is not NaN. -/
def safeFloat (value : PyValue) : Option PyFloat :=
  match toFloat value with
  | .ok .nan => none
  | .ok number => some number
  | .error _ => none

def midPrice (bid ask : PyValue) : Option PyFloat :=
  match safeFloat bid, safeFloat ask with
  | some bid, some ask =>
      if bid.le (.finite 0) ∨ ask.le (.finite 0) then none else some ((bid + ask) / .finite 2)
  | _, _ => none

def snapshotOptionQuote (row : PyDict) : Option PyDict :=
  match (row.get "snapshot").asDict.get "option_quote" with
  | .dict optionQuote => some optionQuote
  | _ => none

def deriveExpectedFromSnapshot (row : PyDict) : Option PyFloat :=
  match snapshotOptionQuote row with
  | none => none
  | some optionQuote =>
      if optionQuote.isEmpty then none
      else
        match safeFloat (PyDict.get optionQuote "ltp") with
        | some ltp => some ltp
        | none => midPrice (PyDict.get optionQuote "bid") (PyDict.get optionQuote "ask")

def firstPrice (row : PyDict) (keys : List String) : Option PyFloat :=
  keys.findSome? fun key => safeFloat (row.get key)

def deriveExpectedEntry (row : PyDict) : Option PyFloat :=
  match deriveExpectedFromSnapshot row with
  | some price => some price
  | none => firstPrice row expectedEntrySources

def deriveFillEntry (row : PyDict) : Option PyFloat :=
  firstPrice row fillEntrySources

/-- `_resolve_mode(row, None)`: the mode of the row, else of the configuration. -/
def resolveMode (configMode : String) (row : PyDict) : String :=
  let texts := ["execution_mode", "mode", "runtime_mode"].map fun key =>
    strip (printValue ((row.get key).or (.str "")))
  match texts.find? (· ≠ "") with
  | some mode => upper mode
  | none => if strip configMode = "" then "PAPER" else upper (strip configMode)

def resolveEntryPrice (configMode : String) (row : PyDict) : Option PyFloat :=
  let expectedEntry := safeFloat (row.get "expected_entry")
  let fillEntry := safeFloat (row.get "fill_entry")
  if ["LIVE", "ARMED"].contains (resolveMode configMode row) then fillEntry.or expectedEntry
  else expectedEntry

end Algotradify.Core.EntrySemantics
