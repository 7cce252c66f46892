/-
Mark-to-market valuation of the positions of a paper ledger against controlled
mark prices.
-/

import Algotradify.Paper.RealizedPnl

namespace Algotradify.Paper.MtmPnl

open Py RealizedPnl

inductive PaperMtmPnlStatus where
  | valued
  | degradedMissingMark
  | empty
  | blocked
deriving DecidableEq, Repr

structure PaperMtmPnlResult where
  valued : Bool
  status : PaperMtmPnlStatus
  rows : List PyDict := []
  summary : PyDict := []
  blockers : List String := []
  warnings : List String := []
  evidence : PyDict := []
deriving Repr

/-- `CONTROLLED_MARK_SOURCES`. -/
def controlledMarkSources : List String :=
  ["CONTROLLED_MARK", "TEST_MARK", "SIMULATED_MARK", "PAPER_MARK"]

/-- `OPEN_POSITION_SIDES`. -/
def openPositionSides : List String := ["LONG", "SHORT"]

/-! ### Mark prices -/

def priceFromMark : PyValue → Option PyFloat
  | .dict mark =>
      ["mark_price", "mark", "ltp", "last", "last_price", "close"].findSome? fun key =>
        floatOrNone (PyDict.get mark key)
  | other => floatOrNone other

/-- `_mark_price_for_position`: the nested marks are keyed by strings, so the
second lookup with the unprinted key finds nothing the first one missed. -/
def markPriceForPosition (position marks : PyDict) : Option PyFloat :=
  let direct := priceFromMark (.dict marks)
  match marks.get "marks" with
  | .dict nested =>
      let keys := ["position_key", "instrument_token", "tradingsymbol", "symbol", "candidate_id"]
        |>.map position.get |>.filter (!·.isNoneOrEmpty)
      match keys.find? (fun key => !(PyDict.get nested (printValue key)).isNone) with
      | some key => priceFromMark (PyDict.get nested (printValue key))
      | none => direct
  | _ => direct

/-! ### Validation -/

def staleMark (mark : PyDict) (nowEpoch : Option PyFloat) (maxMarkAgeSec : PyFloat) : Bool :=
  match ageSec ((mark.get "ts_epoch").or (mark.get "mark_ts_epoch")) nowEpoch with
  | some age => maxMarkAgeSec.lt age
  | none => false

def nestedMarkBlockers (nowEpoch : Option PyFloat) (maxMarkAgeSec : PyFloat) (key : String)
    (rawMark : PyValue) : List String :=
  if rawMark.isDict then
    let mark := rawMark.asDict
    blockerIf (!((mark.get "is_order_action").isNone || (mark.get "is_order_action").isFalse))
        ("CONTROLLED_MARK_ROW_ORDER_FLAG_UNSAFE:" ++ key) ++
      blockerIf (mark.get "broker_api_called").isTrue
        ("CONTROLLED_MARK_ROW_BROKER_API_CALLED:" ++ key) ++
      blockerIf (!(mark.get "real_order_id").isNoneOrEmpty)
        ("CONTROLLED_MARK_ROW_REAL_ORDER_ID_PRESENT:" ++ key) ++
      blockerIf (staleMark mark nowEpoch maxMarkAgeSec) ("CONTROLLED_MARK_ROW_STALE:" ++ key)
  else []

def validateNestedMarks (marks : PyDict) (nowEpoch : Option PyFloat) (maxMarkAgeSec : PyFloat) :
    List String × List String :=
  match marks.get "marks" with
  | .none => ([], ["CONTROLLED_MARKS_MAP_MISSING"])
  | .dict nested =>
      (nested.flatMap fun entry => nestedMarkBlockers nowEpoch maxMarkAgeSec entry.1 entry.2, [])
  | _ => (["CONTROLLED_MARKS_MAP_INVALID"], [])

def mtmLedgerBlockers (ledger : PyDict) : List String :=
  if ledger.isEmpty then ["PAPER_POSITION_LEDGER_REQUIRED"]
  else
    blockerIf (!(ledger.get "ledger_type").isStr "PAPER_POSITION_LEDGER")
        "PAPER_POSITION_LEDGER_TYPE_REQUIRED" ++
      validateSafeFlags ledger "PAPER_POSITION_LEDGER" ++
      blockerIf (!(ledger.get "positions").isDict) "PAPER_POSITION_LEDGER_POSITIONS_INVALID"

def markBlockers (marks : PyDict) (nowEpoch : Option PyFloat) (maxMarkAgeSec : PyFloat) :
    List String × List String :=
  if marks.isEmpty then (["CONTROLLED_MARK_REQUIRED"], [])
  else
    let nested := validateNestedMarks marks nowEpoch maxMarkAgeSec
    let age := ageSec ((marks.get "ts_epoch").or (marks.get "mark_ts_epoch")) nowEpoch
    (blockerIf (!controlledMarkSources.contains (upperText (marks.get "source")))
        "CONTROLLED_MARK_SOURCE_REQUIRED" ++
      blockerIf (!(marks.get "is_order_action").isFalse) "CONTROLLED_MARK_ORDER_FLAG_UNSAFE" ++
      blockerIf (marks.get "broker_api_called").isTrue "CONTROLLED_MARK_BROKER_API_CALLED" ++
      blockerIf (!(marks.get "real_order_id").isNoneOrEmpty)
        "CONTROLLED_MARK_REAL_ORDER_ID_PRESENT" ++
      blockerIf (staleMark marks nowEpoch maxMarkAgeSec) "CONTROLLED_MARK_STALE" ++ nested.1,
      blockerIf age.isNone "CONTROLLED_MARK_AGE_UNAVAILABLE" ++ nested.2)

def validatePaperMtmPnlInputs (ledger marks : PyValue) (nowEpoch : Option PyFloat)
    (maxMarkAgeSec : PyFloat) : List String × List String :=
  let ofMarks := markBlockers marks.asDict nowEpoch maxMarkAgeSec
  (dedupe (mtmLedgerBlockers ledger.asDict ++ ofMarks.1), dedupe ofMarks.2)

/-! ### Rows and summary -/

/-- The three values of a row that depend on whether the position can be valued. -/
structure RowValuation where
  rowStatus : String
  unrealizedPnl : Option PyFloat
  notionalValue : Option PyFloat

def rowValuation (rounding : ℚ → ℚ) (netQuantity : Int) (side : String)
    (averageEntryPrice markPrice : Option PyFloat) : RowValuation :=
  if netQuantity ≠ 0 ∧ side ∈ openPositionSides then
    match averageEntryPrice, markPrice with
    | none, _ => ⟨"MISSING_AVERAGE_ENTRY_PRICE", none, none⟩
    | some _, none => ⟨"MISSING_MARK", none, none⟩
    | some average, some mark =>
        let multiplier : Int := if side = "LONG" then 1 else -1
        ⟨"VALUED",
          some (((mark - average) * .ofInt netQuantity.natAbs * .ofInt multiplier).roundWith rounding),
          some ((.ofInt netQuantity.natAbs * mark).roundWith rounding)⟩
  else ⟨"FLAT", some (.finite 0), some (.finite 0)⟩

def mtmRow (rounding : ℚ → ℚ) (position marks : PyDict) (tsEpoch : Option PyFloat) :
    Except PyError PyDict := do
  let netQuantity ← intOrZero (position.get "net_quantity")
  let side := upper (printValue ((position.get "side").or (.str "FLAT")))
  let averageEntryPrice := floatOrNone (position.get "average_entry_price")
  let markPrice := markPriceForPosition position marks
  let valuation := rowValuation rounding netQuantity side averageEntryPrice markPrice
  pure ([("position_id", position.get "position_id"),
    ("position_key", position.get "position_key"),
    ("symbol", position.get "symbol"),
    ("tradingsymbol", position.get "tradingsymbol"),
    ("instrument_token", position.get "instrument_token"),
    ("strategy", position.get "strategy"),
    ("net_quantity", .int netQuantity),
    ("side", .str side),
    ("average_entry_price", ofOptionFloat averageEntryPrice),
    ("mark_price", ofOptionFloat markPrice),
    ("unrealized_pnl", ofOptionFloat valuation.unrealizedPnl),
    ("notional_value", ofOptionFloat valuation.notionalValue),
    ("row_status", .str valuation.rowStatus),
    ("ts_epoch", ofOptionFloat tsEpoch)] ++ safeFlags)

def summaryOf (openCount positionCount valuedCount missingCount : Nat)
    (unrealized notional : PyValue) (quantity : Int) : PyDict :=
  [("position_count", .int positionCount),
    ("open_position_count", .int openCount),
    ("valued_position_count", .int valuedCount),
    ("missing_mark_count", .int missingCount),
    ("total_unrealized_pnl", unrealized),
    ("gross_notional_value", notional),
    ("net_quantity_abs", .int quantity)] ++ safeFlags

def emptySummary : PyDict :=
  summaryOf 0 0 0 0 (.float (.finite 0)) (.float (.finite 0)) 0

def isOpenRow (row : PyDict) : Except PyError Bool := do
  let netQuantity ← intOrZero (row.get "net_quantity")
  pure (openPositionSides.any (row.get "side").isStr && decide (netQuantity ≠ 0))

def mtmSummary (rounding : ℚ → ℚ) (rows : List PyDict) : Except PyError (PyDict × Nat) := do
  let openRows ← rows.filterM isOpenRow
  let valuedRows := openRows.filter fun row => (row.get "row_status").isStr "VALUED"
  let missingRows := openRows.filter fun row =>
    (row.get "row_status").isStr "MISSING_MARK" ||
      (row.get "row_status").isStr "MISSING_AVERAGE_ENTRY_PRICE"
  let quantities ← openRows.mapM fun row => intOrZero (row.get "net_quantity")
  let total := fun key =>
    roundedSum rounding (valuedRows.map fun row => floatOrZero (row.get key))
  pure (summaryOf openRows.length rows.length valuedRows.length missingRows.length
    (total "unrealized_pnl") (total "notional_value")
    (quantities.map fun quantity => (quantity.natAbs : Int)).sum, missingRows.length)

def trackerEvidence (ledger marks : PyValue) (nowEpoch : Option PyFloat) (maxMarkAgeSec : PyFloat) :
    PyDict :=
  let markTs := (marks.asDict.get "ts_epoch").or (marks.asDict.get "mark_ts_epoch")
  [("ledger_type", ledger.asDict.get "ledger_type"),
    ("position_count", dictCount (ledger.asDict.get "positions")),
    ("mark_source", marks.asDict.get "source"),
    ("mark_ts_epoch", markTs),
    ("mark_age_sec", ofOptionFloat (ageSec markTs nowEpoch)),
    ("max_mark_age_sec", .float maxMarkAgeSec),
    ("controlled_mark_only", .bool true),
    ("unrealized_mtm_only", .bool true)] ++ safeFlags

/-- `build_paper_mtm_pnl`. A position that is no dictionary has no fields to
read and raises AttributeError in the source. -/
def buildPaperMtmPnl (rounding : ℚ → ℚ) (ledger marks : PyValue) (nowEpoch : Option PyFloat)
    (maxMarkAgeSec : PyFloat) (tsEpoch : Option PyFloat) : Except PyError PaperMtmPnlResult := do
  let (blockers, warnings) := validatePaperMtmPnlInputs ledger marks nowEpoch maxMarkAgeSec
  let evidence := trackerEvidence ledger marks nowEpoch maxMarkAgeSec
  let positions := (ledger.asDict.get "positions").asDict
  if blockers ≠ [] then
    pure
      { valued := false
        status := .blocked
        summary := emptySummary
        blockers := blockers
        warnings := warnings
        evidence := evidence }
  else if positions.isEmpty then
    pure
      { valued := true
        status := .empty
        summary := emptySummary
        warnings := dedupe (warnings ++ ["PAPER_POSITION_LEDGER_EMPTY"])
        evidence := evidence }
  else
    let rows ← positions.mapM fun entry => do
      let position ← toDict entry.2
      mtmRow rounding position marks.asDict tsEpoch
    let (summarized, missing) ← mtmSummary rounding rows
    pure
      { valued := missing == 0
        status := if missing = 0 then .valued else .degradedMissingMark
        rows := rows
        summary := summarized
        warnings := dedupe (warnings ++
          blockerIf (missing != 0) "MISSING_MARK_FOR_OPEN_POSITION")
        evidence := evidence }

end Algotradify.Paper.MtmPnl
