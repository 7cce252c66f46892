/-
The performance snapshot: positions, P&L and slippage of one moment, gathered from the
records of the position ledger, the mark-to-market tracker, the realized P&L ledger and
the slippage report.

The records are dictionaries. A result that was not turned into a dictionary is not read.
-/

import Algotradify.Py.Comprehension
import Algotradify.Paper.Common

namespace Algotradify.Paper.PerformanceSnapshot

open Py

inductive PaperPerformanceSnapshotStatus where
  | ready
  | degraded
  | empty
  | blocked
deriving DecidableEq, Repr

inductive Source where
  | none
  | dict (entries : PyDict)
  | other
deriving Repr

/-- `source if isinstance(source, dict) else {}`. -/
def Source.asDict : Source → PyDict
  | .dict entries => entries
  | _ => []

/-- `isinstance(source, dict) and bool(source)`. -/
def Source.isPresent (source : Source) : Bool :=
  !source.asDict.isEmpty

structure Sources where
  positionLedger : Source
  mtmPnl : Source
  realizedPnl : Source
  slippage : Source
deriving Repr

structure PositionsBlock where
  positionCount : Int
  openPositionCount : Int
  longPositionCount : Int
  shortPositionCount : Int
  flatPositionCount : Int
  netQuantityAbs : Int
  positions : List PyDict
deriving Repr

structure PnlBlock where
  totalUnrealizedPnl : PyFloat
  totalRealizedPnl : PyFloat
  combinedPnl : PyFloat
  grossNotionalValue : PyFloat
  valuedPositionCount : Int
  missingMarkCount : Int
  realizedEventCount : Int
  winningEventCount : Int
  losingEventCount : Int
deriving Repr

structure SlippageBlock where
  slippageEventCount : Int
  measuredQuantity : Int
  totalSlippageAmount : PyFloat
  averageSlippagePerUnit : PyFloat
  weightedAverageSlippageBps : PyFloat
  favorableEventCount : Int
  unfavorableEventCount : Int
  flatEventCount : Int
deriving Repr

structure Summary where
  positionCount : Int
  openPositionCount : Int
  netQuantityAbs : Int
  totalUnrealizedPnl : PyFloat
  totalRealizedPnl : PyFloat
  combinedPnl : PyFloat
  grossNotionalValue : PyFloat
  slippageEventCount : Int
  totalSlippageAmount : PyFloat
deriving Repr

structure Diagnostics where
  missingSources : List String
  degradedSources : List String
  warningCount : Int
  positionSourcePresent : Bool
deriving Repr

structure SourceStatus where
  present : Bool
  type : PyValue
  status : PyValue
deriving Repr

structure SourceStatuses where
  positionLedger : SourceStatus
  mtmPnl : SourceStatus
  realizedPnl : SourceStatus
  slippage : SourceStatus
deriving Repr

structure Snapshot where
  status : PaperPerformanceSnapshotStatus
  tsEpoch : Option PyFloat
  summary : Summary
  positions : PositionsBlock
  pnl : PnlBlock
  slippage : SlippageBlock
  diagnostics : Diagnostics
  sourceStatuses : SourceStatuses
deriving Repr

structure Evidence where
  positionLedgerType : PyValue
  mtmTrackerType : PyValue
  realizedLedgerType : PyValue
  slippageReportType : PyValue
deriving Repr

structure PaperPerformanceSnapshotResult where
  created : Bool
  status : PaperPerformanceSnapshotStatus
  snapshot : Option Snapshot := none
  blockers : List String := []
  warnings : List String := []
  evidence : Evidence
deriving Repr

/-! ### Validation -/

def validateOptionalSource (source : Source) (expectedKey expectedValue textPrefix : String) :
    List String × List String :=
  match source with
  | .none => ([], [])
  | .dict entries =>
      if entries.isEmpty then ([], [textPrefix ++ "_EMPTY"])
      else
        (blockerIf (!(entries.get expectedKey).isStr expectedValue) (textPrefix ++ "_TYPE_REQUIRED") ++
          validateSafeFlags entries textPrefix, [])
  | .other => ([], [textPrefix ++ "_EMPTY"])

def positionLedgerBlockers (positionLedger : Source) : List String :=
  if !positionLedger.isPresent then ["PAPER_POSITION_LEDGER_REQUIRED"]
  else
    blockerIf (!(positionLedger.asDict.get "ledger_type").isStr "PAPER_POSITION_LEDGER")
        "PAPER_POSITION_LEDGER_TYPE_REQUIRED" ++
      validateSafeFlags positionLedger.asDict "PAPER_POSITION_LEDGER" ++
      blockerIf (!(positionLedger.asDict.get "positions").isDict)
        "PAPER_POSITION_LEDGER_POSITIONS_INVALID"

def validatePaperPerformanceSnapshotInputs (sources : Sources) : List String × List String :=
  let mtm := validateOptionalSource sources.mtmPnl "tracker_type" "PAPER_MTM_PNL_TRACKER"
    "PAPER_MTM_PNL_TRACKER"
  let realized := validateOptionalSource sources.realizedPnl "ledger_type"
    "PAPER_REALIZED_PNL_LEDGER" "PAPER_REALIZED_PNL_LEDGER"
  let slippage := validateOptionalSource sources.slippage "report_type"
    "PAPER_SLIPPAGE_FILL_QUALITY" "PAPER_SLIPPAGE_FILL_QUALITY"
  (dedupe (positionLedgerBlockers sources.positionLedger ++ mtm.1 ++ realized.1 ++ slippage.1),
    dedupe (mtm.2 ++ realized.2 ++ slippage.2 ++
      blockerIf (!sources.mtmPnl.isPresent) "PAPER_MTM_PNL_TRACKER_MISSING" ++
      blockerIf (!sources.realizedPnl.isPresent) "PAPER_REALIZED_PNL_LEDGER_MISSING" ++
      blockerIf (!sources.slippage.isPresent) "PAPER_SLIPPAGE_FILL_QUALITY_MISSING"))

/-! ### The blocks of a snapshot -/

/-- `_float_or_zero`. -/
def floatOrZero (value : PyValue) : PyFloat :=
  (floatOrNone value).getD (.finite 0)

def positionRows (positionLedger : Source) : List PyDict :=
  (positionLedger.asDict.get "positions").asDict.values.filterMap fun position =>
    if position.isDict then some position.asDict else none

def positionsBlock (positionLedger : Source) : Except PyError PositionsBlock := do
  let rows := positionRows positionLedger
  let openRows ← rows.filterM fun row => do
    let netQuantity ← intOrZero (row.get "net_quantity")
    pure (decide (netQuantity ≠ 0))
  let quantities ← openRows.mapM fun row => intOrZero (row.get "net_quantity")
  pure
    { positionCount := rows.length
      openPositionCount := openRows.length
      longPositionCount := (openRows.filter fun row => upperText (row.get "side") = "LONG").length
      shortPositionCount := (openRows.filter fun row => upperText (row.get "side") = "SHORT").length
      flatPositionCount := (rows.length : Int) - openRows.length
      netQuantityAbs := (quantities.map fun quantity => (quantity.natAbs : Int)).sum
      positions := rows }

def summaryOf (source : Source) : PyDict :=
  (source.asDict.get "summary").asDict

def pnlBlock (rounding : ℚ → ℚ) (mtmPnl realizedPnl : Source) : Except PyError PnlBlock := do
  let unrealized := floatOrZero ((summaryOf mtmPnl).get "total_unrealized_pnl")
  let realized := floatOrZero ((summaryOf realizedPnl).get "total_realized_pnl")
  let valuedPositionCount ← intOrZero ((summaryOf mtmPnl).get "valued_position_count")
  let missingMarkCount ← intOrZero ((summaryOf mtmPnl).get "missing_mark_count")
  let realizedEventCount ← intOrZero ((summaryOf realizedPnl).get "event_count")
  let winningEventCount ← intOrZero ((summaryOf realizedPnl).get "winning_event_count")
  let losingEventCount ← intOrZero ((summaryOf realizedPnl).get "losing_event_count")
  pure
    { totalUnrealizedPnl := unrealized
      totalRealizedPnl := realized
      combinedPnl := (unrealized + realized).roundWith rounding
      grossNotionalValue := floatOrZero ((summaryOf mtmPnl).get "gross_notional_value")
      valuedPositionCount := valuedPositionCount
      missingMarkCount := missingMarkCount
      realizedEventCount := realizedEventCount
      winningEventCount := winningEventCount
      losingEventCount := losingEventCount }

def slippageBlock (slippage : Source) : Except PyError SlippageBlock := do
  let slippageEventCount ← intOrZero ((summaryOf slippage).get "event_count")
  let measuredQuantity ← intOrZero ((summaryOf slippage).get "measured_quantity")
  let favorableEventCount ← intOrZero ((summaryOf slippage).get "favorable_event_count")
  let unfavorableEventCount ← intOrZero ((summaryOf slippage).get "unfavorable_event_count")
  let flatEventCount ← intOrZero ((summaryOf slippage).get "flat_event_count")
  pure
    { slippageEventCount := slippageEventCount
      measuredQuantity := measuredQuantity
      totalSlippageAmount := floatOrZero ((summaryOf slippage).get "total_slippage_amount")
      averageSlippagePerUnit := floatOrZero ((summaryOf slippage).get "average_slippage_per_unit")
      weightedAverageSlippageBps :=
        floatOrZero ((summaryOf slippage).get "weighted_average_slippage_bps")
      favorableEventCount := favorableEventCount
      unfavorableEventCount := unfavorableEventCount
      flatEventCount := flatEventCount }

def summary (positions : PositionsBlock) (pnl : PnlBlock) (slippage : SlippageBlock) : Summary :=
  { positionCount := positions.positionCount
    openPositionCount := positions.openPositionCount
    netQuantityAbs := positions.netQuantityAbs
    totalUnrealizedPnl := pnl.totalUnrealizedPnl
    totalRealizedPnl := pnl.totalRealizedPnl
    combinedPnl := pnl.combinedPnl
    grossNotionalValue := pnl.grossNotionalValue
    slippageEventCount := slippage.slippageEventCount
    totalSlippageAmount := slippage.totalSlippageAmount }

def isDegraded (source : Source) : Bool :=
  startsWith (upperText (source.asDict.get "status")) "DEGRADED"

def diagnostics (sources : Sources) (warnings : List String) : Diagnostics :=
  let named := [("mtm_pnl", sources.mtmPnl), ("realized_pnl", sources.realizedPnl),
    ("slippage", sources.slippage)]
  { missingSources := (named.filter fun entry => !entry.2.isPresent).map Prod.fst
    degradedSources :=
      (named.filter fun entry => entry.2.isPresent && isDegraded entry.2).map Prod.fst
    warningCount := (dedupe warnings).length
    positionSourcePresent := sources.positionLedger.isPresent }

def snapshotStatus (summary : Summary) (diagnostics : Diagnostics) :
    PaperPerformanceSnapshotStatus :=
  if summary.positionCount = 0 ∧ summary.totalRealizedPnl.eq (.finite 0) = true ∧
      summary.slippageEventCount = 0 then .empty
  else if diagnostics.missingSources ≠ [] ∨ diagnostics.degradedSources ≠ [] then .degraded
  else .ready

def sourceStatus (source : Source) (typeKey : String) : SourceStatus :=
  if source.isPresent then
    { present := true
      type := source.asDict.get typeKey
      status := source.asDict.get "status" }
  else { present := false, type := .none, status := .str "MISSING" }

def sourceStatuses (sources : Sources) : SourceStatuses :=
  { positionLedger := sourceStatus sources.positionLedger "ledger_type"
    mtmPnl := sourceStatus sources.mtmPnl "tracker_type"
    realizedPnl := sourceStatus sources.realizedPnl "ledger_type"
    slippage := sourceStatus sources.slippage "report_type" }

def evidence (sources : Sources) : Evidence :=
  { positionLedgerType := sources.positionLedger.asDict.get "ledger_type"
    mtmTrackerType := sources.mtmPnl.asDict.get "tracker_type"
    realizedLedgerType := sources.realizedPnl.asDict.get "ledger_type"
    slippageReportType := sources.slippage.asDict.get "report_type" }

def createSnapshot (rounding : ℚ → ℚ) (sources : Sources) (warnings : List String)
    (tsEpoch : Option PyFloat) : Except PyError PaperPerformanceSnapshotResult := do
  let positions ← positionsBlock sources.positionLedger
  let pnl ← pnlBlock rounding sources.mtmPnl sources.realizedPnl
  let slippage ← slippageBlock sources.slippage
  let found := diagnostics sources warnings
  let status := snapshotStatus (summary positions pnl slippage) found
  pure
    { created := true
      status := status
      snapshot := some
        { status := status
          tsEpoch := tsEpoch
          summary := summary positions pnl slippage
          positions := positions
          pnl := pnl
          slippage := slippage
          diagnostics := found
          sourceStatuses := sourceStatuses sources }
      warnings := dedupe warnings
      evidence := evidence sources }

def buildPaperPerformanceSnapshot (rounding : ℚ → ℚ) (sources : Sources)
    (tsEpoch : Option PyFloat) : Except PyError PaperPerformanceSnapshotResult :=
  let validated := validatePaperPerformanceSnapshotInputs sources
  if validated.1 ≠ [] then
    .ok
      { created := false
        status := .blocked
        blockers := validated.1
        warnings := validated.2
        evidence := evidence sources }
  else createSnapshot rounding sources validated.2 tsEpoch

end Algotradify.Paper.PerformanceSnapshot
