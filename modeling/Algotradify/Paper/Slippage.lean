/-
The paper slippage report: what the fills of each order cost against the price that was
expected of them.

The typed book behind a slippage report record, and the refinement between the two.

As for the realized ledger, an entry carries the proof that its event stores the
quantity and the amount that the report sums up.
-/

import Algotradify.Paper.RealizedPnl

namespace Algotradify.Paper.Slippage

open Py PositionLedger RealizedPnl

variable {cumulative : Int} {result : PaperSlippageResult}

inductive PaperSlippageStatus where
  | measured
  | noFill
  | noSlippageChange
  | blocked
deriving DecidableEq, Repr

structure PaperSlippageResult where
  measured : Bool
  status : PaperSlippageStatus
  report : PyDict
  event : Option PyDict := none
  measuredQuantity : Int := 0
  slippagePerUnit : PyFloat := .finite 0
  slippageAmount : PyFloat := .finite 0
  slippageBps : Option PyFloat := none
  blockers : List String := []
  warnings : List String := []
  evidence : PyDict := []
deriving Repr

/-! ### Report records -/

def eventAmount (event : PyDict) : PyFloat :=
  floatOrZero (event.get "slippage_amount")

/-- `_weighted_average_bps`, of the events with their measured quantities. -/
def weightedAverageBps (rounding : ℚ → ℚ) (measured : List (PyDict × Int)) (total : Int) : PyFloat :=
  if total = 0 then .finite 0
  else
    let numerator := measured.foldl
      (fun sum entry =>
        match floatOrNone (PyDict.get entry.1 "slippage_bps") with
        | some bps => sum + bps * PyFloat.ofInt entry.2
        | none => sum)
      (.finite 0)
    (numerator / .ofInt total).roundWith rounding

/-- `_summary` of the events, once their quantities are read. -/
def summaryOf (rounding : ℚ → ℚ) (events : List PyDict) (quantities : List Int) : PyDict :=
  let measuredQuantity := quantities.sum
  let amounts := events.map eventAmount
  let totalAmount := (RealizedPnl.sumFloats amounts).roundWith rounding
  [("event_count", .int events.length),
    ("measured_quantity", .int measuredQuantity),
    ("total_slippage_amount", roundedSum rounding amounts),
    ("average_slippage_per_unit", .float
      (if measuredQuantity = 0 then .finite 0
        else (totalAmount / .ofInt measuredQuantity).roundWith rounding)),
    ("weighted_average_slippage_bps",
      .float (weightedAverageBps rounding (events.zip quantities) measuredQuantity)),
    ("favorable_event_count", .int (amounts.filter (PyFloat.lt · (.finite 0))).length),
    ("unfavorable_event_count", .int (amounts.filter (PyFloat.lt (.finite 0))).length),
    ("flat_event_count", .int (amounts.filter (PyFloat.eq · (.finite 0))).length)] ++ safeFlags

def buildReport (rounding : ℚ → ℚ) (events : List PyDict) (appliedFillKeys : List PyValue)
    (orderFills : PyDict) : Except PyError PyDict := do
  let quantities ← events.mapM fun event => intOrZero (event.get "measured_quantity")
  pure ([("schema_version", .str "1.0"),
    ("report_type", .str "PAPER_SLIPPAGE_FILL_QUALITY"),
    ("events", .list (events.map PyValue.dict)),
    ("applied_fill_keys", .list appliedFillKeys),
    ("order_fills", .dict orderFills),
    ("summary", .dict (summaryOf rounding events quantities))] ++ safeFlags)

def safeReport (rounding : ℚ → ℚ) (previousReport : PyValue) : Except PyError PyDict :=
  if previousReport.isDict &&
      (previousReport.asDict.get "report_type").isStr "PAPER_SLIPPAGE_FILL_QUALITY" then
    .ok previousReport.asDict
  else buildReport rounding [] [] []

/-- `_append_fill_key` and `_append_slippage_event`: the events of the report with the new
ones, the key once, and the order at its cumulative quantity. -/
def appendToReport (rounding : ℚ → ℚ) (report : PyDict) (newEvents : List PyDict)
    (fillKey paperOrderId : String) (cumulativeFilledQuantity : Int) : Except PyError PyDict := do
  let items ← listOrEmpty (report.get "events")
  let events ← items.mapM toDict
  let keys ← listOrEmpty (report.get "applied_fill_keys")
  let orderFills ← toDict ((report.get "order_fills").or (.dict []))
  buildReport rounding (events ++ newEvents)
    (if isStrIn keys fillKey then keys else keys ++ [.str fillKey])
    (orderFills.set paperOrderId (.int cumulativeFilledQuantity))

def appendReportFillKey (rounding : ℚ → ℚ) (report : PyDict) (fillKey paperOrderId : String)
    (cumulativeFilledQuantity : Int) : Except PyError PyDict :=
  appendToReport rounding report [] fillKey paperOrderId cumulativeFilledQuantity

def appendSlippageEvent (rounding : ℚ → ℚ) (report slippageEvent : PyDict)
    (fillKey paperOrderId : String) (cumulativeFilledQuantity : Int) : Except PyError PyDict :=
  appendToReport rounding report [slippageEvent] fillKey paperOrderId cumulativeFilledQuantity

/-! ### One measurement -/

def slippagePerUnit (rounding : ℚ → ℚ) (transactionType : String)
    (expectedPrice fillPrice : PyFloat) : PyFloat :=
  if transactionType = "BUY" then (fillPrice - expectedPrice).roundWith rounding
  else if transactionType = "SELL" then (expectedPrice - fillPrice).roundWith rounding
  else .finite 0

def quality (slippageAmount : PyFloat) : String :=
  if (PyFloat.finite 0).lt slippageAmount then "UNFAVORABLE"
  else if slippageAmount.lt (.finite 0) then "FAVORABLE"
  else "FLAT"

/-- `_resolved_expected_price`: the explicit price, or the first price of the intent. -/
def resolvedExpectedPrice (intent : PyDict) (expectedPrice : PyValue) : Option PyFloat :=
  match floatOrNone expectedPrice with
  | some price => some price
  | none =>
      ["expected_price", "reference_price", "price", "entry_price", "entry"].findSome?
        fun key => floatOrNone (intent.get key)

def slippageEvent (digest : String → String) (intent lifecycleEvent : PyDict) (fillKey : String)
    (expectedPrice fillPrice : PyFloat) (measuredQuantity : Int)
    (slippagePerUnit slippageAmount : PyFloat) (slippageBps tsEpoch : Option PyFloat) : PyDict :=
  let seed := String.intercalate "|"
    [fillKey, printFloat expectedPrice, printFloat fillPrice, printInt measuredQuantity]
  [("schema_version", .str "1.0"),
    ("event_type", .str "PAPER_SLIPPAGE_FILL_QUALITY_EVENT"),
    ("slippage_event_id", .str ("paper-slippage-" ++ digest seed)),
    ("fill_key", .str fillKey),
    ("paper_order_id", lifecycleEvent.get "paper_order_id"),
    ("paper_order_intent_id", lifecycleEvent.get "paper_order_intent_id"),
    ("candidate_id", lifecycleEvent.get "candidate_id"),
    ("symbol", intent.get "symbol"),
    ("tradingsymbol", intent.get "tradingsymbol"),
    ("instrument_token", intent.get "instrument_token"),
    ("strategy", intent.get "strategy"),
    ("transaction_type", intent.get "transaction_type"),
    ("expected_price", .float expectedPrice),
    ("fill_price", .float fillPrice),
    ("measured_quantity", .int measuredQuantity),
    ("slippage_per_unit", .float slippagePerUnit),
    ("slippage_amount", .float slippageAmount),
    ("slippage_bps", ofOptionFloat slippageBps),
    ("slippage_quality", .str (quality slippageAmount)),
    ("ts_epoch", ofOptionFloat tsEpoch)] ++ safeFlags

/-! ### Validation -/

def reportBlockers (report : PyDict) : List String :=
  blockerIf (!(report.get "report_type").isStr "PAPER_SLIPPAGE_FILL_QUALITY")
      "PAPER_SLIPPAGE_REPORT_TYPE_REQUIRED" ++
    validateSafeFlags report "PAPER_SLIPPAGE_REPORT" ++
    blockerIf (!(report.get "events").isList) "PAPER_SLIPPAGE_EVENTS_INVALID" ++
    blockerIf (!(report.get "applied_fill_keys").isList) "PAPER_SLIPPAGE_APPLIED_KEYS_INVALID" ++
    blockerIf (!(report.get "order_fills").isDict) "PAPER_SLIPPAGE_ORDER_FILLS_INVALID"

def validatePaperSlippageInputs (intent lifecycleEvent expectedPrice previousReport : PyValue) :
    Except PyError (List String × List String) := do
  let ofEvent ← lifecycleEventBlockers lifecycleEvent.asDict
  let report := previousReport.asDict
  let ofReport := if report.isEmpty then [] else reportBlockers report
  let warnings := blockerIf (report.isEmpty && previousReport.isNone)
    "PAPER_SLIPPAGE_REPORT_STARTING_EMPTY"
  pure (dedupe (realizedIntentBlockers intent.asDict ++ ofEvent ++
    mismatchBlockers intent.asDict lifecycleEvent.asDict ++
    blockerIf (resolvedExpectedPrice intent.asDict expectedPrice).isNone
      "CONTROLLED_EXPECTED_PRICE_REQUIRED" ++ ofReport), dedupe warnings)

def slippageEvidence (intent lifecycleEvent expectedPrice previousReport : PyValue) : PyDict :=
  [("paper_order_intent_id", intent.asDict.get "paper_order_intent_id"),
    ("paper_order_id", lifecycleEvent.asDict.get "paper_order_id"),
    ("candidate_id", intent.asDict.get "candidate_id"),
    ("event_status", lifecycleEvent.asDict.get "status"),
    ("event_filled_quantity", lifecycleEvent.asDict.get "filled_quantity"),
    ("expected_price", ofOptionFloat (resolvedExpectedPrice intent.asDict expectedPrice)),
    ("previous_slippage_event_count", listCount (previousReport.asDict.get "events")),
    ("fill_quality_evidence_only", .bool true)] ++ safeFlags

/-! ### The report update -/

/-- The update for a fill with a new key that adds a positive quantity to its order. -/
def measureFill (rounding : ℚ → ℚ) (digest : String → String) (intent event safeReport : PyDict)
    (expectedPrice : PyValue) (tsEpoch : Option PyFloat) (fillKey : String)
    (cumulative measuredQuantity : Int) (warnings : List String) (evidence : PyDict) :
    Except PyError PaperSlippageResult :=
  match resolvedExpectedPrice intent expectedPrice, floatOrNone (event.get "average_fill_price") with
  | some expected, some fillPrice => do
      let perUnit := slippagePerUnit rounding (upperText (intent.get "transaction_type")) expected
        fillPrice
      let amount := (perUnit * .ofInt measuredQuantity).roundWith rounding
      let bps := if expected.truthy then
        some ((perUnit / expected * .ofInt 10000).roundWith rounding) else none
      let slippage := slippageEvent digest intent event fillKey expected fillPrice measuredQuantity
        perUnit amount bps (tsEpoch.orElse fun _ => floatOrNone (event.get "ts_epoch"))
      let report ← appendSlippageEvent rounding safeReport slippage fillKey
        (printValue (event.get "paper_order_id")) cumulative
      pure
        { measured := true
          status := .measured
          report := report
          event := some slippage
          measuredQuantity := measuredQuantity
          slippagePerUnit := perUnit
          slippageAmount := amount
          slippageBps := bps
          warnings := warnings
          evidence := evidence }
  | _, _ =>
      pure
        { measured := false
          status := .blocked
          report := safeReport
          blockers := ["SLIPPAGE_PRICE_INPUT_REQUIRED"]
          warnings := warnings
          evidence := evidence }

def reportFill (rounding : ℚ → ℚ) (digest : String → String) (intent event safeReport : PyDict)
    (expectedPrice : PyValue) (tsEpoch : Option PyFloat) (cumulative previousFilled : Int)
    (warnings : List String) (evidence : PyDict) : Except PyError PaperSlippageResult := do
  let paperOrderId := printValue (event.get "paper_order_id")
  let key := fillKey paperOrderId cumulative
  let keyed := evidence.set "fill_key" (.str key)
  let counted := keyed.set "previous_order_filled_quantity" (.int previousFilled)
  let appliedKeys ← listOrEmpty (safeReport.get "applied_fill_keys")
  if appliedKeys.any (fun item => item.isList || item.isDict) then
    .error (.typeError "unhashable type")
  else if isStrIn appliedKeys key then
    pure
      { measured := false
        status := .noSlippageChange
        report := safeReport
        warnings := dedupe (warnings ++ ["DUPLICATE_SLIPPAGE_FILL_KEY"])
        evidence := keyed }
  else if cumulative - previousFilled ≤ 0 then
    let report ← appendReportFillKey rounding safeReport key paperOrderId cumulative
    pure
      { measured := false
        status := .noSlippageChange
        report := report
        warnings := dedupe (warnings ++ ["DUPLICATE_OR_ALREADY_APPLIED_FILL_EVENT"])
        evidence := counted }
  else
    measureFill rounding digest intent event safeReport expectedPrice tsEpoch key cumulative
      (cumulative - previousFilled) warnings counted

def buildPaperSlippageReport (rounding : ℚ → ℚ) (digest : String → String)
    (intent lifecycleEvent expectedPrice previousReport : PyValue) (tsEpoch : Option PyFloat) :
    Except PyError PaperSlippageResult := do
  let (blockers, warnings) ← validatePaperSlippageInputs intent lifecycleEvent expectedPrice
    previousReport
  let safeReport ← safeReport rounding previousReport
  let evidence := slippageEvidence intent lifecycleEvent expectedPrice previousReport
  let event := lifecycleEvent.asDict
  if blockers ≠ [] then
    pure
      { measured := false
        status := .blocked
        report := safeReport
        blockers := blockers
        warnings := warnings
        evidence := evidence }
  else if upperText (event.get "status") ∉ fillEventStatuses then
    pure
      { measured := false
        status := .noFill
        report := safeReport
        warnings := dedupe (warnings ++ ["NON_FILL_LIFECYCLE_EVENT_IGNORED"])
        evidence := evidence }
  else
    let cumulative ← intOrZero (event.get "filled_quantity")
    let previousFilled ← previousOrderFillQuantity safeReport (printValue (event.get "paper_order_id"))
    if cumulative < previousFilled then
      pure
        { measured := false
          status := .blocked
          report := safeReport
          blockers := ["PAPER_FILL_CUMULATIVE_REGRESSION"]
          warnings := warnings
          evidence := evidence.set "previous_order_filled_quantity" (.int previousFilled) }
    else
      reportFill rounding digest intent.asDict event safeReport expectedPrice tsEpoch cumulative
        previousFilled warnings evidence

/-! ### The book -/

structure SlippageEntry where
  event : PyDict
  quantity : Int
  amount : PyFloat
  storesQuantity : event.get "measured_quantity" = .int quantity
  storesAmount : event.get "slippage_amount" = .float amount

structure SlippageBook where
  entries : List SlippageEntry := []
  fillKeys : List String := []
  orderFills : List (String × Int) := []

namespace SlippageBook

def fillEntries (book : SlippageBook) : PyDict :=
  Assoc.mapValues PyValue.int book.orderFills

def amounts (book : SlippageBook) : List PyFloat :=
  book.entries.map SlippageEntry.amount

def toDict (rounding : ℚ → ℚ) (book : SlippageBook) : PyDict :=
  [("schema_version", .str "1.0"),
    ("report_type", .str "PAPER_SLIPPAGE_FILL_QUALITY"),
    ("events", .list (book.entries.map fun entry => .dict entry.event)),
    ("applied_fill_keys", .list (book.fillKeys.map PyValue.str)),
    ("order_fills", .dict book.fillEntries),
    ("summary", .dict (summaryOf rounding (book.entries.map SlippageEntry.event)
      (book.entries.map SlippageEntry.quantity)))] ++ safeFlags

def filled (book : SlippageBook) (paperOrderId : String) : Int :=
  (book.orderFills.lookup paperOrderId).getD 0

def record (orderId : String) (cumulative : Int) (added : List SlippageEntry)
    (book : SlippageBook) : SlippageBook :=
  { entries := book.entries ++ added
    fillKeys := if fillKey orderId cumulative ∈ book.fillKeys then book.fillKeys
      else book.fillKeys ++ [fillKey orderId cumulative]
    orderFills := Assoc.set book.orderFills orderId cumulative }

theorem filled_record (orderId other : String) (cumulative : Int) (added : List SlippageEntry)
    (book : SlippageBook) :
    (book.record orderId cumulative added).filled other =
      if other = orderId then cumulative else book.filled other := by
  unfold filled record
  rw [Assoc.lookup_set]
  split
  · rfl
  · rfl

theorem mem_fillKeys_record {orderId key : String} {added : List SlippageEntry}
    {book : SlippageBook} :
    key ∈ (book.record orderId cumulative added).fillKeys ↔
      key = fillKey orderId cumulative ∨ key ∈ book.fillKeys := by
  unfold record
  dsimp only
  split
  · rename_i listed
    constructor
    · exact .inr
    · rintro (rfl | stored)
      · exact listed
      · exact stored
  · rw [List.mem_append, List.mem_singleton, or_comm]

theorem empty_toDict (rounding : ℚ → ℚ) :
    buildReport rounding [] [] [] = .ok (({} : SlippageBook).toDict rounding) := rfl

theorem previousOrderFillQuantity_toDict (rounding : ℚ → ℚ) (book : SlippageBook)
    (orderId : String) :
    previousOrderFillQuantity (book.toDict rounding) orderId = .ok (book.filled orderId) := by
  have stored : PyDict.get (book.toDict rounding) "order_fills" = .dict book.fillEntries := rfl
  unfold previousOrderFillQuantity
  rw [stored, PyValue.asDict_dict, if_pos (PyValue.isDict_dict _), filled]
  simp only [PyDict.get, fillEntries, Assoc.lookup_mapValues]
  cases book.orderFills.lookup orderId with
  | none => rfl
  | some quantity => rfl

private theorem mapM_measuredQuantity (entries : List SlippageEntry) :
    (entries.map SlippageEntry.event).mapM (fun event => intOrZero (event.get "measured_quantity")) =
      Except.ok (entries.map SlippageEntry.quantity) := by
  rw [List.mapM_map]
  apply mapM_eq_ok_map
  intro entry _
  change intOrZero (PyDict.get entry.event "measured_quantity") = .ok entry.quantity
  rw [entry.storesQuantity, intOrZero_int]

theorem buildReport_toDict (rounding : ℚ → ℚ) (book : SlippageBook) :
    buildReport rounding (book.entries.map SlippageEntry.event) (book.fillKeys.map PyValue.str)
      book.fillEntries = .ok (book.toDict rounding) := by
  unfold buildReport
  rw [mapM_measuredQuantity]
  simp only [bind, Except.bind, pure, Except.pure, toDict, List.map_map, Function.comp_def]

theorem appendToReport_toDict (rounding : ℚ → ℚ) (book : SlippageBook)
    (added : List SlippageEntry) (orderId : String) (cumulative : Int) :
    appendToReport rounding (book.toDict rounding) (added.map SlippageEntry.event)
      (fillKey orderId cumulative) orderId cumulative =
        .ok ((book.record orderId cumulative added).toDict rounding) := by
  have storedEvents : PyDict.get (book.toDict rounding) "events" =
      .list (book.entries.map fun entry => .dict entry.event) := rfl
  have storedKeys : PyDict.get (book.toDict rounding) "applied_fill_keys" =
      .list (book.fillKeys.map PyValue.str) := rfl
  have storedFills : PyDict.get (book.toDict rounding) "order_fills" = .dict book.fillEntries := rfl
  have keys : (if isStrIn (book.fillKeys.map PyValue.str) (fillKey orderId cumulative) then
        book.fillKeys.map PyValue.str
      else book.fillKeys.map PyValue.str ++ [.str (fillKey orderId cumulative)]) =
      (book.record orderId cumulative added).fillKeys.map PyValue.str := by
    rw [RealizedBook.isStrIn_map_str, record]
    by_cases listed : fillKey orderId cumulative ∈ book.fillKeys
    · rw [if_pos (decide_eq_true listed), if_pos listed]
    · rw [if_neg (by rw [decide_eq_true_eq]; exact listed), if_neg listed, List.map_append,
        List.map_singleton]
  unfold appendToReport
  rw [storedEvents, storedKeys, storedFills, RealizedBook.listOrEmpty_list,
    RealizedBook.listOrEmpty_list, Book.toDict_or_empty]
  simp only [bind, Except.bind, RealizedBook.mapM_toDict]
  rw [keys, ← List.map_append]
  have fills : book.fillEntries.set orderId (.int cumulative) =
      (book.record orderId cumulative added).fillEntries := by
    unfold fillEntries record PyDict.set
    rw [Assoc.mapValues_set]
  rw [fills]
  exact buildReport_toDict rounding (book.record orderId cumulative added)

end SlippageBook

/-! ### One update -/

section Update

variable {rounding : ℚ → ℚ} {digest : String → String}
variable {intent lifecycleEvent expectedPrice previousReport : PyValue} {tsEpoch : Option PyFloat}
variable {book : SlippageBook}

def orderOf (lifecycleEvent : PyValue) : String :=
  printValue (lifecycleEvent.asDict.get "paper_order_id")

structure FillPrices (intent lifecycleEvent expectedPrice : PyValue) (expected price : PyFloat) :
    Prop where
  expected : resolvedExpectedPrice intent.asDict expectedPrice = some expected
  filled : floatOrNone (lifecycleEvent.asDict.get "average_fill_price") = some price

/-- What an update that is not blocked does to the record of a book. -/
inductive ReportOutcome (rounding : ℚ → ℚ) (intent lifecycleEvent expectedPrice : PyValue)
    (book : SlippageBook) (result : PaperSlippageResult) : Prop where
  | notFill (ignored : upperText (lifecycleEvent.asDict.get "status") ∉ fillEventStatuses)
      (quantity : result.measuredQuantity = 0) (report : result.report = book.toDict rounding)
  | repeatedKey (cumulative : Int)
      (isFill : upperText (lifecycleEvent.asDict.get "status") ∈ fillEventStatuses)
      (read : intOrZero (lifecycleEvent.asDict.get "filled_quantity") = .ok cumulative)
      (reached : book.filled (orderOf lifecycleEvent) ≤ cumulative)
      (listed : fillKey (orderOf lifecycleEvent) cumulative ∈ book.fillKeys)
      (quantity : result.measuredQuantity = 0) (report : result.report = book.toDict rounding)
  | stale (cumulative : Int)
      (isFill : upperText (lifecycleEvent.asDict.get "status") ∈ fillEventStatuses)
      (read : intOrZero (lifecycleEvent.asDict.get "filled_quantity") = .ok cumulative)
      (reached : book.filled (orderOf lifecycleEvent) = cumulative)
      (unlisted : fillKey (orderOf lifecycleEvent) cumulative ∉ book.fillKeys)
      (quantity : result.measuredQuantity = 0)
      (report : result.report = (book.record (orderOf lifecycleEvent) cumulative []).toDict rounding)
  | measured (cumulative : Int) (expected price : PyFloat) (entry : SlippageEntry)
      (isFill : upperText (lifecycleEvent.asDict.get "status") ∈ fillEventStatuses)
      (read : intOrZero (lifecycleEvent.asDict.get "filled_quantity") = .ok cumulative)
      (fresh : book.filled (orderOf lifecycleEvent) < cumulative)
      (prices : FillPrices intent lifecycleEvent expectedPrice expected price)
      (entryQuantity : entry.quantity = cumulative - book.filled (orderOf lifecycleEvent))
      (entryAmount : entry.amount =
        (slippagePerUnit rounding (upperText (intent.asDict.get "transaction_type")) expected price *
          .ofInt entry.quantity).roundWith rounding)
      (quantity : result.measuredQuantity = entry.quantity)
      (report : result.report =
        (book.record (orderOf lifecycleEvent) cumulative [entry]).toDict rounding)

def slippageEntry (digest : String → String) (intent lifecycleEvent : PyDict) (key : String)
    (expected price : PyFloat) (measuredQuantity : Int) (perUnit amount : PyFloat)
    (bps tsEpoch : Option PyFloat) : SlippageEntry :=
  { event := slippageEvent digest intent lifecycleEvent key expected price measuredQuantity perUnit
      amount bps tsEpoch
    quantity := measuredQuantity
    amount := amount
    storesQuantity := rfl
    storesAmount := rfl }

private theorem measureFill_outcome {warnings : List String} {evidence : PyDict}
    (isFill : upperText (lifecycleEvent.asDict.get "status") ∈ fillEventStatuses)
    (read : intOrZero (lifecycleEvent.asDict.get "filled_quantity") = .ok cumulative)
    (fresh : book.filled (orderOf lifecycleEvent) < cumulative)
    (built : measureFill rounding digest intent.asDict lifecycleEvent.asDict (book.toDict rounding)
      expectedPrice tsEpoch (fillKey (orderOf lifecycleEvent) cumulative) cumulative
      (cumulative - book.filled (orderOf lifecycleEvent)) warnings evidence = .ok result)
    (accepted : result.status ≠ .blocked) :
    ReportOutcome rounding intent lifecycleEvent expectedPrice book result := by
  unfold measureFill at built
  split at built
  · rename_i expected price expectedEq priceEq
    obtain ⟨report, appended, built⟩ := bind_eq_ok.mp built
    cases built
    have stored := SlippageBook.appendToReport_toDict rounding book
      [slippageEntry digest intent.asDict lifecycleEvent.asDict
        (fillKey (orderOf lifecycleEvent) cumulative) expected price
        (cumulative - book.filled (orderOf lifecycleEvent))
        (slippagePerUnit rounding (upperText (intent.asDict.get "transaction_type")) expected price)
        ((slippagePerUnit rounding (upperText (intent.asDict.get "transaction_type")) expected price *
          .ofInt (cumulative - book.filled (orderOf lifecycleEvent))).roundWith rounding)
        (if expected.truthy then
          some ((slippagePerUnit rounding (upperText (intent.asDict.get "transaction_type")) expected
            price / expected * .ofInt 10000).roundWith rounding) else none)
        (tsEpoch.orElse fun _ => floatOrNone (lifecycleEvent.asDict.get "ts_epoch"))]
      (orderOf lifecycleEvent) cumulative
    exact .measured cumulative expected price _ isFill read fresh ⟨expectedEq, priceEq⟩ rfl rfl rfl
      (Except.ok.inj (appended.symm.trans stored))
  · cases built
    exact absurd rfl accepted

private theorem reportFill_outcome {warnings : List String} {evidence : PyDict}
    (isFill : upperText (lifecycleEvent.asDict.get "status") ∈ fillEventStatuses)
    (read : intOrZero (lifecycleEvent.asDict.get "filled_quantity") = .ok cumulative)
    (reached : book.filled (orderOf lifecycleEvent) ≤ cumulative)
    (built : reportFill rounding digest intent.asDict lifecycleEvent.asDict (book.toDict rounding)
      expectedPrice tsEpoch cumulative (book.filled (orderOf lifecycleEvent)) warnings evidence =
        .ok result) (accepted : result.status ≠ .blocked) :
    ReportOutcome rounding intent lifecycleEvent expectedPrice book result := by
  have storedKeys : PyDict.get (book.toDict rounding) "applied_fill_keys" =
      .list (book.fillKeys.map PyValue.str) := rfl
  have hashable : (book.fillKeys.map PyValue.str).any (fun item => item.isList || item.isDict) =
      false := RealizedBook.keys_hashable { fillKeys := book.fillKeys }
  unfold reportFill at built
  rw [storedKeys, RealizedBook.listOrEmpty_list] at built
  obtain ⟨keys, keysEq, built⟩ := bind_eq_ok.mp built
  cases keysEq
  rw [hashable, if_neg Bool.false_ne_true, RealizedBook.isStrIn_map_str] at built
  change (if decide (fillKey (orderOf lifecycleEvent) cumulative ∈ book.fillKeys) = true then _
    else _) = _ at built
  by_cases listed : fillKey (orderOf lifecycleEvent) cumulative ∈ book.fillKeys
  · rw [if_pos (decide_eq_true listed)] at built
    cases built
    exact .repeatedKey cumulative isFill read reached listed rfl rfl
  rw [if_neg (by rw [decide_eq_true_eq]; exact listed)] at built
  by_cases covered : cumulative - book.filled (orderOf lifecycleEvent) ≤ 0
  · rw [if_pos covered] at built
    obtain ⟨report, appended, built⟩ := bind_eq_ok.mp built
    cases built
    have stored := SlippageBook.appendToReport_toDict rounding book [] (orderOf lifecycleEvent)
      cumulative
    exact .stale cumulative isFill read (by omega) listed rfl
      (Except.ok.inj (appended.symm.trans stored))
  · rw [if_neg covered] at built
    exact measureFill_outcome isFill read (by omega) built accepted

theorem buildPaperSlippageReport_outcome
    (represents : safeReport rounding previousReport = .ok (book.toDict rounding))
    (built : buildPaperSlippageReport rounding digest intent lifecycleEvent expectedPrice
      previousReport tsEpoch = .ok result) (accepted : result.status ≠ .blocked) :
    ReportOutcome rounding intent lifecycleEvent expectedPrice book result := by
  unfold buildPaperSlippageReport at built
  rw [represents] at built
  obtain ⟨⟨blockers, warnings⟩, _validated, built⟩ := bind_eq_ok.mp built
  obtain ⟨report, reportEq, built⟩ := bind_eq_ok.mp built
  cases reportEq
  dsimp only at built
  by_cases blocked : blockers ≠ []
  · rw [if_pos blocked] at built
    cases built
    exact absurd rfl accepted
  rw [if_neg blocked] at built
  by_cases ignored : upperText (lifecycleEvent.asDict.get "status") ∉ fillEventStatuses
  · rw [if_pos ignored] at built
    cases built
    exact .notFill ignored rfl rfl
  rw [if_neg ignored] at built
  obtain ⟨cumulative, read, built⟩ := bind_eq_ok.mp built
  rw [SlippageBook.previousOrderFillQuantity_toDict] at built
  change (if cumulative < book.filled (orderOf lifecycleEvent) then _ else _) = _ at built
  by_cases regressed : cumulative < book.filled (orderOf lifecycleEvent)
  · rw [if_pos regressed] at built
    cases built
    exact absurd rfl accepted
  · rw [if_neg regressed] at built
    exact reportFill_outcome (not_not.mp ignored) read (not_lt.mp regressed) built accepted

end Update

end Algotradify.Paper.Slippage
