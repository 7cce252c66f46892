/-
The slippage report and the position ledger over the same fills.

Both keep a cumulative quantity for each order and derive what a fill adds on their
own. Fed with the same inputs they stand at the same quantities, so the report charges
what the counters of the ledger have moved.
-/

import Algotradify.Accounting.Metering
import Algotradify.Paper.PnlIdentity
import Algotradify.Paper.Slippage

namespace Algotradify.Paper.Slippage

open Py PositionLedger RealizedPnl Transition Accounting

structure SlippageInput where
  intent : PyValue
  lifecycleEvent : PyValue
  expectedPrice : PyValue := .none
  tsEpoch : Option PyFloat := none

structure BothResults where
  input : SlippageInput
  applied : PaperPositionLedgerResult
  reported : PaperSlippageResult

structure BothRecords where
  ledger : PyValue
  report : PyValue

structure BothStep (rounding : ℚ → ℚ) (digest : String → String) (before : BothRecords)
    (entry : BothResults) (after : BothRecords) : Prop where
  applied : buildPaperPositionLedger rounding digest entry.input.intent entry.input.lifecycleEvent
    before.ledger entry.input.tsEpoch = .ok entry.applied
  reported : buildPaperSlippageReport rounding digest entry.input.intent entry.input.lifecycleEvent
    entry.input.expectedPrice before.report entry.input.tsEpoch = .ok entry.reported
  ledgerAccepts : entry.applied.status ≠ .blocked
  reportAccepts : entry.reported.status ≠ .blocked
  ledgerEq : after.ledger = .dict entry.applied.ledger
  reportEq : after.report = .dict entry.reported.report

namespace SlippageInput

def orderId (input : SlippageInput) : String :=
  orderOf input.lifecycleEvent

def IsFill (input : SlippageInput) : Prop :=
  upperText (input.lifecycleEvent.asDict.get "status") ∈ positionFillStatuses

instance (input : SlippageInput) : Decidable input.IsFill :=
  inferInstanceAs (Decidable (_ ∈ _))

def level (input : SlippageInput) : Int :=
  (intOrZero (input.lifecycleEvent.asDict.get "filled_quantity")).toOption.getD 0

def sideSign (input : SlippageInput) : Int :=
  if upperText (input.intent.asDict.get "transaction_type") = "BUY" then 1 else -1

def fillPrice (input : SlippageInput) : Option PyFloat :=
  floatOrNone (input.lifecycleEvent.asDict.get "average_fill_price")

def expected (input : SlippageInput) : Option PyFloat :=
  resolvedExpectedPrice input.intent.asDict input.expectedPrice

def priceGap (input : SlippageInput) : ℚ :=
  match input.fillPrice, input.expected with
  | some (.finite price), some (.finite expected) => price - expected
  | _, _ => 0

def Priced (input : SlippageInput) : Prop :=
  input.IsFill → ∃ price expected, input.fillPrice = some (.finite price) ∧
    input.expected = some (.finite expected)

/-- Where a fill says that its order stands, at what the unit costs. -/
def fillReading (input : SlippageInput) : Reading String ℚ :=
  { key := input.orderId
    level := input.level
    unit := input.sideSign * input.priceGap }

def reading (input : SlippageInput) : Option (Reading String ℚ) :=
  if input.IsFill then some input.fillReading else none

end SlippageInput

/-! ### One step of both -/

/-- The two books agree on every order, and the keys of the report name quantities that
the ledger has reached. -/
structure Together (ledger : Book) (report : SlippageBook) : Prop where
  sameFills : ∀ orderId, report.filled orderId = ledger.filled orderId
  keysApplied : ∀ key ∈ report.fillKeys, ∃ orderId cumulative,
    key = fillKey orderId cumulative ∧ cumulative ≤ ledger.filled orderId
  currentKey : ∀ orderId, ledger.filled orderId ≠ 0 →
    fillKey orderId (ledger.filled orderId) ∈ report.fillKeys

structure RecordsOf (rounding : ℚ → ℚ) (records : BothRecords) (ledger : Book)
    (report : SlippageBook) : Prop where
  ledgerEq : Represents records.ledger ledger
  reportEq : records.report = .dict (report.toDict rounding) ∨
    (records.report = .none ∧ report = {})

inductive PairStep (rounding : ℚ → ℚ) (entry : BothResults) (ledger : Book) (report : SlippageBook) :
    Book → SlippageBook → Prop where
  | ignored (notFill : ¬entry.input.IsFill) (measured : entry.reported.measuredQuantity = 0)
      (moved : entry.applied.signedDeltaQuantity = 0) :
      PairStep rounding entry ledger report ledger report
  | standing (isFill : entry.input.IsFill)
      (same : entry.input.level = ledger.filled entry.input.orderId)
      (measured : entry.reported.measuredQuantity = 0)
      (moved : entry.applied.signedDeltaQuantity = 0) :
      PairStep rounding entry ledger report ledger report
  | listed (isFill : entry.input.IsFill) (unfilled : ledger.filled entry.input.orderId = 0)
      (none : entry.input.level = 0) (measured : entry.reported.measuredQuantity = 0)
      (moved : entry.applied.signedDeltaQuantity = 0) :
      PairStep rounding entry ledger report ledger (report.record entry.input.orderId 0 [])
  | advanced (digest : String → String) (expected price : PyFloat) (slippage : SlippageEntry)
      (isFill : entry.input.IsFill)
      (side : upperText (entry.input.intent.asDict.get "transaction_type") ∈ ["BUY", "SELL"])
      (fresh : ledger.filled entry.input.orderId < entry.input.level)
      (expectedEq : entry.input.expected = some expected)
      (priceEq : entry.input.fillPrice = some price)
      (quantity : slippage.quantity = entry.input.level - ledger.filled entry.input.orderId)
      (amount : slippage.amount = (slippagePerUnit rounding
        (upperText (entry.input.intent.asDict.get "transaction_type")) expected price *
          .ofInt slippage.quantity).roundWith rounding)
      (measured : entry.reported.measuredQuantity = slippage.quantity)
      (moved : entry.applied.signedDeltaQuantity =
        Book.signed entry.input.intent.asDict slippage.quantity) :
      PairStep rounding entry ledger report
        (ledger.record rounding digest entry.input.intent.asDict entry.input.lifecycleEvent.asDict
          entry.input.tsEpoch entry.input.level)
        (report.record entry.input.orderId entry.input.level [slippage])

theorem validated_side {intent lifecycleEvent previousLedger : PyValue} {warnings : List String}
    (validated : validatePaperPositionLedgerInputs intent lifecycleEvent previousLedger =
      .ok ([], warnings)) : upperText (intent.asDict.get "transaction_type") ∈ ["BUY", "SELL"] := by
  have given := List.isEmpty_iff.not.mpr (validated_intent validated)
  unfold validatePaperPositionLedgerInputs intentBlockers at validated
  rw [if_neg given] at validated
  obtain ⟨ofIntent, read, validated⟩ := bind_eq_ok.mp validated
  obtain ⟨quantity, _quantityRead, read⟩ := bind_eq_ok.mp read
  obtain ⟨ofEvent, _eventRead, validated⟩ := bind_eq_ok.mp validated
  cases read
  have clear := congrArg Prod.fst (Except.ok.inj validated)
  simp only [dedupe_append_eq_nil] at clear
  have ofSide := clear.1.1.1.2
  rw [dedupe_blockerIf_eq_nil _ (by decide), Bool.not_eq_false'] at ofSide
  exact List.contains_iff_mem.mp ofSide

theorem signedDelta_of_unapplied {rounding : ℚ → ℚ} {digest : String → String}
    {intent lifecycleEvent ledger : PyValue} {tsEpoch : Option PyFloat}
    {applied : PaperPositionLedgerResult}
    (built : buildPaperPositionLedger rounding digest intent lifecycleEvent ledger tsEpoch =
      .ok applied) (unapplied : applied.updated = false) : applied.signedDeltaQuantity = 0 := by
  unfold buildPaperPositionLedger at built
  obtain ⟨⟨blockers, warnings⟩, _validated, built⟩ := bind_eq_ok.mp built
  dsimp only at built
  split at built
  · cases built
    rfl
  split at built
  · cases built
    rfl
  obtain ⟨cumulative, _read, built⟩ := bind_eq_ok.mp built
  obtain ⟨previousFilled, _readPrevious, built⟩ := bind_eq_ok.mp built
  split at built
  · cases built
    rfl
  split at built
  · cases built
    rfl
  unfold applyFill at built
  obtain ⟨_positions, _positionsRead, built⟩ := bind_eq_ok.mp built
  obtain ⟨_previous, _previousRead, built⟩ := bind_eq_ok.mp built
  obtain ⟨_position, _positionRead, built⟩ := bind_eq_ok.mp built
  obtain ⟨_orderFills, _fillsRead, built⟩ := bind_eq_ok.mp built
  obtain ⟨_net, _netRead, built⟩ := bind_eq_ok.mp built
  cases built
  cases unapplied

section Step

variable {rounding : ℚ → ℚ} {digest : String → String} {before after : BothRecords}
variable {entry : BothResults} {ledger : Book} {report : SlippageBook}

theorem SlippageInput.level_of_read {input : SlippageInput} {cumulative : Int}
    (read : intOrZero (input.lifecycleEvent.asDict.get "filled_quantity") = .ok cumulative) :
    input.level = cumulative := by
  unfold SlippageInput.level
  rw [read]
  rfl

theorem RecordsOf.safeReport (records : RecordsOf rounding before ledger report) :
    Slippage.safeReport rounding before.report = .ok (report.toDict rounding) := by
  rcases records.reportEq with stored | ⟨missing, rfl⟩
  · rw [stored]
    rfl
  · rw [missing]
    rfl

theorem bothStep_pairStep (records : RecordsOf rounding before ledger report)
    (together : Together ledger report) (stepped : BothStep rounding digest before entry after) :
    ∃ nextLedger nextReport, RecordsOf rounding after nextLedger nextReport ∧
      PairStep rounding entry ledger report nextLedger nextReport := by
  have ledgerOutcome := buildPaperPositionLedger_outcome records.ledgerEq.safeLedger stepped.applied
  have reportOutcome := buildPaperSlippageReport_outcome records.safeReport stepped.reported
    stepped.reportAccepts
  cases ledgerOutcome with
  | invalid _ _ _ _ status _ _ => exact absurd status stepped.ledgerAccepts
  | notFill ignored _ updated ledgerEq =>
      cases reportOutcome with
      | notFill _ quantity reportEq =>
          exact ⟨ledger, report, ⟨.inl (stepped.ledgerEq.trans (congrArg PyValue.dict ledgerEq)),
            .inl (stepped.reportEq.trans (congrArg PyValue.dict reportEq))⟩,
            .ignored ignored quantity (signedDelta_of_unapplied stepped.applied updated)⟩
      | repeatedKey _ isFill => exact absurd isFill ignored
      | stale _ isFill => exact absurd isFill ignored
      | measured _ _ _ _ isFill => exact absurd isFill ignored
  | stale cumulative isFill read covered status updated ledgerEq =>
      have kept : Represents after.ledger ledger :=
        .inl (stepped.ledgerEq.trans (congrArg PyValue.dict ledgerEq))
      have unmoved := signedDelta_of_unapplied stepped.applied updated
      have level := SlippageInput.level_of_read read
      have reached : cumulative = ledger.filled entry.input.orderId := by
        by_cases regressed : cumulative < ledger.filledBefore entry.input.lifecycleEvent
        · rw [if_pos regressed] at status
          exact absurd status stepped.ledgerAccepts
        · exact le_antisymm covered (not_lt.mp regressed)
      cases reportOutcome with
      | notFill ignored => exact absurd isFill ignored
      | repeatedKey _ _ _ _ _ quantity reportEq =>
          exact ⟨ledger, report, ⟨kept,
            .inl (stepped.reportEq.trans (congrArg PyValue.dict reportEq))⟩,
            .standing isFill (level.trans reached) quantity unmoved⟩
      | stale same _ readSame _ unlisted quantity reportEq =>
          cases read.symm.trans readSame
          have unfilled : ledger.filled entry.input.orderId = 0 := by
            by_contra moves
            apply unlisted
            rw [reached]
            exact together.currentKey _ moves
          rw [reached, unfilled] at reportEq
          exact ⟨ledger, _, ⟨kept, .inl (stepped.reportEq.trans (congrArg PyValue.dict reportEq))⟩,
            .listed isFill unfilled (level.trans (reached.trans unfilled)) quantity unmoved⟩
      | measured same _ _ _ _ readSame fresh =>
          cases read.symm.trans readSame
          rw [together.sameFills] at fresh
          exact absurd reached (ne_of_gt fresh)
  | filled cumulative validated isFill read fresh _ _ ledgerEq signedDelta =>
      obtain ⟨warnings, validated⟩ := validated
      have level := SlippageInput.level_of_read read
      cases reportOutcome with
      | notFill ignored => exact absurd isFill ignored
      | repeatedKey same _ readSame _ listed =>
          cases read.symm.trans readSame
          obtain ⟨orderId, reached, sameKey, below⟩ := together.keysApplied _ listed
          obtain ⟨sameOrder, sameLevel⟩ := PnlIdentity.fillKey_inj sameKey
          rw [← sameOrder, ← sameLevel] at below
          exact absurd fresh (not_lt.mpr below)
      | stale same _ readSame reached =>
          cases read.symm.trans readSame
          rw [together.sameFills] at reached
          exact absurd reached (ne_of_lt fresh)
      | measured same expected price slippage _ readSame _ prices quantity amount measured reportEq =>
          cases read.symm.trans readSame
          rw [together.sameFills] at quantity
          rw [← level] at quantity ledgerEq reportEq fresh signedDelta
          refine ⟨_, _, ⟨.inl (stepped.ledgerEq.trans (congrArg PyValue.dict ledgerEq)),
            .inl (stepped.reportEq.trans (congrArg PyValue.dict reportEq))⟩,
            .advanced digest expected price slippage isFill (validated_side validated) fresh
              prices.expected prices.filled quantity amount measured ?_⟩
          rw [signedDelta, quantity]
          rfl

theorem pairStep_together {nextLedger : Book} {nextReport : SlippageBook}
    (together : Together ledger report)
    (stepped : PairStep rounding entry ledger report nextLedger nextReport) :
    Together nextLedger nextReport := by
  cases stepped with
  | ignored => exact together
  | standing => exact together
  | listed _isFill unfilled _none _measured _moved =>
      refine ⟨?_, ?_, ?_⟩
      · intro orderId
        rw [SlippageBook.filled_record]
        split
        · rename_i here
          rw [here, unfilled]
        · exact together.sameFills orderId
      · intro key member
        rcases SlippageBook.mem_fillKeys_record.mp member with new | stored
        · exact ⟨_, _, new, unfilled.ge⟩
        · exact together.keysApplied key stored
      · intro orderId moves
        exact SlippageBook.mem_fillKeys_record.mpr (.inr (together.currentKey orderId moves))
  | advanced digest _expected _price _slippage _isFill _side fresh _expectedEq _priceEq _quantity
      _amount _measured _moved =>
      have filled : ∀ orderId, (ledger.record rounding digest entry.input.intent.asDict
          entry.input.lifecycleEvent.asDict entry.input.tsEpoch entry.input.level).filled orderId =
          if orderId = entry.input.orderId then entry.input.level else ledger.filled orderId :=
        Book.filled_record _ _ _ _ _ _ _
      refine ⟨?_, ?_, ?_⟩
      · intro orderId
        rw [SlippageBook.filled_record, filled]
        split
        · rfl
        · exact together.sameFills orderId
      · intro key member
        rcases SlippageBook.mem_fillKeys_record.mp member with new | stored
        · refine ⟨_, _, new, ?_⟩
          rw [filled, if_pos rfl]
        · obtain ⟨orderId, cumulative, same, covered⟩ := together.keysApplied key stored
          refine ⟨orderId, cumulative, same, ?_⟩
          rw [filled]
          split
          · rename_i here
            rw [here] at covered
            exact covered.trans fresh.le
          · exact covered
      · intro orderId moves
        rw [filled] at moves ⊢
        split
        · rename_i here
          rw [here]
          exact SlippageBook.mem_fillKeys_record.mpr (.inl rfl)
        · rename_i elsewhere
          rw [if_neg elsewhere] at moves
          exact SlippageBook.mem_fillKeys_record.mpr (.inr (together.currentKey orderId moves))

theorem PairStep.quantities {nextLedger : Book} {nextReport : SlippageBook}
    (stepped : PairStep rounding entry ledger report nextLedger nextReport) :
    entry.reported.measuredQuantity = |entry.applied.signedDeltaQuantity| := by
  cases stepped with
  | ignored _ measured moved => rw [measured, moved, abs_zero]
  | standing _ _ measured moved => rw [measured, moved, abs_zero]
  | listed _ _ _ measured moved => rw [measured, moved, abs_zero]
  | advanced _ _ _ slippage _ _ fresh _ _ quantity _ measured moved =>
      have positive : 0 ≤ slippage.quantity := by
        rw [quantity]
        omega
      rw [measured, moved, Book.signed]
      split
      · exact (abs_of_nonneg positive).symm
      · rw [abs_neg]
        exact (abs_of_nonneg positive).symm

theorem PairStep.orderFills {nextLedger : Book} {nextReport : SlippageBook}
    (stepped : PairStep rounding entry ledger report nextLedger nextReport)
    (reports : entry.input.IsFill → entry.input.level ≠ 0)
    (same : report.orderFills = ledger.orderFills) :
    nextReport.orderFills = nextLedger.orderFills := by
  cases stepped with
  | ignored => exact same
  | standing => exact same
  | listed isFill _ none => exact absurd none (reports isFill)
  | advanced =>
      change Assoc.set report.orderFills _ _ = Assoc.set ledger.orderFills _ _
      rw [same]
      rfl

end Step

/-! ### What the report charges -/

/-- The slippage of one input: the signed price gap on the quantity the ledger moved. -/
def BothResults.slippage (entry : BothResults) : ℚ :=
  entry.input.sideSign * entry.input.priceGap * (|entry.applied.signedDeltaQuantity| : Int)

def readings (inputs : List SlippageInput) : List (Reading String ℚ) :=
  inputs.filterMap SlippageInput.reading

theorem readings_snoc (inputs : List SlippageInput) (input : SlippageInput) :
    readings (inputs ++ [input]) = readings inputs ++ input.reading.toList := by
  unfold readings
  rw [List.filterMap_append, List.filterMap_cons, List.filterMap_nil]
  cases input.reading with
  | none => rfl
  | some reading => rfl

structure Charged (entries : List BothResults) (ledger : Book) (report : SlippageBook) : Prop where
  total : RealizedPnl.sumFloats report.amounts =
    .finite (Reading.charge (fun _ => 0) (readings (entries.map BothResults.input)))
  perEntry : (entries.map BothResults.slippage).sum =
    Reading.charge (fun _ => 0) (readings (entries.map BothResults.input))
  levels : (readings (entries.map BothResults.input)).foldl Reading.advance (fun _ => 0) =
    ledger.filled

theorem slippagePerUnit_exact {input : SlippageInput} {price expected : ℚ}
    (side : upperText (input.intent.asDict.get "transaction_type") ∈ ["BUY", "SELL"])
    (priceEq : input.fillPrice = some (.finite price))
    (expectedEq : input.expected = some (.finite expected)) :
    slippagePerUnit id (upperText (input.intent.asDict.get "transaction_type")) (.finite expected)
      (.finite price) = .finite (input.sideSign * input.priceGap) := by
  unfold slippagePerUnit SlippageInput.sideSign SlippageInput.priceGap
  rw [priceEq, expectedEq]
  rcases List.mem_cons.mp side with buys | rest
  · rw [if_pos buys, if_pos buys]
    simp only [PyFloat.finite_sub, PyFloat.roundWith_id, Int.cast_one, one_mul]
  · have sells := List.mem_singleton.mp rest
    have notBuy : upperText (input.intent.asDict.get "transaction_type") ≠ "BUY" := by
      rw [sells]
      decide
    rw [if_neg notBuy, if_pos sells, if_neg notBuy]
    simp only [PyFloat.finite_sub, PyFloat.roundWith_id, Int.cast_neg, Int.cast_one, neg_mul,
      one_mul, neg_sub]

section Exact

variable {entries : List BothResults} {entry : BothResults} {ledger nextLedger : Book}
variable {report nextReport : SlippageBook}

theorem Charged.unmoved (charged : Charged entries ledger report)
    (sameAmounts : nextReport.amounts = report.amounts)
    (moved : entry.applied.signedDeltaQuantity = 0)
    (still : entry.input.IsFill → entry.input.level = ledger.filled entry.input.orderId) :
    Charged (entries ++ [entry]) ledger nextReport := by
  have slippage : entry.slippage = 0 := by
    unfold BothResults.slippage
    rw [moved, abs_zero, Int.cast_zero, mul_zero]
  have readingsEq : readings ((entries ++ [entry]).map BothResults.input) =
      readings (entries.map BothResults.input) ++ entry.input.reading.toList := by
    rw [List.map_append, List.map_singleton, readings_snoc]
  have noCharge : Reading.charge ledger.filled entry.input.reading.toList = 0 ∧
      entry.input.reading.toList.foldl Reading.advance ledger.filled = ledger.filled := by
    unfold SlippageInput.reading
    by_cases isFill : entry.input.IsFill
    · rw [if_pos isFill]
      simp only [Option.toList_some, SlippageInput.fillReading, Reading.charge, Reading.cost,
        List.foldl_cons, List.foldl_nil, still isFill, sub_self, Int.cast_zero, mul_zero, add_zero, true_and]
      funext orderId
      unfold Reading.advance
      split
      · rename_i here
        rw [here]
      · rfl
    · rw [if_neg isFill]
      exact ⟨rfl, rfl⟩
  have sameCharge : Reading.charge (fun _ => 0) (readings ((entries ++ [entry]).map
      BothResults.input)) =
      Reading.charge (fun _ => 0) (readings (entries.map BothResults.input)) := by
    rw [readingsEq, Reading.charge_append, charged.levels, noCharge.1, add_zero]
  refine ⟨?_, ?_, ?_⟩
  · rw [sameAmounts, sameCharge]
    exact charged.total
  · rw [sameCharge, List.map_append, List.sum_append, List.map_singleton, List.sum_singleton,
      slippage, add_zero]
    exact charged.perEntry
  · rw [readingsEq, List.foldl_append, charged.levels]
    exact noCharge.2

theorem pairStep_charged (charged : Charged entries ledger report) (priced : entry.input.Priced)
    (stepped : PairStep id entry ledger report nextLedger nextReport) :
    Charged (entries ++ [entry]) nextLedger nextReport := by
  have quantities := stepped.quantities
  cases stepped with
  | ignored notFill _measured moved =>
      exact charged.unmoved rfl moved fun isFill => absurd isFill notFill
  | standing _isFill same _measured moved => exact charged.unmoved rfl moved fun _ => same
  | listed _isFill unfilled none _measured moved =>
      refine charged.unmoved ?_ moved fun _ => none.trans unfilled.symm
      unfold SlippageBook.amounts SlippageBook.record
      rw [List.append_nil]
  | advanced digest expected price slippage isFill side fresh expectedEq priceEq quantity amount
      measured moved =>
      obtain ⟨fillAt, expectedAt, fillEq, planned⟩ := priced isFill
      cases priceEq.symm.trans fillEq
      cases expectedEq.symm.trans planned
      have distance : |entry.applied.signedDeltaQuantity| =
          entry.input.level - ledger.filled entry.input.orderId := by
        rw [← quantities, measured, quantity]
      have readingEq : entry.input.reading.toList = [entry.input.fillReading] := by
        unfold SlippageInput.reading
        rw [if_pos isFill]
        rfl
      have cost : Reading.charge ledger.filled entry.input.reading.toList = entry.slippage := by
        rw [readingEq, BothResults.slippage, distance]
        simp only [Reading.charge, Reading.cost, SlippageInput.fillReading, add_zero]
      have readingsEq : readings ((entries ++ [entry]).map BothResults.input) =
          readings (entries.map BothResults.input) ++ entry.input.reading.toList := by
        rw [List.map_append, List.map_singleton, readings_snoc]
      have charges : Reading.charge (fun _ => 0) (readings ((entries ++ [entry]).map
          BothResults.input)) =
          Reading.charge (fun _ => 0) (readings (entries.map BothResults.input)) +
            entry.slippage := by
        rw [readingsEq, Reading.charge_append, charged.levels, cost]
      have amounts : (report.record entry.input.orderId entry.input.level [slippage]).amounts =
          report.amounts ++ [slippage.amount] := by
        unfold SlippageBook.amounts SlippageBook.record
        rw [List.map_append, List.map_singleton]
      refine ⟨?_, ?_, ?_⟩
      · rw [amounts, sumFloats_append_singleton, charged.total, amount,
          slippagePerUnit_exact side fillEq planned, charges, BothResults.slippage, ← quantities,
          measured]
        simp only [PyFloat.ofInt, PyFloat.finite_mul, PyFloat.roundWith_id, PyFloat.finite_add]
      · rw [charges, List.map_append, List.sum_append, List.map_singleton, List.sum_singleton,
          charged.perEntry]
      · rw [readingsEq, List.foldl_append, charged.levels, readingEq]
        funext orderId
        exact (Book.filled_record id digest entry.input.intent.asDict
          entry.input.lifecycleEvent.asDict entry.input.tsEpoch entry.input.level ledger
          orderId).symm

end Exact

/-! ### Whole runs -/

structure StartsBothEmpty (rounding : ℚ → ℚ) (records : BothRecords) : Prop where
  ledger : StartsEmpty records.ledger
  report : records.report = .none ∨
    records.report = .dict (({} : SlippageBook).toDict rounding)

def totalSlippage (report : PyValue) : PyFloat :=
  floatOrZero ((report.asDict.get "summary").asDict.get "total_slippage_amount")

section Runs

variable {rounding : ℚ → ℚ} {digest : String → String} {start finish : BothRecords}
variable {entries : List BothResults}

theorem StartsBothEmpty.recordsOf (starts : StartsBothEmpty rounding start) :
    RecordsOf rounding start {} {} := by
  refine ⟨starts.ledger.represents, ?_⟩
  rcases starts.report with missing | stored
  · exact .inr ⟨missing, rfl⟩
  · exact .inl stored

theorem empty_together : Together {} {} := by
  refine ⟨fun _ => rfl, ?_, ?_⟩
  · intro key member
    cases member
  · intro orderId moves
    exact absurd rfl moves

theorem run_pair (starts : StartsBothEmpty rounding start)
    (run : Run (BothStep rounding digest) start entries finish) :
    ∃ ledger report, RecordsOf rounding finish ledger report ∧ Together ledger report ∧
      Run (fun before entry after => PairStep rounding entry before.1 before.2 after.1 after.2)
        (({}, {}) : Book × SlippageBook) entries (ledger, report) := by
  induction run with
  | nil => exact ⟨{}, {}, starts.recordsOf, empty_together, .nil⟩
  | @snoc entries before after entry run stepped ih =>
      obtain ⟨ledger, report, records, together, pairs⟩ := ih
      obtain ⟨nextLedger, nextReport, nextRecords, pair⟩ :=
        bothStep_pairStep records together stepped
      exact ⟨nextLedger, nextReport, nextRecords, pairStep_together together pair,
        .snoc pairs pair⟩

theorem RecordsOf.reportFills {ledger : Book} {report : SlippageBook}
    (records : RecordsOf rounding finish ledger report) :
    orderFillsOf finish.report = report.fillEntries := by
  rcases records.reportEq with stored | ⟨missing, rfl⟩
  · rw [stored]
    rfl
  · rw [missing]
    rfl

theorem RecordsOf.reportFillOf {ledger : Book} {report : SlippageBook}
    (records : RecordsOf rounding finish ledger report) (orderId : String) :
    orderFillOf finish.report orderId = report.filled orderId := by
  rw [PositionLedger.orderFillOf, records.reportFills]
  simp only [PyDict.get, SlippageBook.fillEntries, Assoc.lookup_mapValues, SlippageBook.filled]
  cases report.orderFills.lookup orderId <;> rfl

theorem RecordsOf.totalSlippage {ledger : Book} {report : SlippageBook}
    (records : RecordsOf id finish ledger report) :
    totalSlippage finish.report = RealizedPnl.sumFloats report.amounts := by
  rcases records.reportEq with stored | ⟨missing, rfl⟩
  · have amounts : (report.entries.map SlippageEntry.event).map eventAmount = report.amounts := by
      unfold SlippageBook.amounts
      rw [List.map_map]
      apply List.map_congr_left
      intro entry _
      change floatOrZero (PyDict.get entry.event "slippage_amount") = entry.amount
      rw [entry.storesAmount, floatOrZero_float]
    rw [stored]
    change floatOrZero (roundedSum id ((report.entries.map SlippageEntry.event).map eventAmount)) = _
    rw [amounts]
    cases report.amounts with
    | nil => rfl
    | cons amount rest =>
        change floatOrZero (.float _) = _
        rw [floatOrZero_float, PyFloat.roundWith_id]
  · rw [missing]
    rfl

theorem run_charged {ledger : Book} {report : SlippageBook}
    (pairs : Run (fun before entry after => PairStep id entry before.1 before.2 after.1 after.2)
      (({}, {}) : Book × SlippageBook) entries (ledger, report))
    (priced : ∀ entry ∈ entries, entry.input.Priced) : Charged entries ledger report := by
  have charged := pairs.history_invariant
    (motive := fun entries books => (∀ entry ∈ entries, entry.input.Priced) →
      Charged entries books.1 books.2) (fun _ => ⟨rfl, rfl, rfl⟩) ?_
  · exact charged priced
  · intro entries before entry after held stepped priced
    refine pairStep_charged (held ?_) (priced entry ?_) stepped
    · intro earlier member
      exact priced earlier (List.mem_append_left _ member)
    · exact List.mem_append_right _ (List.mem_singleton_self entry)

theorem run_totalSlippage (starts : StartsBothEmpty id start)
    (run : Run (BothStep id digest) start entries finish)
    (priced : ∀ entry ∈ entries, entry.input.Priced) :
    totalSlippage finish.report =
      .finite (Reading.charge (fun _ => 0) (readings (entries.map BothResults.input))) := by
  obtain ⟨ledger, report, records, _together, pairs⟩ := run_pair starts run
  rw [records.totalSlippage, (run_charged pairs priced).total]

end Runs

/-! ### One fill in several parts -/

/-- Fill events of one order on one side at one price, of which the last reports what the
whole fill reports. -/
structure Splits (whole : SlippageInput) (parts : List SlippageInput) : Prop where
  isFill : whole.IsFill
  partFills : ∀ part ∈ parts, part.IsFill
  sameOrder : ∀ part ∈ parts, part.orderId = whole.orderId
  sameSide : ∀ part ∈ parts, upperText (part.intent.asDict.get "transaction_type") =
    upperText (whole.intent.asDict.get "transaction_type")
  samePrice : ∀ part ∈ parts, part.fillPrice = whole.fillPrice
  sameExpected : ∀ part ∈ parts, part.expected = whole.expected
  sameLevel : ∃ last, parts.getLast? = some last ∧ last.level = whole.level

theorem readings_fills {inputs : List SlippageInput} (fills : ∀ input ∈ inputs, input.IsFill) :
    readings inputs = inputs.map SlippageInput.fillReading := by
  unfold readings
  rw [← List.filterMap_eq_map]
  apply List.filterMap_congr
  intro input member
  exact if_pos (fills input member)

theorem Splits.charge {whole : SlippageInput} {parts before later : List SlippageInput}
    (splits : Splits whole parts) :
    Reading.charge (fun _ => 0) (readings (before ++ parts ++ later)) =
      Reading.charge (fun _ => 0) (readings (before ++ [whole] ++ later)) := by
  obtain ⟨last, lastEq, sameLevel⟩ := splits.sameLevel
  obtain ⟨init, rfl⟩ := List.getLast?_eq_some_iff.mp lastEq
  have wholeReading : readings [whole] = [whole.fillReading] := by
    apply readings_fills
    intro input member
    rw [List.mem_singleton.mp member]
    exact splits.isFill
  have cut : ∀ middle : List SlippageInput, readings (before ++ middle ++ later) =
      readings before ++ readings middle ++ readings later := by
    intro middle
    unfold readings
    rw [List.filterMap_append, List.filterMap_append]
  rw [cut, cut, wholeReading, readings_fills splits.partFills, List.map_append, List.map_singleton]
  refine Reading.charge_parts _ _ _ _ _ _ ?_ sameLevel
  intro reading member
  rw [← List.map_singleton (f := SlippageInput.fillReading), ← List.map_append] at member
  obtain ⟨part, listed, rfl⟩ := List.mem_map.mp member
  constructor
  · exact splits.sameOrder part listed
  · unfold SlippageInput.fillReading SlippageInput.sideSign SlippageInput.priceGap
    rw [splits.sameSide part listed, splits.samePrice part listed, splits.sameExpected part listed]

theorem Splits.priced {whole part : SlippageInput} {parts : List SlippageInput}
    (splits : Splits whole parts) (priced : whole.Priced) (member : part ∈ parts) :
    part.Priced := by
  intro _
  obtain ⟨price, expected, priceEq, expectedEq⟩ := priced splits.isFill
  exact ⟨price, expected, (splits.samePrice part member).trans priceEq,
    (splits.sameExpected part member).trans expectedEq⟩

/-- Fed with the same accepted inputs from empty, report and ledger have the same quantity
for every order, and the same maps as long as no fill reports zero; the report measures
what the ledger moves and charges its signed price gap, however a fill is split. -/
theorem slippage_agrees {rounding : ℚ → ℚ} {digest : String → String} {start finish : BothRecords}
    {entries : List BothResults} (starts : StartsBothEmpty rounding start)
    (run : Run (BothStep rounding digest) start entries finish) :
    (∀ orderId, orderFillOf finish.report orderId = orderFillOf finish.ledger orderId) ∧
    ((∀ entry ∈ entries, entry.input.IsFill → entry.input.level ≠ 0) →
      orderFillsOf finish.report = orderFillsOf finish.ledger) ∧
    (entries.map fun entry => entry.reported.measuredQuantity).sum =
      (entries.map fun entry => |entry.applied.signedDeltaQuantity|).sum ∧
    (rounding = id → (∀ entry ∈ entries, entry.input.Priced) →
      totalSlippage finish.report = .finite (entries.map BothResults.slippage).sum ∧
      ∀ others last before later whole parts, Run (BothStep rounding digest) start others last →
        entries.map BothResults.input = before ++ [whole] ++ later →
        others.map BothResults.input = before ++ parts ++ later → Splits whole parts →
        totalSlippage last.report = totalSlippage finish.report) := by
  obtain ⟨ledger, report, records, together, pairs⟩ := run_pair starts run
  refine ⟨?_, ?_, ?_, ?_⟩
  · intro orderId
    rw [records.reportFillOf, records.ledgerEq.orderFillOf, together.sameFills]
  · intro reports
    have same := pairs.history_invariant
      (motive := fun entries books => (∀ entry ∈ entries, entry.input.IsFill →
        entry.input.level ≠ 0) → books.2.orderFills = books.1.orderFills) (fun _ => rfl) ?_
    · rw [records.reportFills, records.ledgerEq.orderFillsOf, SlippageBook.fillEntries,
        Book.fillEntries, same reports]
    · intro entries before entry after held stepped reports
      apply stepped.orderFills
      · exact reports entry (List.mem_append_right _ (List.mem_singleton_self entry))
      · exact held fun earlier member => reports earlier (List.mem_append_left _ member)
  · have each : ∀ entry ∈ entries,
        entry.reported.measuredQuantity = |entry.applied.signedDeltaQuantity| := by
      refine pairs.history_invariant (motive := fun entries _ => ∀ entry ∈ entries,
        entry.reported.measuredQuantity = |entry.applied.signedDeltaQuantity|) ?_ ?_
      · intro entry member
        cases member
      · intro entries before entry after held stepped other member
        rcases List.mem_append.mp member with earlier | last
        · exact held other earlier
        · rw [List.mem_singleton.mp last]
          exact stepped.quantities
    rw [List.map_congr_left each]
  · rintro rfl priced
    refine ⟨?_, ?_⟩
    · rw [run_totalSlippage starts run priced, (run_charged pairs priced).perEntry]
    · intro others last before later whole parts otherRun wholeEq partsEq splits
      have otherPriced : ∀ entry ∈ others, entry.input.Priced := by
        intro entry member
        have listed : entry.input ∈ before ++ parts ++ later := by
          rw [← partsEq]
          exact List.mem_map_of_mem member
        have pricedInput : ∀ input ∈ before ++ [whole] ++ later, input.Priced := by
          rw [← wholeEq]
          intro input inputMember
          obtain ⟨own, ownMember, rfl⟩ := List.mem_map.mp inputMember
          exact priced own ownMember
        rcases List.mem_append.mp listed with either | inLater
        · rcases List.mem_append.mp either with inBefore | inParts
          · exact pricedInput _ (List.mem_append_left _ (List.mem_append_left _ inBefore))
          · refine splits.priced (pricedInput whole ?_) inParts
            exact List.mem_append_left _ (List.mem_append_right _ (List.mem_singleton_self whole))
        · exact pricedInput _ (List.mem_append_right _ inLater)
      rw [run_totalSlippage starts otherRun otherPriced, partsEq, splits.charge, ← wholeEq,
        run_totalSlippage starts run priced]

/-! ### A fill in two parts, and a fill of nothing -/

private def answered (records : BothRecords) (input : SlippageInput) : BothResults :=
  { input := input
    applied := (buildPaperPositionLedger id id input.intent input.lifecycleEvent records.ledger
      input.tsEpoch).toOption.getD { updated := false, status := .blocked, ledger := [] }
    reported := (buildPaperSlippageReport id id input.intent input.lifecycleEvent
      input.expectedPrice records.report input.tsEpoch).toOption.getD
        { measured := false, status := .blocked, report := [] } }

private def recordsAfter (records : BothRecords) (input : SlippageInput) : BothRecords :=
  { ledger := .dict (answered records input).applied.ledger
    report := .dict (answered records input).reported.report }

private theorem answered_step (records : BothRecords) (input : SlippageInput)
    (accepted : (answered records input).applied.status ≠ .blocked ∧
      (answered records input).reported.status ≠ .blocked) :
    BothStep id id records (answered records input) (recordsAfter records input) := by
  refine ⟨?_, ?_, accepted.1, accepted.2, rfl, rfl⟩
  · have notBlocked := accepted.1
    unfold answered at notBlocked ⊢
    cases built : buildPaperPositionLedger id id input.intent input.lifecycleEvent records.ledger
        input.tsEpoch with
    | error raised =>
        rw [built] at notBlocked
        exact absurd rfl notBlocked
    | ok applied => rfl
  · have notBlocked := accepted.2
    unfold answered at notBlocked ⊢
    cases built : buildPaperSlippageReport id id input.intent input.lifecycleEvent
        input.expectedPrice records.report input.tsEpoch with
    | error raised =>
        rw [built] at notBlocked
        exact absurd rfl notBlocked
    | ok reported => rfl

private def noRecords : BothRecords :=
  { ledger := .none, report := .none }

private def fillOf (filled : Int) : SlippageInput :=
  { intent := exampleIntent "entry" "BUY" 10
    lifecycleEvent := exampleFill "entry" filled 101
    expectedPrice := .int 100 }

/-- A fill of nothing enters its order into the report and not into the ledger. -/
theorem slippage_lists_unfilled_order :
    ∃ entries finish, Run (BothStep id id) noRecords entries finish ∧
      entries.map BothResults.input = [fillOf 0] ∧
      (orderFillsOf finish.report).keys = ["entry"] ∧ (orderFillsOf finish.ledger).keys = [] := by
  have stepped := answered_step noRecords (fillOf 0) (by decide)
  exact ⟨_, _, .snoc .nil stepped, rfl, by decide, by decide⟩

theorem slippage_agrees_twoParts :
    ∃ entries finish, Run (BothStep id id) noRecords entries finish ∧
      entries.map BothResults.input = [fillOf 4, fillOf 10] ∧
      orderFillsOf finish.report = orderFillsOf finish.ledger ∧
      totalSlippage finish.report = .finite (entries.map BothResults.slippage).sum ∧
      totalSlippage finish.report = .finite 10 := by
  have first := answered_step noRecords (fillOf 4) (by decide)
  have second := answered_step (recordsAfter noRecords (fillOf 4)) (fillOf 10) (by decide)
  have run : Run (BothStep id id) noRecords _ _ := .snoc (.snoc .nil first) second
  have starts : StartsBothEmpty id noRecords := ⟨.inl rfl, .inl rfl⟩
  have inputs : ∀ entry ∈ [] ++ [answered noRecords (fillOf 4)] ++
      [answered (recordsAfter noRecords (fillOf 4)) (fillOf 10)],
      entry.input = fillOf 4 ∨ entry.input = fillOf 10 := by
    intro entry member
    rcases List.mem_append.mp member with earlier | last
    · rw [List.mem_singleton.mp earlier]
      exact .inl rfl
    · rw [List.mem_singleton.mp last]
      exact .inr rfl
  obtain ⟨_levels, maps, _quantities, exactly⟩ := slippage_agrees starts run
  have priced : ∀ entry ∈ [] ++ [answered noRecords (fillOf 4)] ++
      [answered (recordsAfter noRecords (fillOf 4)) (fillOf 10)], entry.input.Priced := by
    intro entry member _
    rcases inputs entry member with same | same
    · rw [same]
      exact ⟨101, 100, rfl, rfl⟩
    · rw [same]
      exact ⟨101, 100, rfl, rfl⟩
  refine ⟨_, _, run, rfl, maps ?_, (exactly rfl priced).1, by decide +kernel⟩
  intro entry member _
  rcases inputs entry member with same | same
  · rw [same]
    decide
  · rw [same]
    decide

end Algotradify.Paper.Slippage
