/-
When a performance snapshot that is ready can be trusted: every source stands behind its
figures, and each total is the one of the record the source carries.

A result that is turned into a dictionary has the type and the flags of its ledger or
report, but keeps its summary one level below: it passes for a ledger whose totals are zero.
The status of a source is asked for a degradation only.
-/

import Algotradify.Paper.NestedFlags
import Algotradify.Paper.PerformanceSnapshot
import Algotradify.Paper.Slippage

namespace Algotradify.Paper.PerformanceSnapshot

open Py

variable {rounding : ℚ → ℚ} {sources : Sources}

/-! ### What a source says -/

/-- The ledger or the report of a source: under the key in a result, else the source itself. -/
def record (source : Source) (key : String) : PyDict :=
  if source.asDict.contains key then (source.asDict.get key).asDict else source.asDict

def total (record : PyDict) (key : String) : PyFloat :=
  floatOrZero ((record.get "summary").asDict.get key)

def IsBlocked (source : Source) : Prop :=
  upperText (source.asDict.get "status") = "BLOCKED"

def Sources.all (sources : Sources) : List Source :=
  [sources.positionLedger, sources.mtmPnl, sources.realizedPnl, sources.slippage]

structure Trusted (sources : Sources) (snapshot : Snapshot) : Prop where
  present : ∀ source ∈ sources.all, source.isPresent = true
  sound : ∀ source ∈ sources.all, ¬ IsBlocked source ∧ isDegraded source = false
  unrealized : snapshot.summary.totalUnrealizedPnl =
    total sources.mtmPnl.asDict "total_unrealized_pnl"
  realized : snapshot.summary.totalRealizedPnl =
    total (record sources.realizedPnl "ledger") "total_realized_pnl"
  slippage : snapshot.summary.totalSlippageAmount =
    total (record sources.slippage "report") "total_slippage_amount"

def TrustedWhenReady (rounding : ℚ → ℚ) (sources : Sources) : Prop :=
  ∀ tsEpoch result, buildPaperPerformanceSnapshot rounding sources tsEpoch = .ok result →
    result.status = .ready → ∃ snapshot, result.snapshot = some snapshot ∧ Trusted sources snapshot

/-! ### When a snapshot is ready -/

structure SafeFlags (record : PyDict) : Prop where
  paperOnly : record.get "paper_only" = .bool true
  isOrderAction : record.get "is_order_action" = .bool false
  brokerApiCalled : record.get "broker_api_called" = .bool false
  realOrderId : (record.get "real_order_id").isNoneOrEmpty = true

structure Source.Typed (source : Source) (expectedKey expectedValue : String) : Prop where
  present : source.isPresent = true
  type : source.asDict.get expectedKey = .str expectedValue
  flags : SafeFlags source.asDict

structure Complete (sources : Sources) : Prop where
  positionLedger : sources.positionLedger.Typed "ledger_type" "PAPER_POSITION_LEDGER"
  positions : (sources.positionLedger.asDict.get "positions").isDict = true
  mtmPnl : sources.mtmPnl.Typed "tracker_type" "PAPER_MTM_PNL_TRACKER"
  realizedPnl : sources.realizedPnl.Typed "ledger_type" "PAPER_REALIZED_PNL_LEDGER"
  slippage : sources.slippage.Typed "report_type" "PAPER_SLIPPAGE_FILL_QUALITY"

def counts (sources : Sources) : List PyValue :=
  (positionRows sources.positionLedger).map (PyDict.get · "net_quantity") ++
    ["valued_position_count", "missing_mark_count"].map (PyDict.get (summaryOf sources.mtmPnl)) ++
    ["event_count", "winning_event_count", "losing_event_count"].map
      (PyDict.get (summaryOf sources.realizedPnl)) ++
    ["event_count", "measured_quantity", "favorable_event_count", "unfavorable_event_count",
      "flat_event_count"].map (PyDict.get (summaryOf sources.slippage))

def Infinite (value : PyValue) : Prop :=
  value = .float .posInf ∨ value = .float .negInf

structure Blank (sources : Sources) : Prop where
  positions : positionRows sources.positionLedger = []
  realized : (total sources.realizedPnl.asDict "total_realized_pnl").eq (.finite 0) = true
  slippage : intOrZero ((summaryOf sources.slippage).get "event_count") = .ok 0

structure Reported (sources : Sources) : Prop where
  complete : Complete sources
  counted : ∀ value ∈ counts sources, ¬ Infinite value
  notBlank : ¬ Blank sources
  mtmPnl : isDegraded sources.mtmPnl = false
  realizedPnl : isDegraded sources.realizedPnl = false
  slippage : isDegraded sources.slippage = false

theorem intOrZero_ok_iff (value : PyValue) :
    (∃ number, intOrZero value = .ok number) ↔ ¬ Infinite value := by
  unfold Infinite intOrZero intOrNone
  cases value with
  | float number =>
      cases number <;>
        simp [PyValue.isNoneOrEmpty, toInt, bind, Except.bind, pure, Except.pure]
  | str text =>
      by_cases blank : text = ""
      · simp [PyValue.isNoneOrEmpty, blank, bind, Except.bind, pure, Except.pure]
      · cases read : parseInt? text <;>
          simp [PyValue.isNoneOrEmpty, blank, toInt, read, bind, Except.bind, pure, Except.pure]
  | none | bool | int | list | dict =>
      simp [PyValue.isNoneOrEmpty, toInt, bind, Except.bind, pure, Except.pure]

theorem validateSafeFlags_clear {record : PyDict} {textPrefix : String}
    (visible : strip textPrefix ≠ "") :
    dedupe (validateSafeFlags record textPrefix) = [] ↔ SafeFlags record := by
  have shown (rest : String) := strip_append_ne_empty rest visible
  unfold validateSafeFlags
  rw [dedupe_append_eq_nil, dedupe_append_eq_nil, dedupe_append_eq_nil,
    dedupe_blockerIf_eq_nil _ (shown _), dedupe_blockerIf_eq_nil _ (shown _),
    dedupe_blockerIf_eq_nil _ (shown _), dedupe_blockerIf_eq_nil _ (shown _)]
  simp only [Bool.not_eq_false', PyValue.isTrue_eq_true, PyValue.isFalse_eq_true]
  constructor
  · rintro ⟨⟨⟨paperOnly, isOrderAction⟩, brokerApiCalled⟩, realOrderId⟩
    exact ⟨paperOnly, isOrderAction, brokerApiCalled, realOrderId⟩
  · intro flags
    exact ⟨⟨⟨flags.paperOnly, flags.isOrderAction⟩, flags.brokerApiCalled⟩, flags.realOrderId⟩

theorem validateOptionalSource_clear {source : Source} {expectedKey expectedValue textPrefix : String}
    (visible : strip textPrefix ≠ "") :
    dedupe (validateOptionalSource source expectedKey expectedValue textPrefix).1 = [] ↔
      (source.isPresent = true → source.Typed expectedKey expectedValue) := by
  cases source with
  | none => exact iff_of_true rfl (fun present => absurd present (by decide))
  | other => exact iff_of_true rfl (fun present => absurd present (by decide))
  | dict entries =>
      unfold validateOptionalSource
      dsimp only
      by_cases empty : entries.isEmpty = true
      · rw [if_pos empty]
        apply iff_of_true rfl
        intro present
        unfold Source.isPresent Source.asDict at present
        simp [empty] at present
      · rw [if_neg empty, dedupe_append_eq_nil, validateSafeFlags_clear visible,
          dedupe_blockerIf_eq_nil _ (strip_append_ne_empty _ visible), Bool.not_eq_false',
          PyValue.isStr_eq_true]
        have present : (Source.dict entries).isPresent = true := by
          simpa [Source.isPresent, Source.asDict] using empty
        constructor
        · rintro ⟨type, flags⟩ _
          exact ⟨present, type, flags⟩
        · intro typed
          exact ⟨(typed present).type, (typed present).flags⟩

theorem positionLedgerBlockers_clear (positionLedger : Source) :
    dedupe (positionLedgerBlockers positionLedger) = [] ↔
      positionLedger.Typed "ledger_type" "PAPER_POSITION_LEDGER" ∧
        (positionLedger.asDict.get "positions").isDict = true := by
  unfold positionLedgerBlockers
  by_cases present : positionLedger.isPresent = true
  · rw [present, if_neg (by decide), dedupe_append_eq_nil, dedupe_append_eq_nil,
      validateSafeFlags_clear (by decide), dedupe_blockerIf_eq_nil _ (by decide),
      dedupe_blockerIf_eq_nil _ (by decide), Bool.not_eq_false', Bool.not_eq_false',
      PyValue.isStr_eq_true]
    constructor
    · rintro ⟨⟨type, flags⟩, positions⟩
      exact ⟨⟨present, type, flags⟩, positions⟩
    · rintro ⟨typed, positions⟩
      exact ⟨⟨typed.type, typed.flags⟩, positions⟩
  · rw [if_pos (by simpa using present)]
    apply iff_of_false (by decide)
    intro typed
    exact present typed.1.present

/-! ### The blocks -/

private theorem exists_of_filterAuxM {α ε : Type} {test : α → Except ε Bool}
    {items kept result : List α} (ran : items.filterAuxM test kept = .ok result) :
    ∀ item ∈ items, ∃ flag, test item = .ok flag := by
  induction items generalizing kept with
  | nil => exact fun _ member => absurd member List.not_mem_nil
  | cons head rest ih =>
      rw [List.filterAuxM] at ran
      obtain ⟨flag, ofHead, ran⟩ := bind_eq_ok.mp ran
      intro item member
      rcases List.mem_cons.mp member with rfl | member
      · exact ⟨flag, ofHead⟩
      · exact ih ran item member

theorem positionsBlock_ok_iff (positionLedger : Source) :
    (∃ block, positionsBlock positionLedger = .ok block) ↔
      ∀ row ∈ positionRows positionLedger, ¬ Infinite (PyDict.get row "net_quantity") := by
  constructor
  · rintro ⟨block, made⟩ row member
    obtain ⟨openRows, filtered, _⟩ := bind_eq_ok.mp made
    unfold List.filterM at filtered
    obtain ⟨reversed, ran, _⟩ := bind_eq_ok.mp filtered
    obtain ⟨flag, tested⟩ := exists_of_filterAuxM ran row member
    obtain ⟨number, read, _⟩ := bind_eq_ok.mp tested
    exact (intOrZero_ok_iff _).mp ⟨number, read⟩
  · intro finite
    have read : ∀ row ∈ positionRows positionLedger,
        ∃ number, intOrZero (PyDict.get row "net_quantity") = .ok number :=
      fun row member => (intOrZero_ok_iff _).mpr (finite row member)
    have kept := @filterM_eq_ok_filter _ _ (fun row : PyDict => do
        let netQuantity ← intOrZero (row.get "net_quantity")
        pure (decide (netQuantity ≠ 0))) (positionRows positionLedger)
      (fun row => decide ((intOrZero (PyDict.get row "net_quantity")).toOption.getD 0 ≠ 0)) (by
        intro row member
        obtain ⟨number, found⟩ := read row member
        rw [found]
        rfl)
    refine exists_ok_bind kept ?_
    have readOpen : ∀ row ∈ (positionRows positionLedger).filter fun row =>
          decide ((intOrZero (PyDict.get row "net_quantity")).toOption.getD 0 ≠ 0),
        ∃ number, intOrZero (PyDict.get row "net_quantity") = .ok number :=
      fun row member => read row (List.mem_of_mem_filter member)
    obtain ⟨quantities, converted⟩ := mapM_exists readOpen
    exact exists_ok_bind converted ⟨_, rfl⟩

theorem positionsBlock_count {positionLedger : Source} {block : PositionsBlock}
    (made : positionsBlock positionLedger = .ok block) :
    block.positionCount = (positionRows positionLedger).length := by
  obtain ⟨openRows, _, made⟩ := bind_eq_ok.mp made
  obtain ⟨quantities, _, made⟩ := bind_eq_ok.mp made
  cases made
  rfl

theorem pnlBlock_ok_iff (rounding : ℚ → ℚ) (mtmPnl realizedPnl : Source) :
    (∃ block, pnlBlock rounding mtmPnl realizedPnl = .ok block) ↔
      (∀ key ∈ ["valued_position_count", "missing_mark_count"],
        ¬ Infinite ((summaryOf mtmPnl).get key)) ∧
      ∀ key ∈ ["event_count", "winning_event_count", "losing_event_count"],
        ¬ Infinite ((summaryOf realizedPnl).get key) := by
  simp only [List.forall_mem_cons, List.not_mem_nil, false_implies, implies_true, and_true,
    ← intOrZero_ok_iff]
  constructor
  · rintro ⟨block, made⟩
    obtain ⟨valued, ofValued, made⟩ := bind_eq_ok.mp made
    obtain ⟨missing, ofMissing, made⟩ := bind_eq_ok.mp made
    obtain ⟨events, ofEvents, made⟩ := bind_eq_ok.mp made
    obtain ⟨winning, ofWinning, made⟩ := bind_eq_ok.mp made
    obtain ⟨losing, ofLosing, _⟩ := bind_eq_ok.mp made
    exact ⟨⟨⟨_, ofValued⟩, _, ofMissing⟩, ⟨_, ofEvents⟩, ⟨_, ofWinning⟩, _, ofLosing⟩
  · rintro ⟨⟨⟨_, ofValued⟩, _, ofMissing⟩, ⟨_, ofEvents⟩, ⟨_, ofWinning⟩, _, ofLosing⟩
    refine exists_ok_bind ofValued ?_
    refine exists_ok_bind ofMissing ?_
    refine exists_ok_bind ofEvents ?_
    refine exists_ok_bind ofWinning ?_
    exact exists_ok_bind ofLosing ⟨_, rfl⟩

theorem pnlBlock_totals {mtmPnl realizedPnl : Source} {block : PnlBlock}
    (made : pnlBlock rounding mtmPnl realizedPnl = .ok block) :
    block.totalUnrealizedPnl = total mtmPnl.asDict "total_unrealized_pnl" ∧
      block.totalRealizedPnl = total realizedPnl.asDict "total_realized_pnl" := by
  obtain ⟨valued, _, made⟩ := bind_eq_ok.mp made
  obtain ⟨missing, _, made⟩ := bind_eq_ok.mp made
  obtain ⟨events, _, made⟩ := bind_eq_ok.mp made
  obtain ⟨winning, _, made⟩ := bind_eq_ok.mp made
  obtain ⟨losing, _, made⟩ := bind_eq_ok.mp made
  cases made
  exact ⟨rfl, rfl⟩

theorem slippageBlock_ok_iff (slippage : Source) :
    (∃ block, slippageBlock slippage = .ok block) ↔
      ∀ key ∈ ["event_count", "measured_quantity", "favorable_event_count",
        "unfavorable_event_count", "flat_event_count"], ¬ Infinite ((summaryOf slippage).get key) := by
  simp only [List.forall_mem_cons, List.not_mem_nil, false_implies, implies_true, and_true,
    ← intOrZero_ok_iff]
  constructor
  · rintro ⟨block, made⟩
    obtain ⟨events, ofEvents, made⟩ := bind_eq_ok.mp made
    obtain ⟨measured, ofMeasured, made⟩ := bind_eq_ok.mp made
    obtain ⟨favorable, ofFavorable, made⟩ := bind_eq_ok.mp made
    obtain ⟨unfavorable, ofUnfavorable, made⟩ := bind_eq_ok.mp made
    obtain ⟨flat, ofFlat, _⟩ := bind_eq_ok.mp made
    exact ⟨⟨_, ofEvents⟩, ⟨_, ofMeasured⟩, ⟨_, ofFavorable⟩, ⟨_, ofUnfavorable⟩, _, ofFlat⟩
  · rintro ⟨⟨_, ofEvents⟩, ⟨_, ofMeasured⟩, ⟨_, ofFavorable⟩, ⟨_, ofUnfavorable⟩, _, ofFlat⟩
    refine exists_ok_bind ofEvents ?_
    refine exists_ok_bind ofMeasured ?_
    refine exists_ok_bind ofFavorable ?_
    refine exists_ok_bind ofUnfavorable ?_
    exact exists_ok_bind ofFlat ⟨_, rfl⟩

theorem slippageBlock_figures {slippage : Source} {block : SlippageBlock}
    (made : slippageBlock slippage = .ok block) :
    intOrZero ((summaryOf slippage).get "event_count") = .ok block.slippageEventCount ∧
      block.totalSlippageAmount = total slippage.asDict "total_slippage_amount" := by
  obtain ⟨events, ofEvents, made⟩ := bind_eq_ok.mp made
  obtain ⟨measured, _, made⟩ := bind_eq_ok.mp made
  obtain ⟨favorable, _, made⟩ := bind_eq_ok.mp made
  obtain ⟨unfavorable, _, made⟩ := bind_eq_ok.mp made
  obtain ⟨flat, _, made⟩ := bind_eq_ok.mp made
  cases made
  exact ⟨ofEvents, rfl⟩

/-! ### The whole snapshot -/

theorem diagnostics_ready (sources : Sources) (warnings : List String) :
    (diagnostics sources warnings).missingSources = [] ∧
        (diagnostics sources warnings).degradedSources = [] ↔
      ∀ source ∈ [sources.mtmPnl, sources.realizedPnl, sources.slippage],
        source.isPresent = true ∧ isDegraded source = false := by
  simp only [diagnostics, List.map_eq_nil_iff, List.filter_eq_nil_iff, List.forall_mem_cons,
    List.not_mem_nil, false_implies, implies_true, and_true, Bool.not_eq_true', Bool.not_eq_false,
    Bool.and_eq_true, not_and, Bool.not_eq_true]
  constructor
  · rintro ⟨⟨mtm, realized, slippage⟩, mtmSound, realizedSound, slippageSound⟩
    exact ⟨⟨mtm, mtmSound mtm⟩, ⟨realized, realizedSound realized⟩, slippage,
      slippageSound slippage⟩
  · rintro ⟨mtm, realized, slippage⟩
    exact ⟨⟨mtm.1, realized.1, slippage.1⟩, fun _ => mtm.2, fun _ => realized.2,
      fun _ => slippage.2⟩

theorem snapshotStatus_ready (summary : Summary) (diagnostics : Diagnostics) :
    snapshotStatus summary diagnostics = .ready ↔
      ¬ (summary.positionCount = 0 ∧ summary.totalRealizedPnl.eq (.finite 0) = true ∧
        summary.slippageEventCount = 0) ∧
      diagnostics.missingSources = [] ∧ diagnostics.degradedSources = [] := by
  unfold snapshotStatus
  split
  · rename_i blank
    simp [blank]
  · rename_i reported
    split
    · rename_i impaired
      simp only [reduceCtorEq, false_iff]
      rintro ⟨_, missing, degraded⟩
      exact impaired.elim (fun some => some missing) (fun some => some degraded)
    · rename_i sound
      rw [not_or, not_not, not_not] at sound
      exact iff_of_true rfl ⟨reported, sound⟩

theorem blank_iff {positions : PositionsBlock} {pnl : PnlBlock} {slippage : SlippageBlock}
    (ofPositions : positionsBlock sources.positionLedger = .ok positions)
    (ofPnl : pnlBlock rounding sources.mtmPnl sources.realizedPnl = .ok pnl)
    (ofSlippage : slippageBlock sources.slippage = .ok slippage) :
    ((summary positions pnl slippage).positionCount = 0 ∧
        (summary positions pnl slippage).totalRealizedPnl.eq (.finite 0) = true ∧
        (summary positions pnl slippage).slippageEventCount = 0) ↔ Blank sources := by
  have count := positionsBlock_count ofPositions
  have events := (slippageBlock_figures ofSlippage).1
  unfold summary
  dsimp only
  rw [count, (pnlBlock_totals ofPnl).2]
  constructor
  · rintro ⟨positions, realized, slippage⟩
    refine ⟨List.length_eq_zero_iff.mp (by omega), realized, ?_⟩
    rw [events, slippage]
  · intro blank
    refine ⟨by rw [blank.positions]; rfl, blank.realized, ?_⟩
    exact Except.ok.inj (events.symm.trans blank.slippage)

theorem counts_finite_iff (sources : Sources) (rounding : ℚ → ℚ) :
    (∀ value ∈ counts sources, ¬ Infinite value) ↔
      (∃ block, positionsBlock sources.positionLedger = .ok block) ∧
        (∃ block, pnlBlock rounding sources.mtmPnl sources.realizedPnl = .ok block) ∧
        ∃ block, slippageBlock sources.slippage = .ok block := by
  rw [positionsBlock_ok_iff, pnlBlock_ok_iff, slippageBlock_ok_iff]
  unfold counts
  rw [List.forall_mem_append, List.forall_mem_append, List.forall_mem_append, List.forall_mem_map,
    List.forall_mem_map, List.forall_mem_map, List.forall_mem_map]
  exact ⟨fun ⟨⟨⟨positions, mtm⟩, realized⟩, slippage⟩ => ⟨positions, ⟨mtm, realized⟩, slippage⟩,
    fun ⟨positions, ⟨mtm, realized⟩, slippage⟩ => ⟨⟨⟨positions, mtm⟩, realized⟩, slippage⟩⟩

theorem unblocked_iff (present : ∀ source ∈ [sources.mtmPnl, sources.realizedPnl, sources.slippage],
      source.isPresent = true) :
    (validatePaperPerformanceSnapshotInputs sources).1 = [] ↔ Complete sources := by
  obtain ⟨mtm, realized, slippage, _⟩ := by
    simpa only [List.forall_mem_cons] using present
  unfold validatePaperPerformanceSnapshotInputs
  dsimp only
  rw [dedupe_append_eq_nil, dedupe_append_eq_nil, dedupe_append_eq_nil,
    positionLedgerBlockers_clear, validateOptionalSource_clear (by decide),
    validateOptionalSource_clear (by decide), validateOptionalSource_clear (by decide)]
  constructor
  · rintro ⟨⟨⟨ledger, ofMtm⟩, ofRealized⟩, ofSlippage⟩
    exact ⟨ledger.1, ledger.2, ofMtm mtm, ofRealized realized, ofSlippage slippage⟩
  · intro complete
    exact ⟨⟨⟨⟨complete.positionLedger, complete.positions⟩, fun _ => complete.mtmPnl⟩,
      fun _ => complete.realizedPnl⟩, fun _ => complete.slippage⟩

theorem ready_reported {tsEpoch : Option PyFloat} {result : PaperPerformanceSnapshotResult}
    (built : buildPaperPerformanceSnapshot rounding sources tsEpoch = .ok result)
    (ready : result.status = .ready) :
    Reported sources ∧ ∃ snapshot, result.snapshot = some snapshot ∧
      snapshot.summary.totalUnrealizedPnl = total sources.mtmPnl.asDict "total_unrealized_pnl" ∧
      snapshot.summary.totalRealizedPnl = total sources.realizedPnl.asDict "total_realized_pnl" ∧
      snapshot.summary.totalSlippageAmount = total sources.slippage.asDict "total_slippage_amount" := by
  unfold buildPaperPerformanceSnapshot at built
  dsimp only at built
  by_cases clear : (validatePaperPerformanceSnapshotInputs sources).1 = []
  · rw [if_neg (not_not.mpr clear)] at built
    obtain ⟨positions, ofPositions, built⟩ := bind_eq_ok.mp built
    obtain ⟨pnl, ofPnl, built⟩ := bind_eq_ok.mp built
    obtain ⟨slippage, ofSlippage, built⟩ := bind_eq_ok.mp built
    have made := Except.ok.inj built
    subst made
    obtain ⟨notBlank, sound⟩ := (snapshotStatus_ready _ _).mp ready
    rw [blank_iff ofPositions ofPnl ofSlippage] at notBlank
    have each := (diagnostics_ready sources _).mp sound
    obtain ⟨mtm, realized, slipped, _⟩ := by
      simpa only [List.forall_mem_cons] using each
    refine ⟨⟨?_, ?_, notBlank, mtm.2, realized.2, slipped.2⟩, _, rfl, ?_, ?_, ?_⟩
    · exact (unblocked_iff fun source member => (each source member).1).mp clear
    · exact (counts_finite_iff sources rounding).mpr
        ⟨⟨_, ofPositions⟩, ⟨_, ofPnl⟩, ⟨_, ofSlippage⟩⟩
    · exact (pnlBlock_totals ofPnl).1
    · exact (pnlBlock_totals ofPnl).2
    · exact (slippageBlock_figures ofSlippage).2
  · rw [if_pos clear] at built
    cases built
    cases ready

theorem exists_ready (rounding : ℚ → ℚ) (reported : Reported sources) (tsEpoch : Option PyFloat) :
    ∃ result, buildPaperPerformanceSnapshot rounding sources tsEpoch = .ok result ∧
      result.status = .ready := by
  have complete := reported.complete
  have each : ∀ source ∈ [sources.mtmPnl, sources.realizedPnl, sources.slippage],
      source.isPresent = true ∧ isDegraded source = false := by
    simp only [List.forall_mem_cons, List.not_mem_nil, false_implies, implies_true, and_true]
    exact ⟨⟨complete.mtmPnl.present, reported.mtmPnl⟩,
      ⟨complete.realizedPnl.present, reported.realizedPnl⟩, complete.slippage.present,
      reported.slippage⟩
  have clear := (unblocked_iff fun source member => (each source member).1).mpr complete
  obtain ⟨⟨positions, ofPositions⟩, ⟨pnl, ofPnl⟩, slippage, ofSlippage⟩ :=
    (counts_finite_iff sources rounding).mp reported.counted
  unfold buildPaperPerformanceSnapshot
  dsimp only
  rw [if_neg (not_not.mpr clear)]
  refine exists_bind_ok ofPositions ?_
  refine exists_bind_ok ofPnl ?_
  refine exists_bind_ok ofSlippage ⟨_, rfl, ?_⟩
  apply (snapshotStatus_ready _ _).mpr
  rw [blank_iff ofPositions ofPnl ofSlippage]
  exact ⟨reported.notBlank, (diagnostics_ready sources _).mpr each⟩

/-! ### Trust -/

def Impaired (sources : Sources) : Prop :=
  (∃ source ∈ sources.all, IsBlocked source) ∨ isDegraded sources.positionLedger = true

/-- A result keeps another total in its ledger or report than beside it. -/
def Misread (sources : Sources) : Prop :=
  total sources.realizedPnl.asDict "total_realized_pnl" ≠
      total (record sources.realizedPnl "ledger") "total_realized_pnl" ∨
    total sources.slippage.asDict "total_slippage_amount" ≠
      total (record sources.slippage "report") "total_slippage_amount"

/-- A ready snapshot of the sources can be trusted unless their snapshot is ready although
one of them is impaired or a total is read beside the record it belongs to. -/
theorem trusted_iff (rounding : ℚ → ℚ) (sources : Sources) :
    TrustedWhenReady rounding sources ↔
      ¬ (Reported sources ∧ (Impaired sources ∨ Misread sources)) := by
  constructor
  · rintro trusted ⟨reported, faulty⟩
    obtain ⟨result, built, ready⟩ := exists_ready rounding reported none
    obtain ⟨snapshot, stored, trust⟩ := trusted none result built ready
    obtain ⟨_, other, sameStored, _, realized, slippage⟩ := ready_reported built ready
    cases stored.symm.trans sameStored
    rcases faulty with impaired | misread
    · rcases impaired with ⟨source, member, blocked⟩ | degraded
      · exact (trust.sound source member).1 blocked
      · have sound := (trust.sound sources.positionLedger List.mem_cons_self).2
        rw [degraded] at sound
        cases sound
    · rcases misread with other | other
      · exact other (realized.symm.trans trust.realized)
      · exact other (slippage.symm.trans trust.slippage)
  · intro faultless tsEpoch result built ready
    obtain ⟨reported, snapshot, stored, unrealized, realized, slippage⟩ :=
      ready_reported built ready
    have sound := not_and.mp faultless reported
    rw [not_or] at sound
    obtain ⟨unimpaired, wellRead⟩ := sound
    unfold Impaired at unimpaired
    unfold Misread at wellRead
    rw [not_or] at unimpaired
    rw [not_or, not_not, not_not] at wellRead
    obtain ⟨unblocked, undegraded⟩ := unimpaired
    refine ⟨snapshot, stored, ?_, ?_, unrealized, realized.trans wellRead.1,
      slippage.trans wellRead.2⟩
    · have complete := reported.complete
      simp only [Sources.all, List.forall_mem_cons, List.not_mem_nil, false_implies, implies_true,
        and_true]
      exact ⟨complete.positionLedger.present, complete.mtmPnl.present,
        complete.realizedPnl.present, complete.slippage.present⟩
    · intro source member
      refine ⟨fun blocked => unblocked ⟨source, member, blocked⟩, ?_⟩
      simp only [Sources.all, List.mem_cons, List.not_mem_nil, or_false] at member
      rcases member with rfl | rfl | rfl | rfl
      · exact eq_false_of_ne_true undegraded
      · exact reported.mtmPnl
      · exact reported.realizedPnl
      · exact reported.slippage

end Algotradify.Paper.PerformanceSnapshot

/-! ### Results as sources -/

namespace Algotradify.Paper.RealizedPnl

open Py

def PaperRealizedPnlStatus.value : PaperRealizedPnlStatus → String
  | .realized => "REALIZED"
  | .noRealizedChange => "NO_REALIZED_CHANGE"
  | .empty => "EMPTY"
  | .blocked => "BLOCKED"

def PaperRealizedPnlResult.toDict (result : PaperRealizedPnlResult) : PyDict :=
  [("schema_version", .str "1.0"),
    ("ledger_type", .str "PAPER_REALIZED_PNL_LEDGER"),
    ("updated", .bool result.updated),
    ("status", .str result.status.value),
    ("ledger", .dict result.ledger),
    ("event", match result.event with
      | some event => if event.isEmpty then .none else .dict event
      | none => .none),
    ("realized_quantity", .int result.realizedQuantity),
    ("realized_pnl", .float result.realizedPnl),
    ("blockers", ofStrings result.blockers),
    ("warnings", ofStrings result.warnings),
    ("evidence", .dict result.evidence)] ++ safeFlags

end Algotradify.Paper.RealizedPnl

namespace Algotradify.Paper.Slippage

open Py

end Algotradify.Paper.Slippage

namespace Algotradify.Paper.PerformanceSnapshot

open Py RealizedPnl Slippage

section Example

private def heldLedger : PyDict :=
  [("ledger_type", .str "PAPER_POSITION_LEDGER"),
    ("positions", .dict [("NIFTY", .dict [("net_quantity", .int 10), ("side", .str "LONG")])])] ++
    safeFlags

private def valuedTracker : PyDict :=
  [("tracker_type", .str "PAPER_MTM_PNL_TRACKER"), ("status", .str "VALUED"),
    ("summary", .dict [("total_unrealized_pnl", .float (.finite 125))])] ++ safeFlags

private def measuredReport : PyDict :=
  [("report_type", .str "PAPER_SLIPPAGE_FILL_QUALITY"),
    ("summary", .dict [("event_count", .int 3), ("total_slippage_amount", .float (.finite 8))])] ++
    safeFlags

private def realizedResult : PaperRealizedPnlResult :=
  { updated := true
    status := .realized
    ledger := [("ledger_type", .str "PAPER_REALIZED_PNL_LEDGER"),
      ("summary", .dict [("event_count", .int 2),
        ("total_realized_pnl", .float (.finite 75))])] ++ safeFlags
    realizedPnl := .finite 75 }

private def givenSources : Sources :=
  { positionLedger := .dict heldLedger
    mtmPnl := .dict valuedTracker
    realizedPnl := .dict realizedResult.toDict
    slippage := .dict measuredReport }

/-- The snapshot is ready and says that nothing was realized. -/
theorem realized_result_untrusted : ¬ TrustedWhenReady id givenSources := by
  intro trusted
  obtain ⟨result, built, seen⟩ := Option.map_eq_some_iff.mp
    (show (buildPaperPerformanceSnapshot id givenSources none).toOption.map (fun result =>
      (result.status, result.snapshot.map fun snapshot =>
        snapshot.summary.totalRealizedPnl.eq (.finite 75))) = some (.ready, some false)
      by decide +kernel)
  obtain ⟨ready, shown⟩ := Prod.mk.inj seen
  obtain ⟨snapshot, stored, trust⟩ := trusted none result (eq_ok_of_toOption built) ready
  rw [stored, Option.map_some, trust.realized] at shown
  exact absurd shown (by decide +kernel)

end Example

end Algotradify.Paper.PerformanceSnapshot
