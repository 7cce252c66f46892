/-
The average slippage in basis points against the events it is an average of.

The report adds up the events that have a value in basis points and divides by the
quantity of all events. An event has no such value when its expected price is zero.
-/

import Algotradify.Accounting.WeightedAverage
import Algotradify.Backtest.FillModel
import Algotradify.Paper.SlippageAgreement

namespace Algotradify.Paper.Slippage

open Py PositionLedger RealizedPnl Transition Accounting

/-! ### What a report says -/

def bpsOf (event : PyDict) : Option PyFloat :=
  floatOrNone (event.get "slippage_bps")

def quantityOf (event : PyDict) : Int :=
  (intOrZero (event.get "measured_quantity")).toOption.getD 0

def eventsOf (report : PyValue) : List PyDict :=
  match report.asDict.get "events" with
  | .list items => items.map PyValue.asDict
  | _ => []

def bpsEvents (report : PyValue) : List (Int × PyFloat) :=
  (eventsOf report).filterMap fun event => (bpsOf event).map fun bps => (quantityOf event, bps)

def averageBps (report : PyValue) : PyFloat :=
  floatOrZero ((report.asDict.get "summary").asDict.get "weighted_average_slippage_bps")

def weightedSum (entries : List (Int × PyFloat)) : PyFloat :=
  entries.foldl (fun sum entry => sum + entry.2 * .ofInt entry.1) (.finite 0)

/-- The rounded weighted average of values, between the least and the greatest of them. -/
structure IsAverage (rounding : ℚ → ℚ) (entries : List (Int × PyFloat)) (average : PyFloat) :
    Prop where
  weighted : average =
    (weightedSum entries / .ofInt (entries.map Prod.fst).sum).roundWith rounding
  least : ∃ entry ∈ entries, entry.2.le average = true
  greatest : ∃ entry ∈ entries, average.le entry.2 = true

/-- The average of a report is the one of its events with a value, if there are any. -/
def AveragesTruly (rounding : ℚ → ℚ) (report : PyValue) : Prop :=
  bpsEvents report ≠ [] → IsAverage rounding (bpsEvents report) (averageBps report)

/-! ### One update -/

def bpsAt (rounding : ℚ → ℚ) (transactionType : String) (expected price : PyFloat) :
    Option PyFloat :=
  if expected.truthy then
    some ((slippagePerUnit rounding transactionType expected price / expected *
      .ofInt 10000).roundWith rounding)
  else none

inductive ReportUpdate (rounding : ℚ → ℚ) (before : PyValue) (input : SlippageInput)
    (book : SlippageBook) (report : PyDict) : Prop where
  | kept (same : report = book.toDict rounding)
  | keyed (cumulative : Int)
      (same : report = (book.record input.orderId cumulative []).toDict rounding)
  | measured (warnings : List String) (expected price : PyFloat) (entry : SlippageEntry)
      (valid : validatePaperSlippageInputs input.intent input.lifecycleEvent input.expectedPrice
        before = .ok ([], warnings))
      (isFill : input.IsFill) (fresh : book.filled input.orderId < input.level)
      (ofExpected : input.expected = some expected) (ofPrice : input.fillPrice = some price)
      (quantity : entry.quantity = input.level - book.filled input.orderId)
      (bps : bpsOf entry.event =
        bpsAt rounding (upperText (input.intent.asDict.get "transaction_type")) expected price)
      (same : report = (book.record input.orderId input.level [entry]).toDict rounding)

section Update

variable {rounding : ℚ → ℚ} {digest : String → String} {before : PyValue} {input : SlippageInput}
variable {book : SlippageBook} {result : PaperSlippageResult} {warnings : List String}
variable {evidence : PyDict}

private theorem measureFill_update {validWarnings : List String}
    (valid : validatePaperSlippageInputs input.intent input.lifecycleEvent input.expectedPrice
      before = .ok ([], validWarnings)) (isFill : input.IsFill)
    (fresh : book.filled input.orderId < input.level)
    (built : measureFill rounding digest input.intent.asDict input.lifecycleEvent.asDict
      (book.toDict rounding) input.expectedPrice input.tsEpoch (fillKey input.orderId input.level)
      input.level (input.level - book.filled input.orderId) warnings evidence = .ok result) :
    ReportUpdate rounding before input book result.report := by
  unfold measureFill at built
  split at built
  · rename_i expected price ofExpected ofPrice
    obtain ⟨report, appended, built⟩ := bind_eq_ok.mp built
    cases built
    have stored := SlippageBook.appendToReport_toDict rounding book
      [slippageEntry digest input.intent.asDict input.lifecycleEvent.asDict
        (fillKey input.orderId input.level) expected price
        (input.level - book.filled input.orderId)
        (slippagePerUnit rounding (upperText (input.intent.asDict.get "transaction_type")) expected
          price)
        ((slippagePerUnit rounding (upperText (input.intent.asDict.get "transaction_type")) expected
          price * .ofInt (input.level - book.filled input.orderId)).roundWith rounding)
        (bpsAt rounding (upperText (input.intent.asDict.get "transaction_type")) expected price)
        (input.tsEpoch.orElse fun _ => floatOrNone (input.lifecycleEvent.asDict.get "ts_epoch"))]
      input.orderId input.level
    refine .measured validWarnings expected price _ valid isFill fresh ofExpected ofPrice rfl ?_
      (Except.ok.inj (appended.symm.trans stored))
    change floatOrNone (ofOptionFloat (bpsAt _ _ _ _)) = _
    exact floatOrNone_ofOptionFloat _
  · cases built
    exact .kept rfl

private theorem reportFill_update {validWarnings : List String}
    (valid : validatePaperSlippageInputs input.intent input.lifecycleEvent input.expectedPrice
      before = .ok ([], validWarnings)) (isFill : input.IsFill)
    (built : reportFill rounding digest input.intent.asDict input.lifecycleEvent.asDict
      (book.toDict rounding) input.expectedPrice input.tsEpoch input.level
      (book.filled input.orderId) warnings evidence = .ok result) :
    ReportUpdate rounding before input book result.report := by
  unfold reportFill at built
  obtain ⟨keys, _, built⟩ := bind_eq_ok.mp built
  split at built
  · cases built
  · split at built
    · cases built
      exact .kept rfl
    · split at built
      · obtain ⟨report, appended, built⟩ := bind_eq_ok.mp built
        cases built
        have stored := SlippageBook.appendToReport_toDict rounding book [] input.orderId input.level
        exact .keyed input.level (Except.ok.inj (appended.symm.trans stored))
      · rename_i fresh
        exact measureFill_update valid isFill (by omega) built

theorem buildPaperSlippageReport_update
    (represents : safeReport rounding before = .ok (book.toDict rounding))
    (built : buildPaperSlippageReport rounding digest input.intent input.lifecycleEvent
      input.expectedPrice before input.tsEpoch = .ok result) :
    ReportUpdate rounding before input book result.report := by
  unfold buildPaperSlippageReport at built
  rw [represents] at built
  obtain ⟨⟨blockers, warnings⟩, valid, built⟩ := bind_eq_ok.mp built
  obtain ⟨report, same, built⟩ := bind_eq_ok.mp built
  cases same
  dsimp only at built
  by_cases clear : blockers = []
  · rw [if_neg (not_not.mpr clear)] at built
    rw [clear] at valid
    by_cases isFill : upperText (input.lifecycleEvent.asDict.get "status") ∈ fillEventStatuses
    · rw [if_neg (not_not.mpr isFill)] at built
      obtain ⟨cumulative, read, built⟩ := bind_eq_ok.mp built
      rw [SlippageBook.previousOrderFillQuantity_toDict] at built
      rw [← SlippageInput.level_of_read read] at built
      change (if input.level < book.filled input.orderId then _ else _) = _ at built
      split at built
      · cases built
        exact .kept rfl
      · exact reportFill_update valid isFill built
    · rw [if_pos isFill] at built
      cases built
      exact .kept rfl
  · rw [if_pos clear] at built
    cases built
    exact .kept rfl

end Update

/-! ### Books whose events all have a value -/

/-- The value in basis points of an event, zero when it has none. -/
def finiteBps (event : PyDict) : ℚ :=
  match bpsOf event with
  | some (.finite bps) => bps
  | _ => 0

structure Valued (rounding : ℚ → ℚ) (entry : SlippageEntry) : Prop where
  bps : bpsOf entry.event = some (.finite (finiteBps entry.event))
  round : rounding (finiteBps entry.event) = finiteBps entry.event
  quantity : 0 < entry.quantity

def valuesOf (entries : List SlippageEntry) : List (Int × ℚ) :=
  entries.map fun entry => (entry.quantity, finiteBps entry.event)

section Values

variable {rounding : ℚ → ℚ} {entries : List SlippageEntry}

theorem weight_valuesOf (entries : List SlippageEntry) :
    Weighted.weight (valuesOf entries) = (entries.map SlippageEntry.quantity).sum := by
  unfold Weighted.weight valuesOf
  rw [List.map_map]
  rfl

theorem weightedSum_finite (values : List (Int × ℚ)) :
    weightedSum (values.map fun value => (value.1, .finite value.2)) =
      .finite (Weighted.total values) := by
  induction values using List.reverseRecOn with
  | nil => rfl
  | append_singleton rest value ih =>
      unfold weightedSum at ih ⊢
      rw [List.map_append, List.foldl_append, ih, Weighted.total_snoc, mul_comm (value.1 : ℚ)]
      rfl

def addBps (sum : PyFloat) (entry : PyDict × Int) : PyFloat :=
  match floatOrNone (PyDict.get entry.1 "slippage_bps") with
  | some bps => sum + bps * .ofInt entry.2
  | none => sum

theorem numerator_valued (valued : ∀ entry ∈ entries, Valued rounding entry) :
    ((entries.map SlippageEntry.event).zip (entries.map SlippageEntry.quantity)).foldl addBps
      (.finite 0) = .finite (Weighted.total (valuesOf entries)) := by
  induction entries using List.reverseRecOn with
  | nil => rfl
  | append_singleton rest entry ih =>
      have own := (valued entry (List.mem_append_right _ (List.mem_singleton_self entry))).bps
      have others := ih fun other member => valued other (List.mem_append_left _ member)
      unfold bpsOf at own
      have split : valuesOf (rest ++ [entry]) =
          valuesOf rest ++ [(entry.quantity, finiteBps entry.event)] := List.map_append
      rw [List.map_append, List.map_append, List.zip_append (by simp), List.foldl_append, others,
        split, Weighted.total_snoc, mul_comm (Int.cast entry.quantity)]
      change addBps _ (entry.event, entry.quantity) = _
      unfold addBps
      dsimp only
      rw [own]
      rfl

theorem weight_pos_of_valued (valued : ∀ entry ∈ entries, Valued rounding entry)
    (some : entries ≠ []) : 0 < Weighted.weight (valuesOf entries) := by
  apply Weighted.weight_pos
  · intro value member
    obtain ⟨entry, listed, rfl⟩ := List.mem_map.mp member
    exact (valued entry listed).quantity
  · intro empty
    exact some (List.map_eq_nil_iff.mp empty)

theorem bpsEvents_toDict {book : SlippageBook}
    (valued : ∀ entry ∈ book.entries, Valued rounding entry) :
    bpsEvents (.dict (book.toDict rounding)) =
      (valuesOf book.entries).map fun value => (value.1, .finite value.2) := by
  change ((book.entries.map fun entry => PyValue.dict entry.event).map PyValue.asDict).filterMap _ = _
  rw [List.map_map, List.filterMap_map, valuesOf, List.map_map, ← List.filterMap_eq_map]
  apply List.filterMap_congr
  intro entry member
  change (bpsOf entry.event).map (fun bps => (quantityOf entry.event, bps)) = some _
  have quantity : quantityOf entry.event = entry.quantity := by
    unfold quantityOf
    rw [entry.storesQuantity]
    rfl
  rw [(valued entry member).bps, Option.map_some, quantity]
  rfl

theorem averageBps_toDict {book : SlippageBook}
    (valued : ∀ entry ∈ book.entries, Valued rounding entry) (some : book.entries ≠ []) :
    averageBps (.dict (book.toDict rounding)) = .finite (rounding
      (Weighted.total (valuesOf book.entries) / Weighted.weight (valuesOf book.entries))) := by
  have positive := weight_pos_of_valued valued some
  change floatOrZero (.float (weightedAverageBps rounding _ _)) = _
  unfold weightedAverageBps
  rw [floatOrZero_float, ← weight_valuesOf, if_neg positive.ne']
  change (List.foldl addBps _ _ / _).roundWith rounding = _
  rw [numerator_valued valued]
  rfl

theorem averagesTruly_of_valued (rounds : Rounds rounding) {book : SlippageBook}
    (valued : ∀ entry ∈ book.entries, Valued rounding entry) :
    AveragesTruly rounding (.dict (book.toDict rounding)) := by
  intro some
  rw [bpsEvents_toDict valued] at some ⊢
  have listed : valuesOf book.entries ≠ [] := mt List.map_eq_nil_iff.mpr some
  have entered : book.entries ≠ [] := mt List.map_eq_nil_iff.mpr listed
  have positive : (0 : ℚ) < Weighted.weight (valuesOf book.entries) :=
    Int.cast_pos.mpr (weight_pos_of_valued valued entered)
  have nonneg : ∀ value ∈ valuesOf book.entries, 0 ≤ value.1 := by
    intro value member
    obtain ⟨entry, among, rfl⟩ := List.mem_map.mp member
    exact (valued entry among).quantity.le
  have round : ∀ value ∈ valuesOf book.entries, rounding value.2 = value.2 := by
    intro value member
    obtain ⟨entry, among, rfl⟩ := List.mem_map.mp member
    exact (valued entry among).round
  rw [averageBps_toDict valued entered]
  refine ⟨?_, ?_, ?_⟩
  · rw [weightedSum_finite, List.map_map]
    rfl
  · obtain ⟨least, member, below⟩ := Weighted.exists_mul_weight_le_total nonneg listed
    refine ⟨_, List.mem_map_of_mem member, ?_⟩
    rw [PyFloat.finite_le]
    exact rounds.le_of_le (round least member) ((le_div_iff₀ positive).mpr below)
  · obtain ⟨greatest, member, above⟩ := Weighted.exists_total_le_mul_weight nonneg listed
    refine ⟨_, List.mem_map_of_mem member, ?_⟩
    rw [PyFloat.finite_le]
    exact rounds.le_of_ge (round greatest member) ((div_le_iff₀ positive).mpr above)

end Values

/-! ### Runs -/

def ReportStep (rounding : ℚ → ℚ) (digest : String → String) (before : PyValue)
    (input : SlippageInput) (after : PyValue) : Prop :=
  ∃ result, buildPaperSlippageReport rounding digest input.intent input.lifecycleEvent
    input.expectedPrice before input.tsEpoch = .ok result ∧ after = .dict result.report

/-- A valid fill that is new to the report has finite prices and does not expect zero. -/
def Measurable (before : PyValue) (input : SlippageInput) : Prop :=
  (∃ warnings, validatePaperSlippageInputs input.intent input.lifecycleEvent input.expectedPrice
      before = .ok ([], warnings)) →
    input.IsFill → orderFillOf before input.orderId < input.level →
    ∀ expected price, input.expected = some expected → input.fillPrice = some price →
      ∃ expectedNumber priceNumber : ℚ, expected = .finite expectedNumber ∧ expectedNumber ≠ 0 ∧
        price = .finite priceNumber

structure Stands (rounding : ℚ → ℚ) (report : PyValue) (book : SlippageBook) : Prop where
  stored : report = .dict (book.toDict rounding) ∨ report = .none ∧ book = {}
  valued : ∀ entry ∈ book.entries, Valued rounding entry

section Run

variable {rounding : ℚ → ℚ} {digest : String → String} {before after : PyValue}
variable {input : SlippageInput} {book : SlippageBook}

theorem Stands.safeReport (stands : Stands rounding before book) :
    Slippage.safeReport rounding before = .ok (book.toDict rounding) := by
  rcases stands.stored with same | ⟨missing, rfl⟩
  · rw [same]
    rfl
  · rw [missing]
    rfl

theorem Stands.filled (stands : Stands rounding before book) (orderId : String) :
    orderFillOf before orderId = book.filled orderId := by
  rcases stands.stored with same | ⟨missing, rfl⟩
  · rw [same]
    change intValue (PyDict.get book.fillEntries orderId) = _
    simp only [PyDict.get, SlippageBook.fillEntries, Assoc.lookup_mapValues, SlippageBook.filled]
    cases book.orderFills.lookup orderId <;> rfl
  · rw [missing]
    rfl

theorem bpsAt_finite (rounds : Rounds rounding) (transactionType : String) {expected price : ℚ}
    (nonzero : expected ≠ 0) : ∃ bps : ℚ,
      bpsAt rounding transactionType (.finite expected) (.finite price) = some (.finite bps) ∧
        rounding bps = bps := by
  have perUnit : ∃ value : ℚ,
      slippagePerUnit rounding transactionType (.finite expected) (.finite price) =
        .finite value := by
    unfold slippagePerUnit
    split
    · exact ⟨_, rfl⟩
    · split
      · exact ⟨_, rfl⟩
      · exact ⟨0, rfl⟩
  obtain ⟨value, found⟩ := perUnit
  unfold bpsAt
  have truthy : (PyFloat.finite expected).truthy = true := decide_eq_true nonzero
  rw [if_pos truthy, found]
  exact ⟨_, rfl, rounds.stable _⟩

theorem Stands.step (rounds : Rounds rounding) (stands : Stands rounding before book)
    (stepped : ReportStep rounding digest before input after)
    (measurable : Measurable before input) : ∃ next, Stands rounding after next := by
  obtain ⟨result, built, rfl⟩ := stepped
  cases buildPaperSlippageReport_update stands.safeReport built with
  | kept same =>
      rw [same]
      exact ⟨book, .inl rfl, stands.valued⟩
  | keyed cumulative same =>
      rw [same]
      refine ⟨_, .inl rfl, ?_⟩
      intro entry member
      rw [SlippageBook.record, List.append_nil] at member
      exact stands.valued entry member
  | measured warnings expected price added valid isFill fresh ofExpected ofPrice quantity bps same =>
      rw [same]
      refine ⟨_, .inl rfl, ?_⟩
      intro entry member
      rcases List.mem_append.mp member with earlier | last
      · exact stands.valued entry earlier
      · rw [List.mem_singleton.mp last]
        rw [← stands.filled] at fresh quantity
        obtain ⟨expectedNumber, priceNumber, rfl, nonzero, rfl⟩ :=
          measurable ⟨warnings, valid⟩ isFill fresh expected price ofExpected ofPrice
        obtain ⟨value, found, round⟩ := @bpsAt_finite _ rounds
          (upperText (input.intent.asDict.get "transaction_type")) expectedNumber priceNumber nonzero
        have own : bpsOf added.event = some (.finite value) := bps.trans found
        have read : finiteBps added.event = value := by
          unfold finiteBps
          rw [own]
        refine ⟨?_, ?_, by omega⟩
        · rw [read, own]
        · rw [read, round]

end Run

/-- `round(value, 6)`. -/
def roundSix : ℚ → ℚ :=
  Backtest.roundPlaces 6

theorem rounds_roundSix : Rounds roundSix :=
  rounds_grid (by norm_num) (fun _ _ => roundHalfEven_mono) roundHalfEven_int

/-- In every run from an empty report whose new fills have finite prices and expect no zero,
the average is the weighted one of its events. -/
theorem average_bps_of_measurable {digest : String → String} {start finish : PyValue}
    {inputs : List SlippageInput}
    (starts : start = .none ∨ start = .dict (({} : SlippageBook).toDict roundSix))
    (run : Run (fun before input after => ReportStep roundSix digest before input after ∧
      Measurable before input) start inputs finish) : AveragesTruly roundSix finish := by
  have standing : ∃ book, Stands roundSix finish book := by
    refine run.invariant (motive := fun report => ∃ book, Stands roundSix report book) ?_ ?_
    · refine ⟨{}, ?_, fun entry member => absurd member List.not_mem_nil⟩
      rcases starts with missing | empty
      · exact .inr ⟨missing, rfl⟩
      · exact .inl empty
    · rintro before input after ⟨book, stands⟩ ⟨stepped, measurable⟩
      exact stands.step rounds_roundSix stepped measurable
  obtain ⟨book, stored, valued⟩ := standing
  rcases stored with same | ⟨missing, _⟩
  · rw [same]
    exact averagesTruly_of_valued rounds_roundSix valued
  · rw [missing]
    exact fun some => absurd rfl some

section Example

private def reportAfter (before : PyValue) (input : SlippageInput) : PyValue :=
  .dict (((buildPaperSlippageReport roundSix id input.intent input.lifecycleEvent
    input.expectedPrice before input.tsEpoch).toOption.map PaperSlippageResult.report).getD [])

private theorem reportAfter_step {before : PyValue} {input : SlippageInput}
    (returns : (buildPaperSlippageReport roundSix id input.intent input.lifecycleEvent
      input.expectedPrice before input.tsEpoch).toOption.isSome = true) :
    ReportStep roundSix id before input (reportAfter before input) := by
  obtain ⟨result, built⟩ := Option.isSome_iff_exists.mp returns
  refine ⟨result, eq_ok_of_toOption built, ?_⟩
  unfold reportAfter
  rw [built]
  rfl

private def fillAgainst (orderId : String) (expected : Int) : SlippageInput :=
  { intent := exampleIntent orderId "BUY" 10
    lifecycleEvent := exampleFill orderId 10 101
    expectedPrice := .int expected }

private theorem fillAgainst_measurable (before : PyValue) (orderId : String) {expected : Int}
    (nonzero : expected ≠ 0) : Measurable before (fillAgainst orderId expected) := by
  intro _ _ _ expectedPrice price ofExpected ofPrice
  exact ⟨expected, 101, (Option.some.inj ofExpected).symm, Int.cast_ne_zero.mpr nonzero,
    (Option.some.inj ofPrice).symm⟩

/-- One of two fills of ten expects zero: the average is half of the only value there is. -/
theorem zero_expectation_dilutes : ∃ finish,
    Run (ReportStep roundSix id) .none [fillAgainst "first" 100, fillAgainst "second" 0] finish ∧
      bpsEvents finish = [(10, .finite 100)] ∧ averageBps finish = .finite 50 ∧
      ¬ AveragesTruly roundSix finish := by
  have first : ReportStep roundSix id .none (fillAgainst "first" 100)
      (reportAfter .none (fillAgainst "first" 100)) := reportAfter_step (by decide +kernel)
  have second : ReportStep roundSix id (reportAfter .none (fillAgainst "first" 100))
      (fillAgainst "second" 0) (reportAfter (reportAfter .none (fillAgainst "first" 100))
        (fillAgainst "second" 0)) := reportAfter_step (by decide +kernel)
  have events : bpsEvents (reportAfter (reportAfter .none (fillAgainst "first" 100))
      (fillAgainst "second" 0)) = [(10, .finite 100)] := by decide +kernel
  have average : averageBps (reportAfter (reportAfter .none (fillAgainst "first" 100))
      (fillAgainst "second" 0)) = .finite 50 := by decide +kernel
  refine ⟨_, .cons first (.cons second .nil), events, average, ?_⟩
  intro truly
  obtain ⟨entry, member, below⟩ := (truly (by rw [events]; exact List.cons_ne_nil _ _)).least
  rw [events, List.mem_singleton] at member
  rw [member, average, PyFloat.finite_le] at below
  exact absurd below (by norm_num)

theorem average_bps_twoFills : ∃ finish,
    Run (fun before input after => ReportStep roundSix id before input after ∧
      Measurable before input) .none [fillAgainst "first" 100, fillAgainst "second" 50] finish ∧
      AveragesTruly roundSix finish := by
  have first : ReportStep roundSix id .none (fillAgainst "first" 100)
      (reportAfter .none (fillAgainst "first" 100)) := reportAfter_step (by decide +kernel)
  have second : ReportStep roundSix id (reportAfter .none (fillAgainst "first" 100))
      (fillAgainst "second" 50) (reportAfter (reportAfter .none (fillAgainst "first" 100))
        (fillAgainst "second" 50)) := reportAfter_step (by decide +kernel)
  have run : Run (fun before input after => ReportStep roundSix id before input after ∧
      Measurable before input) .none [fillAgainst "first" 100, fillAgainst "second" 50] _ :=
    .cons ⟨first, fillAgainst_measurable _ _ (by decide)⟩
      (.cons ⟨second, fillAgainst_measurable _ _ (by decide)⟩ .nil)
  exact ⟨_, run, average_bps_of_measurable (.inl rfl) run⟩

end Example

end Algotradify.Paper.Slippage
