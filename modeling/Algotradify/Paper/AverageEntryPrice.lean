/-
The average entry price of a position, over runs of the position ledger.

The fills since a position was flat, with what a reversal left over as the first of them,
decide the average price. A reversing fill without a price is the exception: it leaves
the average price of the other side.
-/

import Algotradify.Paper.PositionConservation

namespace Algotradify.Paper.PositionLedger

open Py Transition

/-- A fill of a position: the signed quantity, and the price where one is known. -/
structure KeyFill where
  quantity : Int
  price : Option PyFloat
deriving DecidableEq

def fillOn (rounding : ℚ → ℚ) (digest : String → String) (key : String) (ledger : PyValue)
    (input : LedgerInput) : Option KeyFill :=
  match buildPaperPositionLedger rounding digest input.intent input.lifecycleEvent ledger
      input.tsEpoch with
  | .ok result =>
      if result.updated = true ∧ key = positionKey input.intent.asDict then
        some ⟨result.signedDeltaQuantity,
          floatOrNone (input.lifecycleEvent.asDict.get "average_fill_price")⟩
      else none
  | .error _ => none

def fillsOn (rounding : ℚ → ℚ) (digest : String → String) (key : String) :
    PyValue → List LedgerInput → List KeyFill
  | _, [] => []
  | ledger, input :: rest =>
      (fillOn rounding digest key ledger input).toList ++
        fillsOn rounding digest key (ledgerAfter rounding digest ledger input) rest

def ledgerOf (rounding : ℚ → ℚ) (digest : String → String) (start : PyValue)
    (inputs : List LedgerInput) : PyValue :=
  inputs.foldl (ledgerAfter rounding digest) start

def averageEntryPriceOf (ledger : PyValue) (key : String) : Option PyFloat :=
  floatOrNone (((positionsOf ledger).get key).asDict.get "average_entry_price")

/-! ### A position and its fills -/

abbrev Holding := Int × Option PyFloat

def Holding.fill (rounding : ℚ → ℚ) (holding : Holding) (fill : KeyFill) : Holding :=
  (holding.1 + fill.quantity,
    nextAveragePrice rounding holding.1 holding.2 fill.quantity fill.price)

def holdingOf (rounding : ℚ → ℚ) (fills : List KeyFill) : Holding :=
  fills.foldl (Holding.fill rounding) (0, none)

def Reverses (net : Int) (fill : KeyFill) : Prop :=
  net * (net + fill.quantity) < 0

instance (net : Int) (fill : KeyFill) : Decidable (Reverses net fill) :=
  inferInstanceAs (Decidable (_ < _))

/-- The net quantity, and the fills since the position was flat. What a reversing fill
leaves over is the first of them. -/
def sinceFlatAfter (state : Int × List KeyFill) (fill : KeyFill) : Int × List KeyFill :=
  if state.1 + fill.quantity = 0 then (0, [])
  else if Reverses state.1 fill then
    (state.1 + fill.quantity, [⟨state.1 + fill.quantity, fill.price⟩])
  else (state.1 + fill.quantity, state.2 ++ [fill])

def sinceFlat (fills : List KeyFill) : Int × List KeyFill :=
  fills.foldl sinceFlatAfter (0, [])

def ReversalsPriced (rounding : ℚ → ℚ) (fills : List KeyFill) : Prop :=
  ∀ earlier fill later, fills = earlier ++ fill :: later →
    Reverses (holdingOf rounding earlier).1 fill → fill.price = none →
    (holdingOf rounding earlier).2 = none

section Fills

variable {rounding : ℚ → ℚ}

theorem holdingOf_snoc (fills : List KeyFill) (fill : KeyFill) :
    holdingOf rounding (fills ++ [fill]) = (holdingOf rounding fills).fill rounding fill := by
  unfold holdingOf
  rw [List.foldl_append, List.foldl_cons, List.foldl_nil]

theorem sinceFlat_snoc (fills : List KeyFill) (fill : KeyFill) :
    sinceFlat (fills ++ [fill]) = sinceFlatAfter (sinceFlat fills) fill := by
  unfold sinceFlat
  rw [List.foldl_append, List.foldl_cons, List.foldl_nil]

theorem Reverses.larger {net : Int} {fill : KeyFill} (reverses : Reverses net fill) :
    net * fill.quantity < 0 ∧ fill.quantity.natAbs > net.natAbs := by
  unfold Reverses at reverses
  rcases mul_neg_iff.mp reverses with ⟨long, short⟩ | ⟨short, long⟩
  · exact ⟨mul_neg_of_pos_of_neg long (by omega), by omega⟩
  · exact ⟨mul_neg_of_neg_of_pos short (by omega), by omega⟩

theorem nextAveragePrice_of_reverses {net : Int} {fill : KeyFill} (average : Option PyFloat)
    (reverses : Reverses net fill) (clean : fill.price = none → average = none) :
    nextAveragePrice rounding net average fill.quantity fill.price = fill.price := by
  have notFlat : ¬ net + fill.quantity = 0 := by
    intro flat
    unfold Reverses at reverses
    rw [flat, mul_zero] at reverses
    exact absurd reverses (lt_irrefl 0)
  unfold nextAveragePrice
  rw [if_neg notFlat]
  cases price : fill.price with
  | none =>
      rw [clean price]
  | some own =>
      dsimp only
      rw [if_pos (.inr reverses.larger)]

/-- The fills since the position was flat make the holding. -/
theorem holdingOf_eq_sinceFlat {fills : List KeyFill} (priced : ReversalsPriced rounding fills) :
    holdingOf rounding fills = holdingOf rounding (sinceFlat fills).2 ∧
      (holdingOf rounding fills).1 = (sinceFlat fills).1 := by
  induction fills using List.reverseRecOn with
  | nil => exact ⟨rfl, rfl⟩
  | append_singleton rest fill ih =>
      obtain ⟨same, net⟩ := ih (by
        intro earlier other later split
        exact priced earlier other (later ++ [fill]) (by rw [split, List.append_assoc]; rfl))
      have clean := priced rest fill [] rfl
      rw [holdingOf_snoc, sinceFlat_snoc]
      unfold sinceFlatAfter
      rw [← net]
      by_cases flat : (holdingOf rounding rest).1 + fill.quantity = 0
      · rw [if_pos flat]
        constructor
        · unfold Holding.fill nextAveragePrice
          rw [flat, if_pos rfl]
          rfl
        · exact flat
      · rw [if_neg flat]
        by_cases reverses : Reverses (holdingOf rounding rest).1 fill
        · rw [if_pos reverses]
          refine ⟨?_, rfl⟩
          unfold Holding.fill
          rw [nextAveragePrice_of_reverses _ reverses (clean reverses)]
          change _ = (0 + _, nextAveragePrice rounding 0 none _ fill.price)
          rw [zero_add]
          unfold nextAveragePrice
          rw [zero_add, if_neg flat]
          cases fill.price <;> simp
        · rw [if_neg reverses]
          refine ⟨?_, rfl⟩
          rw [same, holdingOf_snoc]

end Fills

/-! ### The holding behind a ledger -/

section Ledger

variable {rounding : ℚ → ℚ} {digest : String → String}

def Book.holding (book : Book) (key : String) : Holding :=
  (book.net key, book.average key)

theorem Represents.averageEntryPriceOf {ledger : PyValue} {book : Book}
    (represents : Represents ledger book) (key : String) :
    averageEntryPriceOf ledger key = book.average key := by
  unfold PositionLedger.averageEntryPriceOf
  rw [represents.positionsOf]
  simp only [PyDict.get, Book.positionEntries, Assoc.lookup_mapValues, Book.average]
  cases book.positions.lookup key with
  | none => rfl
  | some position => exact floatOrNone_ofOptionFloat position.averageEntryPrice

theorem holding_step {ledger : PyValue} {book : Book} (represents : Represents ledger book)
    (key : String) (input : LedgerInput) :
    ∃ after : Book, Represents (ledgerAfter rounding digest ledger input) after ∧
      after.holding key = (fillOn rounding digest key ledger input).toList.foldl
        (Holding.fill rounding) (book.holding key) := by
  unfold ledgerAfter fillOn
  cases built : buildPaperPositionLedger rounding digest input.intent input.lifecycleEvent ledger
      input.tsEpoch with
  | error raised => exact ⟨book, represents, rfl⟩
  | ok result =>
      dsimp only
      have unchanged : result.updated = false → result.ledger = book.toDict →
          ∃ after : Book, Represents (.dict result.ledger) after ∧
            after.holding key = (if result.updated = true ∧
                key = positionKey input.intent.asDict then
              some (KeyFill.mk result.signedDeltaQuantity
                (floatOrNone (input.lifecycleEvent.asDict.get "average_fill_price")))
              else none).toList.foldl (Holding.fill rounding) (book.holding key) := by
        intro updated same
        have none : ¬ (result.updated = true ∧ key = positionKey input.intent.asDict) := by
          rw [updated]
          exact fun both => Bool.false_ne_true both.1
        rw [if_neg none]
        exact ⟨book, .inl (congrArg PyValue.dict same), rfl⟩
      cases buildPaperPositionLedger_outcome represents.safeLedger built with
      | invalid _ _ _ _ _ updated same => exact unchanged updated same
      | notFill _ _ updated same => exact unchanged updated same
      | stale _ _ _ _ _ updated same => exact unchanged updated same
      | filled cumulative _ _ _ _ _ updated same signedDelta =>
          refine ⟨_, .inl (congrArg PyValue.dict same), ?_⟩
          unfold Book.holding
          rw [Book.net_record, Book.average_record]
          by_cases own : key = positionKey input.intent.asDict
          · rw [if_pos own, if_pos own, if_pos ⟨updated, own⟩, signedDelta]
            rfl
          · rw [if_neg own, if_neg own, if_neg fun both => own both.2]
            rfl

theorem holding_run (key : String) (inputs : List LedgerInput) {start : PyValue} {book : Book}
    (represents : Represents start book) :
    ∃ after : Book, Represents (ledgerOf rounding digest start inputs) after ∧
      after.holding key = (fillsOn rounding digest key start inputs).foldl
        (Holding.fill rounding) (book.holding key) := by
  induction inputs generalizing start book with
  | nil => exact ⟨book, represents, rfl⟩
  | cons input rest ih =>
      obtain ⟨middle, held, first⟩ := @holding_step rounding digest start book represents key input
      obtain ⟨after, reached, later⟩ := ih held
      refine ⟨after, reached, ?_⟩
      rw [later, first, fillsOn, List.foldl_append]

theorem averageEntryPriceOf_run {start : PyValue} (starts : StartsEmpty start) (key : String)
    (inputs : List LedgerInput) :
    averageEntryPriceOf (ledgerOf rounding digest start inputs) key =
      (holdingOf rounding (fillsOn rounding digest key start inputs)).2 := by
  obtain ⟨after, represents, holding⟩ :=
    @holding_run rounding digest key inputs start {} starts.represents
  rw [represents.averageEntryPriceOf]
  exact congrArg Prod.snd holding

end Ledger

/-! ### Two runs -/

/-- Two runs with the same fills since the position was flat end with the same average
price, when their reversals are priced; after a reversal it is the price of the fill. -/
theorem average_forgets {rounding : ℚ → ℚ} {digest : String → String} {key : String}
    {start other : PyValue} {inputs others : List LedgerInput} (starts : StartsEmpty start)
    (starts' : StartsEmpty other)
    (priced : ReversalsPriced rounding (fillsOn rounding digest key start inputs))
    (priced' : ReversalsPriced rounding (fillsOn rounding digest key other others)) :
    ((sinceFlat (fillsOn rounding digest key start inputs)).2 =
        (sinceFlat (fillsOn rounding digest key other others)).2 →
      averageEntryPriceOf (ledgerOf rounding digest start inputs) key =
        averageEntryPriceOf (ledgerOf rounding digest other others) key) ∧
    ∀ earlier fill, fillsOn rounding digest key start inputs = earlier ++ [fill] →
      Reverses (holdingOf rounding earlier).1 fill →
      averageEntryPriceOf (ledgerOf rounding digest start inputs) key = fill.price := by
  rw [averageEntryPriceOf_run starts, averageEntryPriceOf_run starts']
  constructor
  · intro same
    rw [(holdingOf_eq_sinceFlat priced).1, (holdingOf_eq_sinceFlat priced').1, same]
  · intro earlier fill last reverses
    have clean := priced earlier fill [] last reverses
    rw [last, holdingOf_snoc]
    exact nextAveragePrice_of_reverses _ reverses clean

def unpricedFill (id : String) (filled : Int) : PyValue :=
  .dict ([("event_type", .str "PAPER_ORDER_LIFECYCLE_EVENT"), ("paper_order_id", .str id),
    ("paper_order_intent_id", .str id), ("candidate_id", .str "c1"), ("status", .str "FILLED"),
    ("filled_quantity", .int filled)] ++ safeFlags)

/-- Ten are bought with a price or without one, and fifteen sold without one. -/
def reversed (entry : PyValue) : List LedgerInput :=
  [{ intent := exampleIntent "entry" "BUY" 10, lifecycleEvent := entry },
    { intent := exampleIntent "exit" "SELL" 15, lifecycleEvent := unpricedFill "exit" 15 }]

/-- A short position of five carries the price at which ten were bought. -/
theorem reversal_keeps_average :
    (sinceFlat (fillsOn id id "12345" .none (reversed (exampleFill "entry" 10 100)))).2 =
        (sinceFlat (fillsOn id id "12345" .none (reversed (unpricedFill "entry" 10)))).2 ∧
      averageEntryPriceOf (ledgerOf id id .none (reversed (exampleFill "entry" 10 100))) "12345" =
        some (.finite 100) ∧
      averageEntryPriceOf (ledgerOf id id .none (reversed (unpricedFill "entry" 10))) "12345" =
        none := by
  decide +kernel

def repriced (price : ℚ) : List LedgerInput :=
  [{ intent := exampleIntent "entry" "BUY" 10, lifecycleEvent := exampleFill "entry" 10 price },
    { intent := exampleIntent "exit" "SELL" 15, lifecycleEvent := exampleFill "exit" 15 110 }]

theorem repriced_fills (price : ℚ) (either : price ∈ ([100, 104] : List ℚ)) :
    fillsOn id id "12345" .none (repriced price) =
      [⟨10, some (.finite price)⟩, ⟨-15, some (.finite 110)⟩] := by
  revert price
  decide +kernel

theorem average_forgets_repriced :
    averageEntryPriceOf (ledgerOf id id .none (repriced 100)) "12345" =
      averageEntryPriceOf (ledgerOf id id .none (repriced 104)) "12345" := by
  have priced : ∀ price ∈ ([100, 104] : List ℚ),
      ReversalsPriced id (fillsOn id id "12345" .none (repriced price)) := by
    intro price either earlier fill later split _reverses unpriced
    have member : fill ∈ fillsOn id id "12345" .none (repriced price) := by
      rw [split]
      exact List.mem_append_right _ List.mem_cons_self
    rw [repriced_fills price either] at member
    rcases List.mem_cons.mp member with own | rest
    · rw [own] at unpriced
      cases unpriced
    · rw [List.mem_singleton.mp rest] at unpriced
      cases unpriced
  refine (average_forgets (.inl rfl) (.inl rfl) (priced 100 (by simp)) (priced 104 (by simp))).1 ?_
  rw [repriced_fills 100 (by simp), repriced_fills 104 (by simp)]
  rfl

end Algotradify.Paper.PositionLedger
