/-
Conservation over runs of the position ledger.

Each order belongs to one side and one position key. Then the net quantity of a
key is the signed sum of the cumulative fills of its orders, after any sequence
of updates, whatever is repeated, regressed, blocked or raised in between.
-/

import Algotradify.Paper.PositionLedger
import Algotradify.Transition.Run

namespace Algotradify.Paper.PositionLedger

open Py Transition

structure LedgerInput where
  intent : PyValue
  lifecycleEvent : PyValue
  tsEpoch : Option PyFloat := none

def ledgerAfter (rounding : ℚ → ℚ) (digest : String → String) (ledger : PyValue)
    (input : LedgerInput) : PyValue :=
  match buildPaperPositionLedger rounding digest input.intent input.lifecycleEvent ledger
      input.tsEpoch with
  | .ok result => .dict result.ledger
  | .error _ => ledger

def LedgerStep (rounding : ℚ → ℚ) (digest : String → String) (before : PyValue)
    (input : LedgerInput) (after : PyValue) : Prop :=
  after = ledgerAfter rounding digest before input

def StartsEmpty (ledger : PyValue) : Prop :=
  ledger = .none ∨ ledger = .dict (buildLedger [] [] .none)

/-! ### Reading a ledger record -/

def positionsOf (ledger : PyValue) : PyDict :=
  (ledger.asDict.get "positions").asDict

def orderFillsOf (ledger : PyValue) : PyDict :=
  (ledger.asDict.get "order_fills").asDict

def intValue : PyValue → Int
  | .int value => value
  | _ => 0

def netQuantityOf (ledger : PyValue) (key : String) : Int :=
  intValue (((positionsOf ledger).get key).asDict.get "net_quantity")

def orderFillOf (ledger : PyValue) (orderId : String) : Int :=
  intValue ((orderFillsOf ledger).get orderId)

def signedFill (sideOf : String → String) (orderId : String) (quantity : Int) : Int :=
  if sideOf orderId = "BUY" then quantity else -quantity

def signedFills (sideOf keyOf : String → String) (key : String) (orderFills : PyDict) : Int :=
  Assoc.weightSum
    (fun orderId value => if keyOf orderId = key then signedFill sideOf orderId (intValue value) else 0)
    orderFills

/-- An input with an intent and an event presents its order with the side and
the position key the assignment gives it. -/
def Presents (sideOf keyOf : String → String) (input : LedgerInput) : Prop :=
  input.intent.asDict ≠ [] → input.lifecycleEvent.asDict ≠ [] →
    upperText (input.intent.asDict.get "transaction_type") =
        sideOf (printValue (input.lifecycleEvent.asDict.get "paper_order_id")) ∧
      positionKey input.intent.asDict =
        keyOf (printValue (input.lifecycleEvent.asDict.get "paper_order_id"))

def Priced (input : LedgerInput) : Prop :=
  upperText (input.lifecycleEvent.asDict.get "status") ∈ positionFillStatuses →
    floatOrNone (input.lifecycleEvent.asDict.get "average_fill_price") ≠ none

/-! ### The book behind every reachable ledger -/

/-- A ledger value and the book it stands for; no ledger stands for the empty book. -/
def Represents (ledger : PyValue) (book : Book) : Prop :=
  ledger = .dict book.toDict ∨ (ledger = .none ∧ book = {})

theorem Represents.safeLedger {ledger : PyValue} {book : Book} (represents : Represents ledger book) :
    safeLedger ledger = book.toDict := by
  rcases represents with rfl | ⟨rfl, rfl⟩
  · exact book.safeLedger_toDict
  · rfl

theorem StartsEmpty.represents {ledger : PyValue} (starts : StartsEmpty ledger) :
    Represents ledger {} := by
  rcases starts with rfl | rfl
  · exact .inr ⟨rfl, rfl⟩
  · exact .inl rfl

theorem Represents.positionsOf {ledger : PyValue} {book : Book}
    (represents : Represents ledger book) : positionsOf ledger = book.positionEntries := by
  rcases represents with rfl | ⟨rfl, rfl⟩ <;> rfl

theorem Represents.orderFillsOf {ledger : PyValue} {book : Book}
    (represents : Represents ledger book) : orderFillsOf ledger = book.fillEntries := by
  rcases represents with rfl | ⟨rfl, rfl⟩ <;> rfl

theorem Represents.netQuantityOf {ledger : PyValue} {book : Book}
    (represents : Represents ledger book) (key : String) : netQuantityOf ledger key = book.net key := by
  rw [PositionLedger.netQuantityOf, represents.positionsOf]
  simp only [PyDict.get, Book.positionEntries, Assoc.lookup_mapValues, Book.net]
  cases book.positions.lookup key <;> rfl

theorem Represents.orderFillOf {ledger : PyValue} {book : Book}
    (represents : Represents ledger book) (orderId : String) :
    orderFillOf ledger orderId = book.filled orderId := by
  rw [PositionLedger.orderFillOf, represents.orderFillsOf]
  simp only [PyDict.get, Book.fillEntries, Assoc.lookup_mapValues, Book.filled]
  cases book.orderFills.lookup orderId <;> rfl

inductive BookStep (rounding : ℚ → ℚ) (digest : String → String) (book : Book)
    (input : LedgerInput) : Book → Prop where
  | kept : BookStep rounding digest book input book
  | recorded (cumulative : Int) (hasIntent : input.intent.asDict ≠ [])
      (hasEvent : input.lifecycleEvent.asDict ≠ [])
      (isFill : upperText (input.lifecycleEvent.asDict.get "status") ∈ positionFillStatuses)
      (read : intOrZero (input.lifecycleEvent.asDict.get "filled_quantity") = .ok cumulative)
      (fresh : book.filledBefore input.lifecycleEvent < cumulative) :
      BookStep rounding digest book input
        (book.record rounding digest input.intent.asDict input.lifecycleEvent.asDict
          input.tsEpoch cumulative)

theorem validated_intent {intent lifecycleEvent previousLedger : PyValue} {warnings : List String}
    (validated : validatePaperPositionLedgerInputs intent lifecycleEvent previousLedger =
      .ok ([], warnings)) : intent.asDict ≠ [] := by
  intro empty
  unfold validatePaperPositionLedgerInputs at validated
  obtain ⟨ofIntent, read, validated⟩ := bind_eq_ok.mp validated
  obtain ⟨ofEvent, _, validated⟩ := bind_eq_ok.mp validated
  have required : ofIntent = ["PAPER_INTENT_REQUIRED"] := by
    rw [empty] at read
    exact (Except.ok.inj read).symm
  have noBlockers := congrArg Prod.fst (Except.ok.inj validated)
  simp only [dedupe_append_eq_nil, required] at noBlockers
  exact absurd noBlockers.1.1.1 (by decide)

theorem ledgerStep_book {rounding : ℚ → ℚ} {digest : String → String} {before after : PyValue}
    {input : LedgerInput} {book : Book} (represents : Represents before book)
    (stepped : LedgerStep rounding digest before input after) :
    ∃ next, Represents after next ∧ BookStep rounding digest book input next := by
  unfold LedgerStep ledgerAfter at stepped
  cases built : buildPaperPositionLedger rounding digest input.intent input.lifecycleEvent before
      input.tsEpoch with
  | error raised =>
      rw [built] at stepped
      subst stepped
      exact ⟨book, represents, .kept⟩
  | ok result =>
      rw [built] at stepped
      cases buildPaperPositionLedger_outcome represents.safeLedger built with
      | invalid _ _ _ _ _ _ ledger =>
          exact ⟨book, .inl (stepped.trans (congrArg PyValue.dict ledger)), .kept⟩
      | notFill _ _ _ ledger =>
          exact ⟨book, .inl (stepped.trans (congrArg PyValue.dict ledger)), .kept⟩
      | stale _ _ _ _ _ _ ledger =>
          exact ⟨book, .inl (stepped.trans (congrArg PyValue.dict ledger)), .kept⟩
      | filled cumulative validated isFill read fresh _ _ ledger =>
          obtain ⟨warnings, validated⟩ := validated
          refine ⟨_, .inl (stepped.trans (congrArg PyValue.dict ledger)),
            .recorded cumulative (validated_intent validated) ?_ isFill read fresh⟩
          intro empty
          rw [empty] at isFill
          exact absurd isFill (by decide)

/-! ### Invariants of the book -/

section Invariants

variable {rounding : ℚ → ℚ} {digest : String → String} {sideOf keyOf : String → String}
variable {book next : Book} {input : LedgerInput}

def Book.signedFills (sideOf keyOf : String → String) (book : Book) (key : String) : Int :=
  Assoc.weightSum
    (fun orderId quantity => if keyOf orderId = key then signedFill sideOf orderId quantity else 0)
    book.orderFills

theorem signedFills_fillEntries (key : String) :
    signedFills sideOf keyOf key book.fillEntries = book.signedFills sideOf keyOf key :=
  Assoc.weightSum_mapValues _ PyValue.int book.orderFills

private theorem signedFill_sub (orderId : String) (left right : Int) :
    signedFill sideOf orderId left - signedFill sideOf orderId right =
      signedFill sideOf orderId (left - right) := by
  unfold signedFill
  split <;> omega

theorem Book.signedFills_record (intent event : PyDict) (tsEpoch : Option PyFloat)
    (cumulative : Int) (key : String) :
    (book.record rounding digest intent event tsEpoch cumulative).signedFills sideOf keyOf key =
      book.signedFills sideOf keyOf key +
        if keyOf (printValue (event.get "paper_order_id")) = key then
          signedFill sideOf (printValue (event.get "paper_order_id"))
            (cumulative - book.filled (printValue (event.get "paper_order_id")))
        else 0 := by
  generalize orderEq : printValue (event.get "paper_order_id") = orderId
  simp only [Book.signedFills, Book.record, orderEq, Assoc.weightSum_set, Assoc.weightAt,
    Book.filled]
  congr 1
  by_cases same : keyOf orderId = key
  · simp only [if_pos same]
    cases book.orderFills.lookup orderId with
    | none => simp only [Option.getD_none, Int.sub_zero]
    | some quantity => exact signedFill_sub orderId cumulative quantity
  · simp only [if_neg same]
    cases book.orderFills.lookup orderId <;> rfl

theorem BookStep.filled_mono (stepped : BookStep rounding digest book input next)
    (orderId : String) : book.filled orderId ≤ next.filled orderId := by
  cases stepped with
  | kept => exact Int.le_refl _
  | recorded cumulative _ _ _ _ fresh =>
      rw [Book.filled_record]
      split
      · rename_i same
        subst same
        exact Int.le_of_lt fresh
      · exact Int.le_refl _

theorem BookStep.net_eq_signedFills (stepped : BookStep rounding digest book input next)
    (presents : Presents sideOf keyOf input)
    (conserved : ∀ key, book.net key = book.signedFills sideOf keyOf key) (key : String) :
    next.net key = next.signedFills sideOf keyOf key := by
  cases stepped with
  | kept => exact conserved key
  | recorded cumulative hasIntent hasEvent _ _ _ =>
      obtain ⟨sameSide, sameKey⟩ := presents hasIntent hasEvent
      rw [Book.net_record, Book.signedFills_record, conserved key, sameKey]
      have signed : ∀ quantity, Book.signed input.intent.asDict quantity =
          signedFill sideOf (printValue (input.lifecycleEvent.asDict.get "paper_order_id"))
            quantity := by
        intro quantity
        rw [Book.signed, signedFill, sameSide]
      by_cases here : key = keyOf (printValue (input.lifecycleEvent.asDict.get "paper_order_id"))
      · rw [if_pos here, if_pos here.symm, signed]
      · have apart : ¬keyOf (printValue (input.lifecycleEvent.asDict.get "paper_order_id")) = key :=
          fun equal => here equal.symm
        rw [if_neg here, if_neg apart, Int.add_zero]

theorem nextAveragePrice_eq_none_iff (previousNet : Int) (previousAvg : Option PyFloat)
    (signedDelta : Int) (price : PyFloat) (held : previousAvg = none ↔ previousNet = 0) :
    nextAveragePrice rounding previousNet previousAvg signedDelta (some price) = none ↔
      previousNet + signedDelta = 0 := by
  unfold nextAveragePrice
  by_cases flat : previousNet + signedDelta = 0
  · rw [if_pos flat]
    exact iff_of_true rfl flat
  rw [if_neg flat]
  dsimp only
  by_cases restarted : previousNet = 0 ∨
      (previousNet * signedDelta < 0 ∧ signedDelta.natAbs > previousNet.natAbs)
  · rw [if_pos restarted]
    exact iff_of_false (Option.some_ne_none _) flat
  rw [if_neg restarted]
  have holding : previousAvg ≠ none := fun absent => restarted (.inl (held.mp absent))
  by_cases increased : previousNet * signedDelta > 0
  · rw [if_pos increased]
    cases previousAvg with
    | none => exact absurd rfl holding
    | some average => exact iff_of_false (Option.some_ne_none _) flat
  · rw [if_neg increased]
    exact iff_of_false holding flat

theorem BookStep.average_eq_none_iff (stepped : BookStep rounding digest book input next)
    (priced : Priced input) (held : ∀ key, book.average key = none ↔ book.net key = 0)
    (key : String) : next.average key = none ↔ next.net key = 0 := by
  cases stepped with
  | kept => exact held key
  | recorded cumulative _ _ isFill _ _ =>
      rw [Book.average_record, Book.net_record]
      by_cases here : key = positionKey input.intent.asDict
      · rw [if_pos here, if_pos here]
        obtain ⟨price, priceEq⟩ := Option.ne_none_iff_exists'.mp (priced isFill)
        rw [priceEq]
        exact nextAveragePrice_eq_none_iff _ _ _ price (held key)
      · rw [if_neg here, if_neg here]
        exact held key

end Invariants

/-! ### Conservation over runs -/

section Runs

variable {rounding : ℚ → ℚ} {digest : String → String} {sideOf keyOf : String → String}
variable {start ledger : PyValue} {inputs : List LedgerInput} {book : Book}

theorem run_book (run : Run (LedgerStep rounding digest) start inputs ledger)
    (represents : Represents start book) :
    ∃ final, Represents ledger final ∧ Run (BookStep rounding digest) book inputs final := by
  induction run with
  | nil => exact ⟨book, represents, .nil⟩
  | snoc _run stepped ih =>
      obtain ⟨middle, middleRepresents, middleRun⟩ := ih
      obtain ⟨final, finalRepresents, bookStepped⟩ := ledgerStep_book middleRepresents stepped
      exact ⟨final, finalRepresents, .snoc middleRun bookStepped⟩

theorem bookRun_filled_mono {final : Book} (run : Run (BookStep rounding digest) book inputs final)
    (orderId : String) : book.filled orderId ≤ final.filled orderId :=
  run.invariant (motive := fun state => book.filled orderId ≤ state.filled orderId)
    (Int.le_refl _) (fun _ _ _ below stepped => Int.le_trans below (stepped.filled_mono orderId))

theorem bookRun_filled_source {final : Book}
    (run : Run (BookStep rounding digest) {} inputs final) (orderId : String) :
    final.filled orderId = 0 ∨ ∃ input ∈ inputs,
      printValue (input.lifecycleEvent.asDict.get "paper_order_id") = orderId ∧
        intOrZero (input.lifecycleEvent.asDict.get "filled_quantity") =
          .ok (final.filled orderId) := by
  refine run.history_invariant (motive := fun labels (state : Book) => state.filled orderId = 0 ∨
    ∃ input ∈ labels, printValue (input.lifecycleEvent.asDict.get "paper_order_id") = orderId ∧
      intOrZero (input.lifecycleEvent.asDict.get "filled_quantity") = .ok (state.filled orderId))
    (.inl rfl) ?_
  intro labels before input after source stepped
  have kept : (before.filled orderId = 0 ∨ ∃ earlier ∈ labels,
      printValue (earlier.lifecycleEvent.asDict.get "paper_order_id") = orderId ∧
        intOrZero (earlier.lifecycleEvent.asDict.get "filled_quantity") =
          .ok (before.filled orderId)) → before.filled orderId = 0 ∨
      ∃ earlier ∈ labels ++ [input],
        printValue (earlier.lifecycleEvent.asDict.get "paper_order_id") = orderId ∧
          intOrZero (earlier.lifecycleEvent.asDict.get "filled_quantity") =
            .ok (before.filled orderId) := by
    rintro (zero | ⟨earlier, member, same, read⟩)
    · exact .inl zero
    · exact .inr ⟨earlier, List.mem_append_left _ member, same, read⟩
  cases stepped with
  | kept => exact kept source
  | recorded cumulative _ _ _ read _ =>
      rw [Book.filled_record]
      by_cases here : orderId = printValue (input.lifecycleEvent.asDict.get "paper_order_id")
      · rw [if_pos here]
        exact .inr ⟨input, List.mem_append_right _ List.mem_cons_self, here.symm, read⟩
      · rw [if_neg here]
        exact kept source

theorem bookRun_net {final : Book} (run : Run (BookStep rounding digest) {} inputs final)
    (presents : ∀ input ∈ inputs, Presents sideOf keyOf input) (key : String) :
    final.net key = final.signedFills sideOf keyOf key := by
  refine run.history_invariant
    (motive := fun labels (state : Book) => (∀ input ∈ labels, Presents sideOf keyOf input) →
      ∀ key, state.net key = state.signedFills sideOf keyOf key)
    (fun _ _ => rfl) ?_ presents key
  intro labels before input after conserved stepped presents
  exact stepped.net_eq_signedFills (presents input (List.mem_append_right _ List.mem_cons_self))
    (conserved fun earlier member => presents earlier (List.mem_append_left _ member))

theorem bookRun_average {final : Book} (run : Run (BookStep rounding digest) {} inputs final)
    (priced : ∀ input ∈ inputs, Priced input) (key : String) :
    final.average key = none ↔ final.net key = 0 := by
  refine run.history_invariant
    (motive := fun labels (state : Book) => (∀ input ∈ labels, Priced input) →
      ∀ key, state.average key = none ↔ state.net key = 0)
    (fun _ _ => iff_of_true rfl rfl) ?_ priced key
  intro labels before input after held stepped priced
  exact stepped.average_eq_none_iff (priced input (List.mem_append_right _ List.mem_cons_self))
    (held fun earlier member => priced earlier (List.mem_append_left _ member))

/-- An input that must not change anything: the call blocks, or its cumulative
quantity is not above the one already applied for its order. -/
def Unapplied (rounding : ℚ → ℚ) (digest : String → String) (ledger : PyValue)
    (input : LedgerInput) : Prop :=
  (∃ result, buildPaperPositionLedger rounding digest input.intent input.lifecycleEvent ledger
      input.tsEpoch = .ok result ∧ result.status = .blocked) ∨
    ∃ cumulative, intOrZero (input.lifecycleEvent.asDict.get "filled_quantity") = .ok cumulative ∧
      cumulative ≤ orderFillOf ledger (printValue (input.lifecycleEvent.asDict.get "paper_order_id"))

theorem unapplied_keeps {after : PyValue} {input : LedgerInput} (represents : Represents ledger book)
    (unapplied : Unapplied rounding digest ledger input)
    (stepped : LedgerStep rounding digest ledger input after) :
    positionsOf after = positionsOf ledger ∧ orderFillsOf after = orderFillsOf ledger := by
  have keeps : ∀ result : PaperPositionLedgerResult, after = .dict result.ledger →
      result.ledger = book.toDict →
      positionsOf after = positionsOf ledger ∧ orderFillsOf after = orderFillsOf ledger := by
    intro result same unchanged
    rw [represents.positionsOf, represents.orderFillsOf, same, unchanged]
    exact ⟨rfl, rfl⟩
  unfold LedgerStep ledgerAfter at stepped
  cases built : buildPaperPositionLedger rounding digest input.intent input.lifecycleEvent ledger
      input.tsEpoch with
  | error raised =>
      rw [built] at stepped
      subst stepped
      exact ⟨rfl, rfl⟩
  | ok result =>
      rw [built] at stepped
      cases buildPaperPositionLedger_outcome represents.safeLedger built with
      | invalid _ _ _ _ _ _ unchanged => exact keeps result stepped unchanged
      | notFill _ _ _ unchanged => exact keeps result stepped unchanged
      | stale _ _ _ _ _ _ unchanged => exact keeps result stepped unchanged
      | filled cumulative _ _ read fresh open' _ _ _ =>
          rcases unapplied with ⟨other, sameCall, blocked⟩ | ⟨other, sameRead, covered⟩
          · cases built.symm.trans sameCall
            exact absurd blocked open'
          · cases read.symm.trans sameRead
            rw [represents.orderFillOf] at covered
            exact absurd fresh (not_lt_of_ge covered)

/-- Conservation of the position ledger over every run from an empty ledger. -/
theorem positionLedger_conservation (starts : StartsEmpty start)
    (run : Run (LedgerStep rounding digest) start inputs ledger)
    (presents : ∀ input ∈ inputs, Presents sideOf keyOf input) :
    (∀ key, netQuantityOf ledger key = signedFills sideOf keyOf key (orderFillsOf ledger)) ∧
      (∀ key position, (positionsOf ledger).lookup key = some position →
        position.asDict.get "side" =
          .str (if 0 < netQuantityOf ledger key then "LONG"
            else if netQuantityOf ledger key < 0 then "SHORT" else "FLAT")) ∧
      (∀ further later, Run (LedgerStep rounding digest) ledger further later →
        ∀ orderId, orderFillOf ledger orderId ≤ orderFillOf later orderId) ∧
      (∀ input after, Unapplied rounding digest ledger input →
        LedgerStep rounding digest ledger input after →
          positionsOf after = positionsOf ledger ∧ orderFillsOf after = orderFillsOf ledger) ∧
      ((∀ input ∈ inputs, Priced input) →
        ∀ key position, (positionsOf ledger).lookup key = some position →
          (position.asDict.get "average_entry_price" = .none ↔ netQuantityOf ledger key = 0)) := by
  obtain ⟨final, represents, bookRun⟩ := run_book run starts.represents
  have stored : ∀ key position, (positionsOf ledger).lookup key = some position →
      ∃ own, final.positions.lookup key = some own ∧ position = .dict own.toDict := by
    intro key position found
    rw [represents.positionsOf, Book.positionEntries, Assoc.lookup_mapValues,
      Option.map_eq_some_iff] at found
    obtain ⟨own, ownFound, same⟩ := found
    exact ⟨own, ownFound, same.symm⟩
  refine ⟨?_, ?_, ?_, ?_, ?_⟩
  · intro key
    rw [represents.netQuantityOf, represents.orderFillsOf, signedFills_fillEntries]
    exact bookRun_net bookRun presents key
  · intro key position found
    obtain ⟨own, ownFound, rfl⟩ := stored key position found
    have net : final.net key = own.netQuantity := by
      rw [Book.net, ownFound]
      rfl
    rw [represents.netQuantityOf, net]
    rfl
  · intro further later furtherRun orderId
    obtain ⟨last, lastRepresents, lastRun⟩ := run_book furtherRun represents
    rw [represents.orderFillOf, lastRepresents.orderFillOf]
    exact bookRun_filled_mono lastRun orderId
  · intro input after unapplied stepped
    exact unapplied_keeps represents unapplied stepped
  · intro priced key position found
    obtain ⟨own, ownFound, rfl⟩ := stored key position found
    have average : final.average key = own.averageEntryPrice := by
      rw [Book.average, ownFound]
      rfl
    rw [represents.netQuantityOf, ← bookRun_average bookRun priced key, average,
      PyValue.asDict_dict, Position.toDict_get_averageEntryPrice]
    cases own.averageEntryPrice with
    | none => exact iff_of_true rfl rfl
    | some price => exact iff_of_false (fun equal => by cases equal) (Option.some_ne_none _)

end Runs

/-! ### A run of an entry and an exit -/

section Example

def exampleIntent (id side : String) (quantity : Int) : PyValue :=
  .dict ([("intent_type", .str "PAPER_ORDER_INTENT"), ("paper_order_intent_id", .str id),
    ("candidate_id", .str "c1"), ("instrument_token", .str "12345"),
    ("transaction_type", .str side), ("quantity", .int quantity)] ++ safeFlags)

def exampleFill (id : String) (filled : Int) (price : ℚ) : PyValue :=
  .dict ([("event_type", .str "PAPER_ORDER_LIFECYCLE_EVENT"), ("paper_order_id", .str id),
    ("paper_order_intent_id", .str id), ("candidate_id", .str "c1"), ("status", .str "FILLED"),
    ("filled_quantity", .int filled), ("average_fill_price", .float (.finite price))] ++ safeFlags)

def entryInput : LedgerInput :=
  { intent := exampleIntent "entry" "BUY" 10, lifecycleEvent := exampleFill "entry" 10 100 }

def exitInput : LedgerInput :=
  { intent := exampleIntent "exit" "SELL" 4, lifecycleEvent := exampleFill "exit" 4 105 }

private def exampleLedger : PyValue :=
  ledgerAfter id id (ledgerAfter id id .none entryInput) exitInput

theorem positionLedger_conservation_entryExit :
    netQuantityOf exampleLedger "12345" = 6 ∧
      ∀ key, netQuantityOf exampleLedger key =
        signedFills (fun orderId => if orderId = "entry" then "BUY" else "SELL") (fun _ => "12345")
          key (orderFillsOf exampleLedger) := by
  refine ⟨by decide, ?_⟩
  have starts : StartsEmpty .none := .inl rfl
  have run : Run (LedgerStep id id) .none ([] ++ [entryInput] ++ [exitInput]) exampleLedger :=
    .snoc (.snoc .nil rfl) rfl
  refine (positionLedger_conservation starts run ?_).1
  intro input member _ _
  rcases List.mem_cons.mp member with rfl | rest
  · decide
  · cases List.mem_singleton.mp rest
    decide

end Example

end Algotradify.Paper.PositionLedger
