/-
The accounting identity over runs that feed one fill event to the realized
ledger and then to the position ledger.

In exact arithmetic both ledgers together keep the books of average-cost
accounting: what is realized, and what a mark makes of the open position, add up
to the marked net quantity less the cash paid for the fills.
-/

import Algotradify.Accounting.CostBasis
import Algotradify.Paper.MtmPnl
import Algotradify.Paper.PositionConservation

namespace Algotradify.Paper.PnlIdentity

open Py Transition Accounting PositionLedger RealizedPnl MtmPnl

variable {net : Int} {average : Option ℚ} {row : PyDict}

/-! ### The formulas of the code and of average-cost accounting -/

theorem nextAveragePrice_exact (delta : Int) (price : ℚ) (held : average = none ↔ net = 0) :
    nextAveragePrice id net (average.map PyFloat.finite) delta (some (.finite price)) =
      (nextAverage net average delta price).map PyFloat.finite := by
  unfold nextAveragePrice nextAverage
  by_cases flat : net + delta = 0
  · rw [if_pos flat, if_pos flat, Option.map_none]
  rw [if_neg flat, if_neg flat]
  dsimp only
  have larger : delta.natAbs > net.natAbs ↔ |delta| > |net| := by
    rw [Int.abs_eq_natAbs, Int.abs_eq_natAbs]
    omega
  have restarting : net = 0 ∨ (net * delta < 0 ∧ delta.natAbs > net.natAbs) ↔
      net = 0 ∨ (net * delta < 0 ∧ |delta| > |net|) := by
    rw [larger]
  by_cases restarts : net = 0 ∨ (net * delta < 0 ∧ |delta| > |net|)
  · rw [if_pos (restarting.mpr restarts), if_pos restarts, Option.map_some]
  rw [if_neg (fun either => restarts (restarting.mp either)), if_neg restarts]
  by_cases same : net * delta > 0
  · rw [if_pos same, if_pos same]
    cases average with
    | none => exact absurd (.inl (held.mp rfl)) restarts
    | some average =>
        simp only [Option.map_some, Option.getD_some, PyFloat.ofInt, PyFloat.finite_mul,
          PyFloat.finite_add, PyFloat.finite_div, PyFloat.roundWith_id, Int.natCast_natAbs]
  · rw [if_neg same, if_neg same]

theorem realizedQuantity_eq_abs_closed (net delta : Int) :
    realizedQuantity net delta = |closed net delta| := by
  unfold realizedQuantity closed
  by_cases against : net * delta < 0
  · have netNe : net ≠ 0 := fun zero => by rw [zero, zero_mul] at against; exact lt_irrefl _ against
    have deltaNe : delta ≠ 0 := fun zero => by
      rw [zero, mul_zero] at against
      exact lt_irrefl _ against
    have moves : ¬(net = 0 ∨ delta = 0) := fun either => either.elim netNe deltaNe
    rw [if_neg moves, if_neg (not_le.mpr against), if_pos against]
    split
    · rename_i larger
      rw [Int.abs_eq_natAbs, Int.abs_eq_natAbs] at larger
      rw [Int.abs_eq_natAbs]
      omega
    · rename_i partly
      rw [Int.abs_eq_natAbs, Int.abs_eq_natAbs] at partly
      rw [abs_neg, Int.abs_eq_natAbs]
      omega
  · rw [if_neg against, abs_zero]
    split
    · rfl
    · exact if_pos (not_lt.mp against)

theorem closed_eq_zero {delta : Int} (opens : realizedQuantity net delta ≤ 0) :
    closed net delta = 0 := by
  rw [realizedQuantity_eq_abs_closed] at opens
  exact abs_nonpos_iff.mp opens

theorem realizedPnl_exact {delta : Int} (average price : ℚ)
    (closes : 0 < realizedQuantity net delta) :
    realizedPnl id net (realizedQuantity net delta) (.finite average) (.finite price) =
      .finite ((price - average) * (closed net delta : ℤ)) := by
  rw [realizedQuantity_eq_abs_closed] at closes ⊢
  have against : net * delta < 0 := by
    by_contra along
    rw [closed, if_neg along, abs_zero] at closes
    exact lt_irrefl _ closes
  unfold realizedPnl
  simp only [PyFloat.finite_sub, PyFloat.ofInt, PyFloat.finite_mul, PyFloat.roundWith_id]
  rcases mul_neg_iff.mp against with ⟨long, sold⟩ | ⟨short, bought⟩
  · have nonneg : 0 ≤ closed net delta := by
      rw [closed, if_pos against]
      split <;> omega
    rw [if_pos long, abs_of_nonneg nonneg]
  · have nonpos : closed net delta ≤ 0 := by
      rw [closed, if_pos against]
      split <;> omega
    rw [if_neg (not_lt.mpr (le_of_lt short)), if_pos short, abs_of_nonpos nonpos, Int.cast_neg]
    congr 1
    ring

/-! ### Accounts -/

structure Accounts (key : String) where
  positions : Book
  realized : RealizedBook
  average : Option ℚ
  gain : ℚ
  paid : ℚ
  averageStored : positions.average key = average.map PyFloat.finite
  gainStored : RealizedPnl.sumFloats realized.pnls = .finite gain
  balanced : Balanced (positions.net key) average gain paid
  keysApplied : ∀ key ∈ realized.fillKeys, ∃ orderId cumulative,
    key = fillKey orderId cumulative ∧ cumulative ≤ positions.filled orderId
  onlyKey : positions.positions = [] ∨ ∃ position, positions.positions = [(key, position)]

namespace Accounts

def empty (key : String) : Accounts key :=
  { positions := {}
    realized := {}
    average := none
    gain := 0
    paid := 0
    averageStored := rfl
    gainStored := rfl
    balanced := .start
    keysApplied := by intro key member; cases member
    onlyKey := .inl rfl }

end Accounts

theorem fillKey_inj {leftOrder rightOrder : String} {left right : Int}
    (same : fillKey leftOrder left = fillKey rightOrder right) :
    leftOrder = rightOrder ∧ left = right := by
  have lists := congrArg String.toList same
  have colon : ":".toList = [':'] := rfl
  simp only [fillKey, String.toList_append, colon, List.append_assoc, List.singleton_append] at lists
  have clean : ∀ value : Int, ':' ∉ (printInt value).toList := by
    intro value member
    exact absurd (numeral_printInt value ':' member) (by decide)
  obtain ⟨orders, quantities⟩ := joined_inj (clean left) (clean right) lists
  exact ⟨String.toList_inj.mp orders, printInt_injective (String.toList_inj.mp quantities)⟩

theorem Accounts.freshKey {key : String} (accounts : Accounts key) {lifecycleEvent : PyValue}
    {cumulative : Int} (fresh : FreshFill lifecycleEvent accounts.positions cumulative) :
    eventFillKey lifecycleEvent cumulative ∉ accounts.realized.fillKeys := by
  intro listed
  obtain ⟨orderId, applied, same, covered⟩ := accounts.keysApplied _ listed
  obtain ⟨sameOrder, sameQuantity⟩ := fillKey_inj same
  have below := fresh.fresh
  rw [Book.filledBefore, sameOrder, sameQuantity] at below
  omega

section Fill

variable {key : String} (accounts : Accounts key) (digest : String → String)
variable {intent lifecycleEvent : PyValue} {cumulative : Int} {price : ℚ}

def Accounts.fill (tsEpoch : Option PyFloat) (realized : RealizedBook)
    (keyEq : positionKey intent.asDict = key)
    (priceEq : floatOrNone (lifecycleEvent.asDict.get "average_fill_price") =
      some (.finite price))
    (fresh : FreshFill lifecycleEvent accounts.positions cumulative)
    (gained : RealizedPnl.sumFloats realized.pnls = .finite (accounts.gain +
      (price - accounts.average.getD 0) * (closed (accounts.positions.net key)
        (signedFillDelta intent lifecycleEvent accounts.positions cumulative) : ℤ)))
    (keys : ∀ other ∈ realized.fillKeys, other = eventFillKey lifecycleEvent cumulative ∨
      other ∈ accounts.realized.fillKeys) : Accounts key :=
  { positions := accounts.positions.record id digest intent.asDict lifecycleEvent.asDict tsEpoch
      cumulative
    realized := realized
    average := nextAverage (accounts.positions.net key) accounts.average
      (signedFillDelta intent lifecycleEvent accounts.positions cumulative) price
    gain := accounts.gain + (price - accounts.average.getD 0) *
      (closed (accounts.positions.net key)
        (signedFillDelta intent lifecycleEvent accounts.positions cumulative) : ℤ)
    paid := accounts.paid +
      (signedFillDelta intent lifecycleEvent accounts.positions cumulative : ℤ) * price
    averageStored := by
      rw [Book.average_record, if_pos keyEq.symm, accounts.averageStored, priceEq]
      exact nextAveragePrice_exact _ price accounts.balanced.average_eq_none_iff
    gainStored := gained
    balanced := by
      rw [Book.net_record, if_pos keyEq.symm]
      exact accounts.balanced.fill _ price
    keysApplied := by
      intro other member
      rcases keys other member with rfl | old
      · refine ⟨printValue (lifecycleEvent.asDict.get "paper_order_id"), cumulative, rfl, ?_⟩
        rw [Book.filled_record, if_pos rfl]
      · obtain ⟨orderId, applied, same, covered⟩ := accounts.keysApplied other old
        refine ⟨orderId, applied, same, ?_⟩
        rw [Book.filled_record]
        split
        · rename_i here
          subst here
          exact le_of_lt (lt_of_le_of_lt covered fresh.fresh)
        · exact covered
    onlyKey := by
      right
      unfold Book.record
      dsimp only
      rw [keyEq]
      rcases accounts.onlyKey with none | ⟨position, one⟩
      · rw [none]
        exact ⟨_, rfl⟩
      · rw [one, Assoc.set, if_pos rfl]
        exact ⟨_, rfl⟩ }

end Fill

/-! ### Runs of both updates -/

/-- The two ledgers a caller holds, and what the applied fills have cost. -/
structure AccountState where
  positionLedger : PyValue
  realizedLedger : PyValue
  paid : ℚ

def fillPrice (input : LedgerInput) : Option PyFloat :=
  floatOrNone (input.lifecycleEvent.asDict.get "average_fill_price")

/-- The cash a position update costs: nothing unless it applied the fill. -/
def fillCost (input : LedgerInput) (result : PaperPositionLedgerResult) : ℚ :=
  match result.updated, fillPrice input with
  | true, some (.finite price) => result.signedDeltaQuantity * price
  | _, _ => 0

def Accepted (state : AccountState) (input : LedgerInput) : Prop :=
  (∃ warnings, validatePaperRealizedPnlInputs state.positionLedger input.intent
      input.lifecycleEvent state.realizedLedger = .ok ([], warnings)) ∧
    ∃ warnings, validatePaperPositionLedgerInputs input.intent input.lifecycleEvent
      state.positionLedger = .ok ([], warnings)

def accountAfter (digest : String → String) (state : AccountState) (input : LedgerInput) :
    Except PyError AccountState := do
  let realized ← buildPaperRealizedPnl id digest state.positionLedger input.intent
    input.lifecycleEvent state.realizedLedger input.tsEpoch
  let position ← buildPaperPositionLedger id digest input.intent input.lifecycleEvent
    state.positionLedger input.tsEpoch
  pure
    { positionLedger := .dict position.ledger
      realizedLedger := .dict realized.ledger
      paid := state.paid + fillCost input position }

def AccountStep (digest : String → String) (before : AccountState) (input : LedgerInput)
    (after : AccountState) : Prop :=
  Accepted before input ∧ accountAfter digest before input = .ok after

/-- Empty ledgers. Without a position ledger record the realized update is
blocked, so a run starts from the record of an empty one. -/
structure StartsFlat (state : AccountState) : Prop where
  positions : state.positionLedger = .dict (buildLedger [] [] .none)
  realized : state.realizedLedger = .none ∨
    ∃ ledger, buildRealizedLedger id [] [] = .ok ledger ∧ state.realizedLedger = .dict ledger
  paid : state.paid = 0

/-- `summary.total_realized_pnl`; no ledger has realized nothing. -/
def totalRealizedPnl (realizedLedger : PyValue) : PyFloat :=
  floatOrZero ((realizedLedger.asDict.get "summary").asDict.get "total_realized_pnl")

structure Accounts.Represents {key : String} (state : AccountState) (accounts : Accounts key) :
    Prop where
  positions : state.positionLedger = .dict accounts.positions.toDict
  realized : state.realizedLedger = .none ∧ accounts.realized = {} ∨
    state.realizedLedger = .dict (accounts.realized.toDict id)
  paid : state.paid = accounts.paid

section Reading

variable {key : String} {state : AccountState} {accounts : Accounts key}

theorem StartsFlat.represents (starts : StartsFlat state) :
    Accounts.Represents state (Accounts.empty key) where
  positions := starts.positions
  realized := by
    rcases starts.realized with none | ⟨ledger, built, same⟩
    · exact .inl ⟨none, rfl⟩
    · rw [RealizedBook.empty_toDict] at built
      cases built
      exact .inr same
  paid := starts.paid

theorem Accounts.Represents.safeRealized (represents : Accounts.Represents state accounts) :
    safeRealizedLedger id state.realizedLedger = .ok (accounts.realized.toDict id) := by
  rcases represents.realized with ⟨none, empty⟩ | same
  · rw [none, empty]
    rfl
  · rw [same]
    exact RealizedBook.safeRealizedLedger_toDict id accounts.realized

theorem Accounts.Represents.totalRealizedPnl (represents : Accounts.Represents state accounts) :
    totalRealizedPnl state.realizedLedger = .finite accounts.gain := by
  have stored := accounts.gainStored
  rcases represents.realized with ⟨none, empty⟩ | same
  · rw [empty] at stored
    rw [none, ← stored]
    rfl
  · rw [same]
    change floatOrZero (roundedSum id accounts.realized.pnls) = .finite accounts.gain
    rw [floatOrZero, floatOrNone_roundedSum id rfl, PyFloat.roundWith_id, stored]
    exact floatOrZero_float (.finite accounts.gain)

theorem Accounts.Represents.netQuantityOf (represents : Accounts.Represents state accounts) :
    netQuantityOf state.positionLedger key = accounts.positions.net key :=
  PositionLedger.Represents.netQuantityOf (.inl represents.positions) key

end Reading

/-! ### One step on the accounts -/

section Step

variable {key : String} {digest : String → String} {before after : AccountState}
variable {accounts : Accounts key} {input : LedgerInput}

theorem stale_step (represents : Accounts.Represents before accounts)
    (stepped : AccountStep digest before input after)
    (stale : ∀ cumulative, ¬FreshFill input.lifecycleEvent accounts.positions cumulative) :
    Accounts.Represents after accounts := by
  obtain ⟨⟨⟨_, realizedValid⟩, ⟨_, positionValid⟩⟩, stepped⟩ := stepped
  obtain ⟨realized, realizedBuilt, stepped⟩ := bind_eq_ok.mp stepped
  obtain ⟨position, positionBuilt, stepped⟩ := bind_eq_ok.mp stepped
  cases stepped
  rw [represents.positions] at realizedBuilt realizedValid
  have positionKept : position.ledger = accounts.positions.toDict ∧ position.updated = false := by
    cases buildPaperPositionLedger_outcome
        (Represents.safeLedger (.inl represents.positions)) positionBuilt with
    | invalid _ _ _ _ _ updated ledger => exact ⟨ledger, updated⟩
    | notFill _ _ updated ledger => exact ⟨ledger, updated⟩
    | stale _ _ _ _ _ updated ledger => exact ⟨ledger, updated⟩
    | filled cumulative _ isFill read fresh _ _ _ _ =>
        exact absurd ⟨isFill, read, fresh⟩ (stale cumulative)
  have realizedKept : realized.ledger = accounts.realized.toDict id := by
    cases buildPaperRealizedPnl_outcome represents.safeRealized realizedBuilt with
    | invalid _ _ _ _ ledger => exact ledger
    | notFill _ ledger => exact ledger
    | stale _ _ _ ledger => exact ledger
    | repeatedKey _ _ _ ledger => exact ledger
    | opened cumulative fresh _ _ => exact absurd fresh (stale cumulative)
    | unpriced _ _ _ _ ledger => exact ledger
    | realized cumulative _ _ _ fresh _ _ _ _ _ => exact absurd fresh (stale cumulative)
  constructor
  · exact congrArg PyValue.dict positionKept.1
  · exact .inr (congrArg PyValue.dict realizedKept)
  · have free : fillCost input position = 0 := by
      rw [fillCost, positionKept.2]
    change before.paid + fillCost input position = accounts.paid
    rw [free, add_zero, represents.paid]

private theorem fresh_realized {cumulative : Int} {price : ℚ} {realized : PaperRealizedPnlResult}
    (represents : Accounts.Represents before accounts)
    (fresh : FreshFill input.lifecycleEvent accounts.positions cumulative)
    (keyEq : positionKey input.intent.asDict = key)
    (priceEq : fillPrice input = some (.finite price))
    (accepted : ∃ warnings, validatePaperRealizedPnlInputs (.dict accounts.positions.toDict)
      input.intent input.lifecycleEvent before.realizedLedger = .ok ([], warnings))
    (built : buildPaperRealizedPnl id digest (.dict accounts.positions.toDict) input.intent
      input.lifecycleEvent before.realizedLedger input.tsEpoch = .ok realized) :
    ∃ book : RealizedBook, realized.ledger = book.toDict id ∧
      RealizedPnl.sumFloats book.pnls = .finite (accounts.gain +
        (price - accounts.average.getD 0) * (closed (accounts.positions.net key)
          (signedFillDelta input.intent input.lifecycleEvent accounts.positions cumulative) : ℤ)) ∧
      ∀ other ∈ book.fillKeys, other = eventFillKey input.lifecycleEvent cumulative ∨
        other ∈ accounts.realized.fillKeys := by
  obtain ⟨_, accepted⟩ := accepted
  have sameQuantity : ∀ other, intOrZero (input.lifecycleEvent.asDict.get "filled_quantity") =
      .ok other → other = cumulative := by
    intro other read
    exact Except.ok.inj (read.symm.trans fresh.read)
  have stored := accounts.averageStored
  cases buildPaperRealizedPnl_outcome represents.safeRealized built with
  | invalid blockers _ validated blocked _ =>
      cases validated.symm.trans accepted
      exact absurd rfl blocked
  | notFill ignored _ => exact absurd fresh.isFill ignored
  | stale other read covered _ =>
      cases sameQuantity other read
      exact absurd fresh.fresh (not_lt.mpr covered)
  | repeatedKey other otherFresh listed _ => exact absurd listed (accounts.freshKey otherFresh)
  | opened other otherFresh opens ledger =>
      cases sameQuantity other otherFresh.read
      refine ⟨_, ledger, ?_, fun other member => RealizedBook.mem_addKey member⟩
      rw [closedQuantity, keyEq] at opens
      rw [RealizedBook.addKey_pnls, accounts.gainStored, closed_eq_zero opens, Int.cast_zero,
        mul_zero, add_zero]
  | unpriced other otherFresh closes missing _ =>
      cases sameQuantity other otherFresh.read
      rw [closedQuantity, keyEq, realizedQuantity_eq_abs_closed] at closes
      rcases missing with noAverage | noPrice
      · rw [keyEq, stored, Option.map_eq_none_iff] at noAverage
        have flat := accounts.balanced.average_eq_none_iff.mp noAverage
        rw [flat, closed, zero_mul, if_neg (lt_irrefl 0), abs_zero] at closes
        exact absurd closes (lt_irrefl 0)
      · cases noPrice.symm.trans priceEq
  | realized other average exit entry otherFresh closes averageEq exitEq gain ledger =>
      cases sameQuantity other otherFresh.read
      refine ⟨_, ledger, ?_, fun other member => RealizedBook.mem_addKey member⟩
      rw [keyEq, stored] at averageEq
      obtain ⟨own, ownEq, rfl⟩ := Option.map_eq_some_iff.mp averageEq
      cases exitEq.symm.trans priceEq
      rw [closedQuantity, keyEq] at closes gain
      rw [RealizedBook.addEntry_pnls, sumFloats_append_singleton, accounts.gainStored, gain,
        realizedPnl_exact own price closes, ownEq]
      rfl

theorem fresh_step {cumulative : Int} {price : ℚ}
    (represents : Accounts.Represents before accounts)
    (stepped : AccountStep digest before input after)
    (fresh : FreshFill input.lifecycleEvent accounts.positions cumulative)
    (keyEq : positionKey input.intent.asDict = key)
    (priceEq : fillPrice input = some (.finite price)) :
    ∃ next : Accounts key, Accounts.Represents after next := by
  obtain ⟨⟨realizedValid, ⟨_, positionValid⟩⟩, stepped⟩ := stepped
  obtain ⟨realized, realizedBuilt, stepped⟩ := bind_eq_ok.mp stepped
  obtain ⟨position, positionBuilt, stepped⟩ := bind_eq_ok.mp stepped
  cases stepped
  rw [represents.positions] at realizedBuilt realizedValid
  obtain ⟨book, realizedLedger, gained, keys⟩ :=
    fresh_realized represents fresh keyEq priceEq realizedValid realizedBuilt
  cases buildPaperPositionLedger_outcome
      (Represents.safeLedger (.inl represents.positions)) positionBuilt with
  | invalid blockers _ validated blocked _ _ _ =>
      cases validated.symm.trans positionValid
      exact absurd rfl blocked
  | notFill ignored _ _ _ => exact absurd fresh.isFill ignored
  | stale other _ read covered _ _ _ =>
      cases read.symm.trans fresh.read
      exact absurd fresh.fresh (not_lt.mpr covered)
  | filled other _ _ read _ _ updated ledger signedDelta =>
      cases read.symm.trans fresh.read
      refine ⟨accounts.fill digest input.tsEpoch book keyEq priceEq fresh gained keys, ?_⟩
      constructor
      · exact congrArg PyValue.dict ledger
      · exact .inr (congrArg PyValue.dict realizedLedger)
      · change before.paid + fillCost input position = accounts.paid + _
        rw [fillCost, updated, priceEq, represents.paid, signedDelta]
        rfl

theorem accountStep_represents (represents : Accounts.Represents before accounts)
    (stepped : AccountStep digest before input after)
    (keyEq : positionKey input.intent.asDict = key)
    (priced : ∃ price, fillPrice input = some (.finite price)) :
    ∃ next : Accounts key, Accounts.Represents after next := by
  by_cases stale : ∀ cumulative, ¬FreshFill input.lifecycleEvent accounts.positions cumulative
  · exact ⟨accounts, stale_step represents stepped stale⟩
  · obtain ⟨cumulative, fresh⟩ := not_forall_not.mp stale
    obtain ⟨price, priceEq⟩ := priced
    exact fresh_step represents stepped fresh keyEq priceEq

end Step

theorem accountRun_represents {key : String} {digest : String → String}
    {start state : AccountState} {inputs : List LedgerInput} (starts : StartsFlat start)
    (run : Run (AccountStep digest) start inputs state)
    (oneKey : ∀ input ∈ inputs, positionKey input.intent.asDict = key)
    (priced : ∀ input ∈ inputs, ∃ price, fillPrice input = some (.finite price)) :
    ∃ accounts : Accounts key, Accounts.Represents state accounts := by
  induction run with
  | nil => exact ⟨Accounts.empty key, starts.represents⟩
  | @snoc labels _before _after input _run stepped ih =>
      have last : input ∈ labels ++ [input] :=
        List.mem_append_right labels (List.mem_singleton.mpr rfl)
      obtain ⟨accounts, represents⟩ := ih
        (fun input member => oneKey input (List.mem_append_left _ member))
        (fun input member => priced input (List.mem_append_left _ member))
      exact accountStep_represents represents stepped (oneKey _ last) (priced _ last)

/-! ### The open position at a mark -/

private theorem upper_side (net : Int) :
    upper (printValue ((PyValue.str (side net)).or (.str "FLAT"))) = side net := by
  unfold side
  split
  · decide
  · split <;> decide

private theorem side_open (net : Int) : side net ∈ openPositionSides ↔ net ≠ 0 := by
  unfold side
  split
  · exact iff_of_true (by decide) (by omega)
  · split
    · exact iff_of_true (by decide) (by omega)
    · exact iff_of_false (by decide) (by omega)

theorem rowValuation_exact (mark : ℚ) (held : average = none ↔ net = 0) :
    rowValuation id net (side net) (average.map PyFloat.finite) (some (.finite mark)) =
      if net = 0 then ⟨"FLAT", some (.finite 0), some (.finite 0)⟩
      else ⟨"VALUED", some (.finite ((mark - average.getD 0) * (net : ℤ))),
        some (.finite ((net.natAbs : ℤ) * mark))⟩ := by
  unfold rowValuation
  by_cases flat : net = 0
  · have closed : ¬(net ≠ 0 ∧ side net ∈ openPositionSides) := fun both => both.1 flat
    rw [if_neg closed, if_pos flat]
  · rw [if_pos ⟨flat, (side_open net).mpr flat⟩, if_neg flat]
    obtain ⟨own, rfl⟩ := Option.ne_none_iff_exists'.mp (fun none => flat (held.mp none))
    simp only [Option.map_some, Option.getD_some, PyFloat.finite_sub, PyFloat.ofInt,
      PyFloat.finite_mul, PyFloat.roundWith_id]
    have signed : ((net.natAbs : ℤ) : ℚ) * ((if side net = "LONG" then 1 else -1 : ℤ) : ℚ) = net := by
      rw [← Int.cast_mul]
      congr 1
      unfold side
      by_cases long : net > 0
      · rw [if_pos long, if_pos rfl]
        omega
      · have short : net < 0 := by omega
        rw [if_neg long, if_pos short, if_neg (by decide)]
        omega
    rw [mul_assoc, signed]

structure RowReads (row : PyDict) (net : Int) (valuation : RowValuation) : Prop where
  netQuantity : row.get "net_quantity" = .int net
  side : row.get "side" = .str (side net)
  unrealized : row.get "unrealized_pnl" = ofOptionFloat valuation.unrealizedPnl
  status : row.get "row_status" = .str valuation.rowStatus

theorem mtmRow_toDict (rounding : ℚ → ℚ) (position : Position) (marks : PyDict)
    (tsEpoch : Option PyFloat) : ∃ row, mtmRow rounding position.toDict marks tsEpoch = .ok row ∧
    RowReads row position.netQuantity (rowValuation rounding position.netQuantity
      (side position.netQuantity) position.averageEntryPrice
      (markPriceForPosition position.toDict marks)) := by
  unfold mtmRow
  rw [Position.toDict_get_netQuantity, Position.toDict_get_averageEntryPrice, intOrZero_int,
    floatOrNone_ofOptionFloat, Position.toDict_get_side, upper_side]
  exact ⟨_, rfl, rfl, rfl, rfl, rfl⟩

private theorem isOpenRow_eq {valuation : RowValuation} (reads : RowReads row net valuation) :
    isOpenRow row = .ok (decide (net ≠ 0)) := by
  unfold isOpenRow
  rw [reads.netQuantity, reads.side, intOrZero_int]
  by_cases flat : net = 0
  · simp only [bind, Except.bind, pure, Except.pure, flat, ne_eq, not_true_eq_false, decide_false,
      Bool.and_false]
  · have opens : openPositionSides.any (PyValue.str (side net)).isStr = true := by
      rw [List.any_eq_true]
      refine ⟨side net, (side_open net).mpr flat, ?_⟩
      rw [PyValue.isStr_eq_true]
    simp only [bind, Except.bind, pure, Except.pure, opens, Bool.true_and]

private theorem filterM_isOpenRow {valuation : RowValuation} (reads : RowReads row net valuation) :
    [row].filterM isOpenRow = .ok (if net = 0 then [] else [row]) := by
  simp only [List.filterM, List.filterAuxM, isOpenRow_eq reads]
  by_cases flat : net = 0
  · rw [if_pos flat]
    simp only [flat, ne_eq, not_true_eq_false, decide_false]
    rfl
  · rw [if_neg flat]
    simp only [flat, ne_eq, not_false_eq_true, decide_true]
    rfl

theorem mtmSummary_singleton {mark : ℚ} (held : average = none ↔ net = 0)
    (reads : RowReads row net (rowValuation id net (side net) (average.map PyFloat.finite)
      (some (.finite mark)))) {summarized : PyDict} {missing : Nat}
    (summary : mtmSummary id [row] = .ok (summarized, missing)) :
    floatOrNone (summarized.get "total_unrealized_pnl") =
        some (.finite ((mark - average.getD 0) * (net : ℤ))) ∧
      row.get "unrealized_pnl" = .float (.finite ((mark - average.getD 0) * (net : ℤ))) := by
  have unrealized := reads.unrealized
  have status := reads.status
  rw [rowValuation_exact mark held] at unrealized status
  unfold mtmSummary at summary
  rw [filterM_isOpenRow reads] at summary
  by_cases flat : net = 0
  · subst flat
    rw [if_pos rfl] at unrealized summary
    cases summary
    rw [unrealized, Int.cast_zero, mul_zero]
    exact ⟨rfl, rfl⟩
  · rw [if_neg flat] at unrealized status summary
    have valued : [row].filter (fun row => (row.get "row_status").isStr "VALUED") = [row] := by
      rw [List.filter_cons, status]
      rfl
    obtain ⟨openRows, opened, summary⟩ := bind_eq_ok.mp summary
    cases opened
    obtain ⟨quantities, _, summary⟩ := bind_eq_ok.mp summary
    rw [valued] at summary
    cases summary
    refine ⟨?_, unrealized⟩
    change floatOrNone (roundedSum id [floatOrZero (row.get "unrealized_pnl")]) = _
    rw [unrealized, floatOrNone_roundedSum id rfl, PyFloat.roundWith_id, ofOptionFloat,
      floatOrZero_float]
    change some (PyFloat.finite (0 + _)) = _
    rw [zero_add]

theorem mtm_exact {key : String} (accounts : Accounts key) {marks : PyValue}
    {nowEpoch tsEpoch : Option PyFloat} {maxMarkAgeSec : PyFloat} {mark : ℚ}
    {result : PaperMtmPnlResult}
    (valued : buildPaperMtmPnl id (.dict accounts.positions.toDict) marks nowEpoch maxMarkAgeSec
      tsEpoch = .ok result) (unblocked : result.status ≠ .blocked)
    (marked : ∀ position, (positionsOf (.dict accounts.positions.toDict)).lookup key = some position →
      markPriceForPosition position.asDict marks.asDict = some (.finite mark)) :
    floatOrNone (result.summary.get "total_unrealized_pnl") =
        some (.finite ((mark - accounts.average.getD 0) * (accounts.positions.net key : ℤ))) ∧
      result.rows.length = (positionsOf (.dict accounts.positions.toDict)).length ∧
      ∀ row ∈ result.rows, row.get "unrealized_pnl" =
        .float (.finite ((mark - accounts.average.getD 0) * (accounts.positions.net key : ℤ))) := by
  have held := accounts.balanced.average_eq_none_iff
  have stored := accounts.averageStored
  have entries : ((PyValue.dict accounts.positions.toDict).asDict.get "positions").asDict =
      accounts.positions.positionEntries := rfl
  rw [positionsOf, entries] at marked ⊢
  unfold buildPaperMtmPnl at valued
  dsimp only at valued
  split at valued
  · cases valued
    exact absurd rfl unblocked
  rw [entries] at valued
  rcases accounts.onlyKey with none | ⟨position, one⟩
  · have noEntries : accounts.positions.positionEntries = [] := by
      rw [Book.positionEntries, none]
      rfl
    have flat : accounts.positions.net key = 0 := by
      rw [Book.net, none]
      rfl
    rw [noEntries] at valued ⊢
    cases valued
    rw [flat, Int.cast_zero, mul_zero]
    refine ⟨rfl, rfl, ?_⟩
    intro row member
    cases member
  · have oneEntry : accounts.positions.positionEntries = [(key, .dict position.toDict)] := by
      rw [Book.positionEntries, one]
      rfl
    have found : accounts.positions.positions.lookup key = some position := by
      rw [one, Assoc.lookup_cons_self]
    have net : accounts.positions.net key = position.netQuantity := by
      rw [Book.net, found]
      rfl
    have average : accounts.positions.average key = position.averageEntryPrice := by
      rw [Book.average, found]
      rfl
    rw [oneEntry] at valued marked ⊢
    have markEq := marked _ (Assoc.lookup_cons_self key _ [])
    rw [PyValue.asDict_dict] at markEq
    obtain ⟨row, rowBuilt, reads⟩ := mtmRow_toDict id position marks.asDict tsEpoch
    rw [markEq, ← average, stored, ← net] at reads
    rw [List.isEmpty_cons, if_neg Bool.false_ne_true] at valued
    obtain ⟨rows, rowsBuilt, valued⟩ := bind_eq_ok.mp valued
    have eachRow : ∀ entry ∈ [(key, PyValue.dict position.toDict)], (do
        let position ← toDict entry.2
        mtmRow id position marks.asDict tsEpoch) = .ok row := by
      intro entry member
      cases List.mem_singleton.mp member
      exact rowBuilt
    rw [mapM_eq_ok_map eachRow] at rowsBuilt
    cases rowsBuilt
    obtain ⟨⟨summarized, missing⟩, summary, valued⟩ := bind_eq_ok.mp valued
    cases valued
    obtain ⟨total, unrealized⟩ := mtmSummary_singleton held reads summary
    refine ⟨total, rfl, ?_⟩
    intro other member
    cases List.mem_singleton.mp member
    exact unrealized

/-! ### The accounting identity -/

def Covered (state : AccountState) (input : LedgerInput) : Prop :=
  ∃ cumulative, intOrZero (input.lifecycleEvent.asDict.get "filled_quantity") = .ok cumulative ∧
    cumulative ≤ orderFillOf state.positionLedger
      (printValue (input.lifecycleEvent.asDict.get "paper_order_id"))

section Identity

variable {key : String} {digest : String → String} {start state : AccountState}
variable {inputs : List LedgerInput}

theorem covered_step {accounts : Accounts key} {after : AccountState} {input : LedgerInput}
    (represents : Accounts.Represents state accounts)
    (stepped : AccountStep digest state input after) (covered : Covered state input) :
    Accounts.Represents after accounts := by
  obtain ⟨cumulative, read, below⟩ := covered
  rw [PositionLedger.Represents.orderFillOf (.inl represents.positions)] at below
  apply stale_step represents stepped
  intro other fresh
  cases read.symm.trans fresh.read
  exact absurd fresh.fresh (not_lt.mpr below)

theorem paperPnl_identity (starts : StartsFlat start)
    (run : Run (AccountStep digest) start inputs state)
    (oneKey : ∀ input ∈ inputs, positionKey input.intent.asDict = key)
    (priced : ∀ input ∈ inputs, ∃ price, fillPrice input = some (.finite price)) :
    (∀ (marks : PyValue) (nowEpoch : Option PyFloat) (maxMarkAgeSec : PyFloat)
        (tsEpoch : Option PyFloat) (mark : ℚ) (result : PaperMtmPnlResult),
      buildPaperMtmPnl id state.positionLedger marks nowEpoch maxMarkAgeSec tsEpoch = .ok result →
      result.status ≠ .blocked →
      (∀ position, (positionsOf state.positionLedger).lookup key = some position →
        markPriceForPosition position.asDict marks.asDict = some (.finite mark)) →
      ∃ realized unrealized : ℚ,
        totalRealizedPnl state.realizedLedger = .finite realized ∧
          floatOrNone (result.summary.get "total_unrealized_pnl") = some (.finite unrealized) ∧
          result.rows.length = (positionsOf state.positionLedger).length ∧
          (∀ row ∈ result.rows, row.get "unrealized_pnl" = .float (.finite unrealized)) ∧
          realized + unrealized =
            mark * (netQuantityOf state.positionLedger key : ℤ) - state.paid) ∧
      ∀ input after, AccountStep digest state input after → Covered state input →
        after.paid = state.paid ∧
          netQuantityOf after.positionLedger key = netQuantityOf state.positionLedger key ∧
          totalRealizedPnl after.realizedLedger = totalRealizedPnl state.realizedLedger := by
  obtain ⟨accounts, represents⟩ := accountRun_represents starts run oneKey priced
  constructor
  · intro marks nowEpoch maxMarkAgeSec tsEpoch mark result valued unblocked marked
    rw [represents.netQuantityOf, represents.totalRealizedPnl, represents.paid]
    rw [represents.positions] at valued marked ⊢
    obtain ⟨total, size, rows⟩ := mtm_exact accounts valued unblocked marked
    exact ⟨accounts.gain, _, rfl, total, size, rows, accounts.balanced.mark mark⟩
  · intro input after stepped covered
    have kept := covered_step represents stepped covered
    refine ⟨?_, ?_, ?_⟩
    · rw [kept.paid, represents.paid]
    · rw [kept.netQuantityOf, represents.netQuantityOf]
    · rw [kept.totalRealizedPnl, represents.totalRealizedPnl]

end Identity

/-! ### An entry, a partial exit and the exit once more -/

private def flatAccounts : AccountState :=
  { positionLedger := .dict (buildLedger [] [] .none), realizedLedger := .none, paid := 0 }

private def accountsAfter (state : AccountState) (input : LedgerInput) : AccountState :=
  (accountAfter id state input).toOption.getD state

private def tradedAccounts : AccountState :=
  accountsAfter (accountsAfter (accountsAfter flatAccounts entryInput) exitInput) exitInput

private def exampleMarks : PyValue :=
  .dict [("source", .str "CONTROLLED_MARK"), ("is_order_action", .bool false),
    ("mark_price", .int 103)]

theorem paperPnl_identity_entryExit :
    ∃ realized unrealized : ℚ, totalRealizedPnl tradedAccounts.realizedLedger = .finite realized ∧
      realized + unrealized = 103 * 6 - (10 * 100 - 4 * 105) := by
  have step : ∀ state input, accountAfter id state input = .ok (accountsAfter state input) →
      Accepted state input → AccountStep id state input (accountsAfter state input) :=
    fun _ _ stepped accepted => ⟨accepted, stepped⟩
  have run : Run (AccountStep id) flatAccounts ([] ++ [entryInput] ++ [exitInput] ++ [exitInput])
      tradedAccounts :=
    .snoc (.snoc (.snoc .nil
      (step _ _ rfl ⟨⟨_, rfl⟩, ⟨_, rfl⟩⟩))
      (step _ _ rfl ⟨⟨_, rfl⟩, ⟨_, rfl⟩⟩))
      (step _ _ rfl ⟨⟨_, rfl⟩, ⟨_, rfl⟩⟩)
  have both : ∀ input ∈ [] ++ [entryInput] ++ [exitInput] ++ [exitInput],
      input = entryInput ∨ input = exitInput := by
    intro input member
    simpa only [List.nil_append, List.cons_append, List.mem_cons, List.not_mem_nil, or_false,
      or_self_left, or_self] using member
  have oneKey : ∀ input ∈ [] ++ [entryInput] ++ [exitInput] ++ [exitInput],
      positionKey input.intent.asDict = "12345" := by
    intro input member
    rcases both input member with rfl | rfl <;> decide
  have priced : ∀ input ∈ [] ++ [entryInput] ++ [exitInput] ++ [exitInput],
      ∃ price, fillPrice input = some (.finite price) := by
    intro input member
    rcases both input member with rfl | rfl
    · exact ⟨100, rfl⟩
    · exact ⟨105, rfl⟩
  have identity := (paperPnl_identity ⟨rfl, .inl rfl, rfl⟩ run oneKey priced).1 exampleMarks none
    (.finite 30) none 103
  have evaluated : (buildPaperMtmPnl id tradedAccounts.positionLedger exampleMarks none
      (.finite 30) none).toOption.map PaperMtmPnlResult.status = some .valued := by decide
  have marked : ∀ entry ∈ positionsOf tradedAccounts.positionLedger,
      markPriceForPosition entry.2.asDict exampleMarks.asDict = some (.finite 103) := by
    decide
  cases valued : buildPaperMtmPnl id tradedAccounts.positionLedger exampleMarks none (.finite 30)
      none with
  | error raised =>
      rw [valued] at evaluated
      cases evaluated
  | ok result =>
      rw [valued] at evaluated
      have unblocked : result.status ≠ .blocked := by
        rw [Option.some.inj evaluated]
        decide
      obtain ⟨realized, unrealized, total, _, _, _, balance⟩ := identity result valued unblocked
        (fun position found => marked _ (Assoc.mem_of_lookup found))
      have net : netQuantityOf tradedAccounts.positionLedger "12345" = 6 := by decide +kernel
      have paid : tradedAccounts.paid = 10 * 100 - 4 * 105 := by decide +kernel
      rw [net, paid] at balance
      exact ⟨realized, unrealized, total, balance⟩

end Algotradify.Paper.PnlIdentity
