/-
The parting of the broker's rows into those that a reconciliation pairs with local trades
and those that it reports without a trade.

The loop serves the trades in turn with the first row left that matches. Over all orders
of the rows and of the trades it keeps the rows of one holding together, and gives each
trade a row of its own contract, exactly where no such service can go wrong.
-/

import Algotradify.Core.PositionReconciliation
import Algotradify.Matching.Greedy
import Mathlib.Data.List.Sigma

namespace Algotradify.Core.Reconciliation

open Py FillEvents TradeState Matching Transition

/-! ### Contracts and holdings -/

def contractSymbol (row : PyDict) : String :=
  ((["tradingsymbol", "trading_symbol", "symbol"].map fun key =>
    upper (normText (row.get key))).find? (· ≠ "")).getD ""

def isOpenRow (row : PyDict) : Bool :=
  !(positionQuantityAbs row).le (.finite 0)

structure IsOwn (trade row : PyDict) : Prop where
  named : contractSymbol trade ≠ ""
  contract : contractSymbol row = contractSymbol trade
  isOpen : isOpenRow row = true

def holdingFields : List String :=
  ["exchange", "product", "expiry", "strike", "right", "option_type"]

structure SameHolding (row other : PyDict) : Prop where
  named : contractSymbol row ≠ ""
  contract : contractSymbol other = contractSymbol row
  fields : ∀ key ∈ holdingFields,
    upper (normText (other.get key)) = upper (normText (row.get key))

/-- A row that is handed out and an open row of the same holding that is left. -/
def PartsHolding (row other : PyDict) : Prop :=
  SameHolding row other ∧ isOpenRow other = true

theorem contractSymbol_mem {row : PyDict} (named : contractSymbol row ≠ "") :
    contractSymbol row ∈ candidateKeys row := by
  unfold contractSymbol at named ⊢
  cases found : (["tradingsymbol", "trading_symbol", "symbol"].map fun key =>
      upper (normText (row.get key))).find? (· ≠ "") with
  | none =>
      rw [found] at named
      exact absurd rfl named
  | some text =>
      have listed := List.mem_of_find?_eq_some found
      have filled := List.find?_some found
      apply List.mem_append_left
      apply List.mem_filter.mpr
      refine ⟨?_, filled⟩
      simp only [List.map_cons, List.map_nil, List.mem_cons, List.not_mem_nil, or_false] at listed ⊢
      rcases listed with same | same | same
      · exact Or.inr (Or.inl same)
      · exact Or.inr (Or.inr (Or.inl same))
      · exact Or.inr (Or.inr (Or.inr (Or.inl same)))

theorem IsOwn.matches {trade row : PyDict} (own : IsOwn trade row) :
    matchesRow trade row = true := by
  have known := contractSymbol_mem own.named
  have shared : contractSymbol trade ∈ candidateKeys row := by
    rw [← own.contract]
    apply contractSymbol_mem
    rw [own.contract]
    exact own.named
  unfold matchesRow
  rw [Bool.and_eq_true, List.any_eq_true]
  exact ⟨own.isOpen, _, known, List.contains_iff_mem.mpr shared⟩

theorem sameHolding_set {row other : PyDict} {value : PyValue} :
    SameHolding row (other.set "reconciliation_reason_code" value) ↔ SameHolding row other := by
  have frame (key : String) (different : key ≠ "reconciliation_reason_code") :
      PyDict.get (other.set "reconciliation_reason_code" value) key = other.get key :=
    PyDict.get_set_of_ne _ _ different
  have contract : contractSymbol (other.set "reconciliation_reason_code" value) =
      contractSymbol other := by
    unfold contractSymbol
    simp only [List.map_cons, List.map_nil, frame "tradingsymbol" (by decide),
      frame "trading_symbol" (by decide), frame "symbol" (by decide)]
  have fields (key : String) (listed : key ∈ holdingFields) :
      PyDict.get (other.set "reconciliation_reason_code" value) key = other.get key := by
    apply frame
    rintro rfl
    exact absurd listed (by decide)
  constructor
  · intro same
    refine ⟨same.named, contract.symm.trans same.contract, ?_⟩
    intro key listed
    rw [← fields key listed]
    exact same.fields key listed
  · intro same
    refine ⟨same.named, contract.trans same.contract, ?_⟩
    intro key listed
    rw [fields key listed]
    exact same.fields key listed

/-! ### The loop as a service -/

def pairedRows (rows : List PyDict) : List ℕ → List PyDict → List (PyDict × Option PyDict)
  | _, [] => []
  | usedIndexes, trade :: rest =>
      let found := findMatchingBrokerPosition trade rows usedIndexes
      (trade, found.map Prod.fst) ::
        pairedRows rows (usedIndexes ++ (found.map Prod.snd).toList) rest

def freeRows (rows : List PyDict) (usedIndexes : List ℕ) : List (PyDict × ℕ) :=
  rows.zipIdx.filter fun entry => !usedIndexes.contains entry.2

def matchesEntry (trade : PyDict) (entry : PyDict × ℕ) : Bool :=
  matchesRow trade entry.1

section Rows

variable {now ts : String} {rows : List PyDict}

theorem freeRows_nil (rows : List PyDict) : freeRows rows [] = rows.zipIdx := by
  simp [freeRows]

theorem freeRows_apart (rows : List PyDict) (usedIndexes : List ℕ) :
    ((freeRows rows usedIndexes).map Prod.snd).Nodup :=
  (List.nodup_zipIdx_map_snd rows).sublist (List.filter_sublist.map Prod.snd)

theorem findMatching_first (trade : PyDict) (usedIndexes : List ℕ) :
    findMatchingBrokerPosition trade rows usedIndexes =
      (takeFirst (matchesEntry trade) (freeRows rows usedIndexes)).map Prod.fst := by
  rw [takeFirst_find, freeRows, List.find?_filter]
  unfold findMatchingBrokerPosition matchesEntry
  congr 1
  funext entry
  simp

theorem takeFirst_free {trade : PyDict} {usedIndexes : List ℕ} {entry : PyDict × ℕ}
    {others : List (PyDict × ℕ)}
    (found : takeFirst (matchesEntry trade) (freeRows rows usedIndexes) = some (entry, others)) :
    others = freeRows rows (usedIndexes ++ [entry.2]) := by
  obtain ⟨_, front, back, cut, rest⟩ := takeFirst_eq_some found
  have apart := freeRows_apart rows usedIndexes
  rw [cut, List.map_append, List.map_cons, List.nodup_middle, List.nodup_cons,
    ← List.map_append] at apart
  have narrowed : freeRows rows (usedIndexes ++ [entry.2]) =
      (freeRows rows usedIndexes).filter fun other => decide (other.2 ≠ entry.2) := by
    unfold freeRows
    rw [List.filter_filter]
    congr 1
    funext other
    by_cases same : other.2 = entry.2 <;> simp [same]
  have kept : (front ++ back).filter (fun other => decide (other.2 ≠ entry.2)) = front ++ back := by
    apply List.filter_eq_self.mpr
    intro other member
    apply decide_eq_true
    intro same
    apply apart.1
    rw [← same]
    exact List.mem_map_of_mem member
  rw [narrowed, cut, List.filter_append, List.filter_cons_of_neg (by simp), ← List.filter_append,
    kept, rest]

theorem pairedRows_serve (usedIndexes : List ℕ) (trades : List PyDict) :
    pairedRows rows usedIndexes trades =
      (serve matchesEntry trades (freeRows rows usedIndexes)).1.map fun entry =>
        (entry.1, entry.2.map Prod.fst) := by
  induction trades generalizing usedIndexes with
  | nil => rfl
  | cons trade rest ih =>
      rw [pairedRows, findMatching_first]
      cases found : takeFirst (matchesEntry trade) (freeRows rows usedIndexes) with
      | none =>
          rw [serve_none found]
          simp [ih]
      | some pair =>
          rw [serve_some found, takeFirst_free found]
          simp [ih]

theorem pairedRows_start (trades : List PyDict) :
    pairedRows rows [] trades = (serve matchesRow trades rows).1 := by
  have untagged := serve_map matchesRow Prod.fst trades rows.zipIdx
  rw [List.zipIdx_map_fst] at untagged
  rw [pairedRows_serve, freeRows_nil, untagged]
  rfl

/-! ### One turn -/

theorem reconcilePosition_returns_iff {pass : Pass} {trade : PyDict} :
    (∃ next, reconcilePosition now ts rows pass trade = .ok next) ↔
      ∃ state, inferTradeLifecycleState trade = .ok state := by
  constructor
  · rintro ⟨next, turned⟩
    obtain ⟨hydrated, rehydrated, _⟩ := bind_eq_ok.mp turned
    obtain ⟨state, inferred, _⟩ := bind_eq_ok.mp rehydrated
    exact ⟨state, inferred⟩
  · rintro ⟨state, inferred⟩
    unfold reconcilePosition rehydrateTradeLifecycle
    rw [inferred]
    exact ⟨_, rfl⟩

end Rows

/-! ### The whole loop -/

section Loop

variable {now ts : String} {rows : List PyDict}

theorem loop_serves {pass final : Pass} {trades : List PyDict}
    (done : trades.foldlM (reconcilePosition now ts rows) pass = .ok final) :
    freeRows rows final.usedIndexes =
        (serve matchesEntry trades (freeRows rows pass.usedIndexes)).2 ∧
      ∃ restored, final.restoredRows = pass.restoredRows ++ restored ∧
        List.Forall₂ (fun entry after => PyDict.get after "broker_position_qty" =
            .float (positionQuantityAbs (entry.2.getD [])))
          (pairedRows rows pass.usedIndexes trades) restored := by
  induction trades generalizing pass with
  | nil =>
      cases done
      exact ⟨rfl, [], (List.append_nil _).symm, .nil⟩
  | cons trade rest ih =>
      rw [List.foldlM_cons] at done
      obtain ⟨next, turned, later⟩ := bind_eq_ok.mp done
      obtain ⟨restored, _, rowsNext, usedNext, _, quantity⟩ := reconcilePosition_turn turned
      obtain ⟨left, others, rowsLast, quantities⟩ := ih later
      refine ⟨?_, restored :: others, ?_, ?_⟩
      · rw [left, usedNext, findMatching_first]
        cases found : takeFirst (matchesEntry trade) (freeRows rows pass.usedIndexes) with
        | none =>
            rw [serve_none found]
            simp
        | some pair =>
            rw [serve_some found, takeFirst_free found]
            simp
      · rw [rowsLast, rowsNext, List.append_assoc, List.singleton_append]
      · rw [usedNext] at quantities
        exact .cons quantity quantities

theorem loop_returns_iff {pass : Pass} {trades : List PyDict} :
    (∃ final, trades.foldlM (reconcilePosition now ts rows) pass = .ok final) ↔
      ∀ trade ∈ trades, ∃ state, inferTradeLifecycleState trade = .ok state := by
  induction trades generalizing pass with
  | nil => simp [pure, Except.pure]
  | cons trade rest ih =>
      rw [List.forall_mem_cons]
      constructor
      · rintro ⟨final, done⟩
        rw [List.foldlM_cons] at done
        obtain ⟨next, turned, later⟩ := bind_eq_ok.mp done
        exact ⟨reconcilePosition_returns_iff.mp ⟨next, turned⟩, ih.mp ⟨final, later⟩⟩
      · rintro ⟨own, others⟩
        obtain ⟨next, turned⟩ := reconcilePosition_returns_iff.mpr own
        obtain ⟨final, later⟩ := ih.mpr others
        refine ⟨final, ?_⟩
        rw [List.foldlM_cons]
        exact bind_eq_ok.mpr ⟨next, turned, later⟩

theorem unmatchedPositions_free (usedIndexes : List ℕ) :
    unmatchedPositions rows usedIndexes =
      (((freeRows rows usedIndexes).map Prod.fst).filter isOpenRow).map fun row =>
        row.set "reconciliation_reason_code" (.str "broker_position_without_local_trade") := by
  unfold unmatchedPositions freeRows
  rw [List.filter_map, List.map_map, List.filter_filter]
  congr 1
  apply List.filter_congr
  intro entry _
  exact Bool.and_comm _ _

end Loop

/-! ### What is reported -/

/-- No holding has a row that is paired with a trade and a row without one, and each trade
with a row of its own contract is paired with such a row. -/
structure Partitioned (rows trades : List PyDict) (summary : PositionSummary) : Prop where
  apart : ∀ trade row, (trade, some row) ∈ pairedRows rows [] trades →
    ∀ orphan ∈ summary.unmatchedBrokerPositions, ¬SameHolding row orphan
  own : ∀ trade paired, (trade, paired) ∈ pairedRows rows [] trades →
    (∃ row ∈ rows, IsOwn trade row) → ∃ row, paired = some row ∧ IsOwn trade row

section Summaries

variable {now : String} {rawPositions timestamp : PyValue} {trades : List PyDict}
  {summary : PositionSummary}

theorem reconcilePositions_returns_iff :
    (∃ summary, reconcilePositions now rawPositions trades timestamp = .ok summary) ↔
      ∀ trade ∈ trades, ∃ state, inferTradeLifecycleState trade = .ok state := by
  cases trades with
  | nil => exact iff_of_true ⟨_, rfl⟩ (fun trade member => absurd member List.not_mem_nil)
  | cons first rest =>
      rw [← loop_returns_iff]
      constructor
      · rintro ⟨summary, returned⟩
        obtain ⟨pass, done, _⟩ := bind_eq_ok.mp returned
        exact ⟨pass, done⟩
      · rintro ⟨pass, done⟩
        exact ⟨_, bind_eq_ok.mpr ⟨pass, done, rfl⟩⟩

theorem unmatched_serve
    (returned : reconcilePositions now rawPositions trades timestamp = .ok summary)
    (given : trades ≠ []) :
    summary.unmatchedBrokerPositions =
      ((serve matchesRow trades (fetchBrokerPositionsSnapshot rawPositions)).2.filter
        isOpenRow).map fun row =>
          row.set "reconciliation_reason_code" (.str "broker_position_without_local_trade") := by
  cases trades with
  | nil => exact absurd rfl given
  | cons first rest =>
      obtain ⟨pass, done, made⟩ := bind_eq_ok.mp returned
      cases made
      have untagged := serve_map matchesRow Prod.fst (first :: rest)
        (fetchBrokerPositionsSnapshot rawPositions).zipIdx
      rw [List.zipIdx_map_fst] at untagged
      have left := (loop_serves done).1
      rw [freeRows_nil] at left
      change unmatchedPositions _ pass.usedIndexes = _
      rw [unmatchedPositions_free, left, untagged]
      rfl

theorem partitioned_iff_sound
    (returned : reconcilePositions now rawPositions trades timestamp = .ok summary) :
    Partitioned (fetchBrokerPositionsSnapshot rawPositions) trades summary ↔
      Sound IsOwn PartsHolding (fetchBrokerPositionsSnapshot rawPositions)
        (serve matchesRow trades (fetchBrokerPositionsSnapshot rawPositions)).1
        (serve matchesRow trades (fetchBrokerPositionsSnapshot rawPositions)).2 := by
  generalize fetched : fetchBrokerPositionsSnapshot rawPositions = rows
  by_cases given : trades = []
  · subst given
    constructor
    · intro _
      exact ⟨fun slot handed => absurd handed List.not_mem_nil,
        fun taker entry member => absurd member List.not_mem_nil⟩
    · intro _
      exact ⟨fun trade row member => absurd member List.not_mem_nil,
        fun trade paired member => absurd member List.not_mem_nil⟩
  · have orphans := unmatched_serve returned given
    rw [fetched] at orphans
    constructor
    · intro parted
      refine ⟨?_, ?_⟩
      · rintro row handed other stays ⟨same, isOpen⟩
        obtain ⟨⟨trade, paired⟩, member, rfl⟩ := List.mem_filterMap.mp handed
        refine parted.apart trade row ?_ (other.set "reconciliation_reason_code"
          (.str "broker_position_without_local_trade")) ?_ (sameHolding_set.mpr same)
        · rw [pairedRows_start]
          exact member
        · rw [orphans]
          exact List.mem_map_of_mem (List.mem_filter.mpr ⟨stays, isOpen⟩)
      · intro trade paired member owned
        apply parted.own trade paired _ owned
        rw [pairedRows_start]
        exact member
    · intro sound
      refine ⟨?_, ?_⟩
      · intro trade row member orphan reported same
        rw [pairedRows_start] at member
        rw [orphans] at reported
        obtain ⟨other, stays, rfl⟩ := List.mem_map.mp reported
        obtain ⟨left, isOpen⟩ := List.mem_filter.mp stays
        refine sound.apart row ?_ other left ⟨sameHolding_set.mp same, isOpen⟩
        exact List.mem_filterMap.mpr ⟨_, member, rfl⟩
      · intro trade paired member owned
        rw [pairedRows_start] at member
        exact sound.own trade paired member owned

end Summaries

/-- Whatever the order of the broker's rows and of the trades, a reconciliation that
returns parts no holding. -/
def PartitionedInAnyOrder (now : String) (rawPositions : PyValue) (trades : List PyDict)
    (timestamp : PyValue) : Prop :=
  ∀ rawOrdered localPositions summary,
    (fetchBrokerPositionsSnapshot rawOrdered).Perm (fetchBrokerPositionsSnapshot rawPositions) →
    localPositions.Perm trades →
    reconcilePositions now rawOrdered localPositions timestamp = .ok summary →
      Partitioned (fetchBrokerPositionsSnapshot rawOrdered) localPositions summary

theorem fetch_rows (rows : List PyDict) :
    fetchBrokerPositionsSnapshot (.list (rows.map .dict)) = rows := by
  induction rows with
  | nil => rfl
  | cons row rest ih =>
      change row :: fetchBrokerPositionsSnapshot (.list (rest.map .dict)) = row :: rest
      rw [ih]

/-- The report is right in every order exactly where the pairing can go wrong in none, or
the state of some trade cannot be told. -/
theorem partitioned_inAnyOrder_iff (now : String) (rawPositions : PyValue) (trades : List PyDict)
    (timestamp : PyValue) :
    PartitionedInAnyOrder now rawPositions trades timestamp ↔
      ¬((∀ trade ∈ trades, ∃ state, inferTradeLifecycleState trade = .ok state) ∧
        Faulty IsOwn PartsHolding matchesRow trades
          (fetchBrokerPositionsSnapshot rawPositions)) := by
  constructor
  · rintro always ⟨told, faulty⟩
    obtain ⟨localPositions, rows, sameTrades, sameRows, unsound⟩ := faulty.exists_order
    have toldHere : ∀ trade ∈ localPositions, ∃ state,
        inferTradeLifecycleState trade = .ok state :=
      fun trade member => told trade (sameTrades.subset member)
    obtain ⟨summary, returned⟩ := (@reconcilePositions_returns_iff now (.list (rows.map .dict))
      timestamp localPositions).mpr toldHere
    apply unsound
    have parted := (partitioned_iff_sound returned).mp (always _ _ summary
      (by rw [fetch_rows]; exact sameRows) sameTrades returned)
    rw [fetch_rows] at parted
    exact parted
  · intro right rawOrdered localPositions summary sameRows sameTrades returned
    apply (partitioned_iff_sound returned).mpr
    apply sound_of_faultless
    · intro trade row own
      exact own.matches
    · intro faulty
      apply right
      refine ⟨?_, Faulty.perm IsOwn PartsHolding sameTrades sameRows faulty⟩
      intro trade member
      exact reconcilePositions_returns_iff.mp ⟨summary, returned⟩ trade
        (sameTrades.symm.subset member)

def relianceRow : PyDict :=
  [("tradingsymbol", .str "RELIANCE"), ("quantity", .int 100)]

def netAndDay : PyValue :=
  .dict [("net", .list [.dict relianceRow]), ("day", .list [.dict relianceRow])]

/-- The trade is paired with the net row of its holding, and the day row is an orphan. -/
theorem day_row_orphaned :
    ¬∀ now rawPositions trades timestamp,
      PartitionedInAnyOrder now rawPositions trades timestamp := by
  intro always
  obtain ⟨summary, returned⟩ := exists_ok (show (reconcilePositions "2024-01-01" netAndDay
    [localTrade "T1" 100] .none).toOption.isSome = true by decide)
  have parted := always _ _ _ _ netAndDay [localTrade "T1" 100] summary (List.Perm.refl _)
    (List.Perm.refl _) returned
  have sound := (partitioned_iff_sound returned).mp parted
  have rows : fetchBrokerPositionsSnapshot netAndDay = [relianceRow, relianceRow] := rfl
  have fit : matchesRow (localTrade "T1" 100) relianceRow = true := by decide
  have served := serve_assigned (.cons fit .nil) [] [relianceRow]
  change serve matchesRow [localTrade "T1" 100] [relianceRow, relianceRow] = _ at served
  rw [rows, served] at sound
  have same : SameHolding relianceRow relianceRow :=
    ⟨by decide +kernel, rfl, fun _ _ => rfl⟩
  exact sound.apart relianceRow List.mem_cons_self relianceRow List.mem_cons_self
    ⟨same, by decide +kernel⟩

end Algotradify.Core.Reconciliation
