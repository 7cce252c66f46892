/-
The reconciliation of local open trades with the position rows of the broker: each trade is
paired with one row, and is observed as closed, partly filled or active.

The broker's answer, the clock and the wanted timestamp are parameters; the records of the
reconciliation log are left out.

Which trades a reconciliation with the broker's rows closes: those that the first-fit
pairing of trades and rows leaves without a row. A trade of a covered instrument is kept
exactly where the pairing gives it one.
-/

import Algotradify.Core.FillEvents
import Algotradify.Core.TradeLifecycle
import Algotradify.Matching.FirstFit

namespace Algotradify.Core.Reconciliation

open Py FillEvents TradeState

variable {trade : PyDict} {pass : Pass} {trades : List PyDict}

/-- `_fetch_broker_positions_snapshot`, from what the broker answers. -/
def fetchBrokerPositionsSnapshot (raw : PyValue) : List PyDict :=
  let dicts (items : List PyValue) : List PyDict :=
    (items.filter PyValue.isDict).map PyValue.asDict
  match raw with
  | .list items => dicts items
  | .dict entries =>
      ["net", "day", "data", "positions"].flatMap fun key =>
        match PyDict.get entries key with
        | .list items => dicts items
        | _ => []
  | _ => []

def candidateKeys (row : PyDict) : List String :=
  let named :=
    ["instrument_id", "tradingsymbol", "trading_symbol", "symbol", "underlying"].map
      fun key => upper (normText (row.get key))
  let underlying := upper (normText ((row.get "underlying").or (row.get "symbol")))
  let expiry := normText (row.get "expiry")
  let strike := normText (row.get "strike")
  let right := upper (normText ((row.get "right").or (row.get "option_type")))
  let option :=
    if underlying ≠ "" ∧ expiry ≠ "" ∧ strike ≠ "" ∧ right ≠ "" then
      [underlying ++ "|" ++ expiry ++ "|" ++ strike ++ "|" ++ right]
    else []
  named.filter (· ≠ "") ++ option

def positionQuantity (row : PyDict) : PyFloat :=
  let quantity :=
    if (row.get "quantity").isNone then row.get "net_quantity" else row.get "quantity"
  (safeFloat quantity (some (.finite 0))).getD (.finite 0)

def positionQuantityAbs (row : PyDict) : PyFloat :=
  (positionQuantity row).abs

def localTradeQuantityAbs (row : PyDict) : PyFloat :=
  let qty := (safeFloat (row.get "qty_units") none).or
    (safeFloat (row.get "qty") (some (.finite 0)))
  (qty.getD (.finite 0)).abs

def matchesRow (tradeRow brokerRow : PyDict) : Bool :=
  !(positionQuantityAbs brokerRow).le (.finite 0) &&
    (candidateKeys tradeRow).any fun key => (candidateKeys brokerRow).contains key

def findMatchingBrokerPosition (tradeRow : PyDict) (brokerPositions : List PyDict)
    (usedIndexes : List ℕ) : Option (PyDict × ℕ) :=
  brokerPositions.zipIdx.find? fun (brokerRow, idx) =>
    !usedIndexes.contains idx && matchesRow tradeRow brokerRow

def observation (brokerRow : Option PyDict) (brokerQty localQty : PyFloat) :
    TradeLifecycleState × String :=
  if brokerRow.isNone || brokerQty.le (.finite 0) then (.closed, "broker_position_flattened")
  else if PyFloat.lt (.finite 0) localQty && (brokerQty + .finite 1e-9).lt localQty then
    (.partiallyFilled, "broker_partial_position_restored")
  else (.active, "broker_open_position_restored")

structure Pass where
  usedIndexes : List ℕ := []
  positionsRestored : ℕ := 0
  positionsClosed : ℕ := 0
  restoredRows : List PyDict := []
  reasonCodes : List String := []

/-- One turn of the loop of `reconcile_positions`. -/
def reconcilePosition (now ts : String) (brokerRows : List PyDict) (pass : Pass)
    (rawTrade : PyDict) : Except PyError Pass := do
  let hydrated ← rehydrateTradeLifecycle now rawTrade (some "restart_rehydrated") (some ts)
  let found := findMatchingBrokerPosition hydrated brokerRows pass.usedIndexes
  let brokerQty := positionQuantityAbs ((found.map Prod.fst).getD [])
  let localQty := localTradeQuantityAbs hydrated
  let (state, reasonCode) := observation (found.map Prod.fst) brokerQty localQty
  let restored ←
    recordTradeLifecycleObservation now hydrated state (some reasonCode) (some ts)
  let restored := ((restored.set "reconciliation_reason_code" (.str reasonCode)).set
    "broker_position_qty" (.float brokerQty)).set "local_position_qty" (.float localQty)
  pure
    { usedIndexes := pass.usedIndexes ++ (found.map Prod.snd).toList
      positionsRestored := pass.positionsRestored + if state = .closed then 0 else 1
      positionsClosed := pass.positionsClosed + if state = .closed then 1 else 0
      restoredRows := pass.restoredRows ++ [restored]
      reasonCodes := pass.reasonCodes ++ [reasonCode] }

def unmatchedPositions (brokerRows : List PyDict) (usedIndexes : List ℕ) : List PyDict :=
  (brokerRows.zipIdx.filter fun (brokerRow, idx) =>
      !usedIndexes.contains idx && !(positionQuantityAbs brokerRow).le (.finite 0)).map
    fun (brokerRow, _) =>
      brokerRow.set "reconciliation_reason_code" (.str "broker_position_without_local_trade")

structure PositionSummary where
  localOpenPositions : ℕ
  brokerPositions : ℕ
  positionsRestored : ℕ
  positionsClosedFromBrokerTruth : ℕ
  restoredPositions : List PyDict
  unmatchedBrokerPositions : List PyDict
  reasonCodes : List String

def reconcilePositions (now : String) (rawPositions : PyValue) (localPositions : List PyDict)
    (timestamp : PyValue) : Except PyError PositionSummary :=
  let ts := if normText timestamp = "" then now else normText timestamp
  if localPositions.isEmpty then
    .ok
      { localOpenPositions := 0
        brokerPositions := 0
        positionsRestored := 0
        positionsClosedFromBrokerTruth := 0
        restoredPositions := []
        unmatchedBrokerPositions := []
        reasonCodes := ["no_local_open_positions"] }
  else do
    let brokerRows := fetchBrokerPositionsSnapshot rawPositions
    let pass ← localPositions.foldlM (reconcilePosition now ts brokerRows) {}
    let orphans := unmatchedPositions brokerRows pass.usedIndexes
    let orphanCodes := orphans.map fun _ => "broker_position_without_local_trade"
    pure
      { localOpenPositions := localPositions.length
        brokerPositions := brokerRows.length
        positionsRestored := pass.positionsRestored
        positionsClosedFromBrokerTruth := pass.positionsClosed
        restoredPositions := pass.restoredRows
        unmatchedBrokerPositions := orphans
        reasonCodes := (pass.reasonCodes ++ orphanCodes).dedup.insertionSort (· ≤ ·) }

open Matching Transition

/-! ### Covered instruments -/

def localQuantity (key : String) (trades : List PyDict) : PyFloat :=
  ((trades.filter fun trade => (candidateKeys trade).contains key).map
    localTradeQuantityAbs).foldl (· + ·) (.finite 0)

def brokerNetQuantity (key : String) (rows : List PyDict) : PyFloat :=
  ((rows.filter fun row => (candidateKeys row).contains key).map
    positionQuantity).foldl (· + ·) (.finite 0)

def Covered (key : String) (trades rows : List PyDict) : Prop :=
  (localQuantity key trades).le (brokerNetQuantity key rows).abs = true

def isClosed (restored : PyDict) : Prop :=
  restored.get "trade_lifecycle_state" = .str TradeLifecycleState.closed.value

def CoveredKept (trades rows restored : List PyDict) : Prop :=
  ∀ key, Covered key trades rows → ∀ (position : ℕ) trade after,
    trades[position]? = some trade → key ∈ candidateKeys trade →
      restored[position]? = some after → ¬isClosed after

/-! ### The pairing -/

def Fits (trades rows : List PyDict) (position idx : ℕ) : Prop :=
  ∃ trade row, trades[position]? = some trade ∧ rows[idx]? = some row ∧
    matchesRow trade row = true

/-- Every trade of a covered instrument gets a row of its own when the rows are handed out
in the order of the trades, to each the first one that matches and is left. -/
def CoveredPaired (trades rows : List PyDict) : Prop :=
  ∀ pairing, FirstFit (Fits trades rows) pairing →
    ∀ key, Covered key trades rows → ∀ (position : ℕ) trade,
      trades[position]? = some trade → key ∈ candidateKeys trade → pairing position ≠ none

section Rows

variable {now ts : String} {rows : List PyDict}

theorem candidateKeys_congr {left right : PyDict}
    (same : ∀ key, key ∉ lifecycleKeys → left.get key = right.get key) :
    candidateKeys left = candidateKeys right := by
  unfold candidateKeys
  simp only [List.map_cons, List.map_nil, same "instrument_id" (by decide),
    same "tradingsymbol" (by decide), same "trading_symbol" (by decide),
    same "symbol" (by decide), same "underlying" (by decide), same "expiry" (by decide),
    same "strike" (by decide), same "right" (by decide), same "option_type" (by decide)]

theorem matchesRow_congr {left right : PyDict}
    (same : ∀ key, key ∉ lifecycleKeys → left.get key = right.get key) (row : PyDict) :
    matchesRow left row = matchesRow right row := by
  unfold matchesRow
  rw [candidateKeys_congr same]

theorem findMatching_eq_some {row : PyDict} {used : List ℕ} {idx : ℕ}
    (found : findMatchingBrokerPosition trade rows used = some (row, idx)) :
    rows[idx]? = some row ∧ idx ∉ used ∧ matchesRow trade row = true ∧
      ∀ (slot : ℕ) other, rows[slot]? = some other → matchesRow trade other = true →
        slot ∉ used → idx ≤ slot := by
  obtain ⟨accepted, position, bound, same, earlier⟩ :=
    List.find?_eq_some_iff_getElem.mp found
  rw [List.getElem_zipIdx, Nat.zero_add] at same
  cases same
  have inRows : idx < rows.length := by
    rw [List.length_zipIdx] at bound
    exact bound
  rw [Bool.and_eq_true, Bool.not_eq_true'] at accepted
  refine ⟨List.getElem?_eq_getElem inRows, ?_, accepted.2, ?_⟩
  · intro member
    rw [List.contains_iff_mem.mpr member] at accepted
    exact Bool.noConfusion accepted.1
  · intro slot other at_ fits free
    by_contra less
    obtain ⟨inside, same⟩ := List.getElem?_eq_some_iff.mp at_
    have refused := earlier slot (Nat.lt_of_not_le less)
    rw [List.getElem_zipIdx, Nat.zero_add, same] at refused
    have unused : used.contains slot = false := by
      rw [Bool.eq_false_iff]
      exact fun member => free (List.contains_iff_mem.mp member)
    simp only [unused, fits, Bool.not_false, Bool.and_self, Bool.not_true,
      Bool.false_eq_true] at refused

theorem findMatching_eq_none {used : List ℕ}
    (missing : findMatchingBrokerPosition trade rows used = none) :
    ∀ (slot : ℕ) other, rows[slot]? = some other → matchesRow trade other = true →
      slot ∈ used := by
  intro slot other at_ fits
  have member : (other, slot) ∈ rows.zipIdx := List.mem_zipIdx_iff_getElem?.mpr at_
  have refused := List.find?_eq_none.mp missing (other, slot) member
  by_contra free
  apply refused
  have unused : used.contains slot = false := by
    rw [Bool.eq_false_iff]
    exact fun inside => free (List.contains_iff_mem.mp inside)
  simp only [unused, fits, Bool.not_false, Bool.and_self]

theorem observation_open {row : PyDict} {brokerQty localQty : PyFloat}
    (isOpen : brokerQty.le (.finite 0) = false) :
    (observation (some row) brokerQty localQty).1 = .partiallyFilled ∨
      (observation (some row) brokerQty localQty).1 = .active := by
  unfold observation
  rw [isOpen]
  split
  · next flat => cases flat
  split
  · exact Or.inl rfl
  · exact Or.inr rfl

theorem reconcilePosition_turn {next : Pass}
    (turned : reconcilePosition now ts rows pass trade = .ok next) :
    let found := findMatchingBrokerPosition trade rows pass.usedIndexes
    let brokerQty := positionQuantityAbs ((found.map Prod.fst).getD [])
    ∃ restored localQty,
      next.restoredRows = pass.restoredRows ++ [restored] ∧
      next.usedIndexes = pass.usedIndexes ++ (found.map Prod.snd).toList ∧
      restored.get "trade_lifecycle_state" =
        .str (observation (found.map Prod.fst) brokerQty localQty).1.value ∧
      restored.get "broker_position_qty" = .float brokerQty := by
  intro found brokerQty
  obtain ⟨hydrated, rehydrated, turned⟩ := bind_eq_ok.mp turned
  obtain ⟨inferred, _, rehydrated⟩ := bind_eq_ok.mp rehydrated
  obtain ⟨snapshot, built, rehydrated⟩ := bind_eq_ok.mp rehydrated
  cases rehydrated
  have same : ∀ key, key ∉ lifecycleKeys → (trade.update snapshot).get key = trade.get key :=
    fun key other => snapshot_frame built other
  have finds : findMatchingBrokerPosition (trade.update snapshot) rows pass.usedIndexes =
      found := by
    unfold found findMatchingBrokerPosition
    simp only [matchesRow_congr same]
  rw [finds] at turned
  obtain ⟨restored, observed, turned⟩ := bind_eq_ok.mp turned
  cases turned
  obtain ⟨snapshot', built', observed⟩ := bind_eq_ok.mp observed
  cases observed
  obtain ⟨event, resolved, written, _⟩ := snapshot_writes built'
  refine ⟨_, localTradeQuantityAbs (trade.update snapshot), rfl, rfl, ?_, ?_⟩
  · rw [PyDict.get_set_of_ne _ _ (by decide), PyDict.get_set_of_ne _ _ (by decide),
      PyDict.get_set_of_ne _ _ (by decide), written, ← Except.ok.inj resolved]
    rfl
  · rw [PyDict.get_set_of_ne _ _ (by decide), PyDict.get_set_self]

theorem reconcilePosition_writes {next : Pass}
    (turned : reconcilePosition now ts rows pass trade = .ok next) :
    ∃ restored,
      next.restoredRows = pass.restoredRows ++ [restored] ∧
      next.usedIndexes = pass.usedIndexes ++
        ((findMatchingBrokerPosition trade rows pass.usedIndexes).map Prod.snd).toList ∧
      (isClosed restored ↔ findMatchingBrokerPosition trade rows pass.usedIndexes = none) := by
  obtain ⟨restored, localQty, rowsNext, usedNext, state, _⟩ := reconcilePosition_turn turned
  refine ⟨restored, rowsNext, usedNext, ?_⟩
  unfold isClosed
  rw [state]
  cases found : findMatchingBrokerPosition trade rows pass.usedIndexes with
  | none => exact iff_of_true rfl rfl
  | some pair =>
      refine iff_of_false ?_ (Option.some_ne_none pair)
      obtain ⟨row, idx⟩ := pair
      have fits := (findMatching_eq_some found).2.2.1
      have isOpen : (positionQuantityAbs row).le (.finite 0) = false := by
        unfold matchesRow at fits
        rw [Bool.and_eq_true, Bool.not_eq_true'] at fits
        exact fits.1
      change ¬PyValue.str (observation (some row) (positionQuantityAbs row) localQty).1.value = _
      rcases @observation_open row _ localQty isOpen with partly | active
      · rw [partly]
        exact fun same => absurd (PyValue.str.inj same) (by decide)
      · rw [active]
        exact fun same => absurd (PyValue.str.inj same) (by decide)

/-- What the loop has done to the trades so far, for the pairing it has made. -/
structure Paired (rows trades : List PyDict) (pass : Pass) (pairing : ℕ → Option ℕ) : Prop where
  firstFit : FirstFit (Fits trades rows) pairing
  used : ∀ idx, idx ∈ pass.usedIndexes ↔ ∃ position, pairing position = some idx
  length : pass.restoredRows.length = trades.length
  closed : ∀ (position : ℕ) restored, pass.restoredRows[position]? = some restored →
    (isClosed restored ↔ pairing position = none)

theorem Fits.lt {position idx : ℕ} (fit : Fits trades rows position idx) :
    position < trades.length := by
  obtain ⟨trade, _, at_, _⟩ := fit
  exact (List.getElem?_eq_some_iff.mp at_).1

theorem Paired.start : Paired rows [] {} fun _ => none where
  firstFit := FirstFit.empty (fun _ _ fit => Nat.not_lt_zero _ fit.lt)
  used _ := iff_of_false List.not_mem_nil (fun ⟨_, impossible⟩ => nomatch impossible)
  length := rfl
  closed _ _ impossible := nomatch impossible

theorem Paired.step {next : Pass} {pairing : ℕ → Option ℕ}
    (paired : Paired rows trades pass pairing)
    (turned : reconcilePosition now ts rows pass trade = .ok next) :
    Paired rows (trades ++ [trade]) next (Function.update pairing trades.length
      ((findMatchingBrokerPosition trade rows pass.usedIndexes).map Prod.snd)) := by
  obtain ⟨restored, rowsNext, usedNext, closedIff⟩ := reconcilePosition_writes turned
  have fitsLast : ∀ idx, Fits (trades ++ [trade]) rows trades.length idx ↔
      ∃ row, rows[idx]? = some row ∧ matchesRow trade row = true := by
    intro idx
    constructor
    · rintro ⟨own, row, at_, rowAt, fits⟩
      rw [List.getElem?_concat_length] at at_
      cases at_
      exact ⟨row, rowAt, fits⟩
    · rintro ⟨row, rowAt, fits⟩
      exact ⟨trade, row, List.getElem?_concat_length, rowAt, fits⟩
  have fitsSame : ∀ position idx, position ≠ trades.length →
      (Fits (trades ++ [trade]) rows position idx ↔ Fits trades rows position idx) := by
    intro position idx notLast
    unfold Fits
    rcases Nat.lt_or_gt_of_ne notLast with less | greater
    · rw [List.getElem?_append_left less]
    · have beyond : (trades ++ [trade])[position]? = none := by
        rw [List.getElem?_eq_none_iff, List.length_append, List.length_singleton]
        omega
      have outside : trades[position]? = none := by
        rw [List.getElem?_eq_none_iff]
        omega
      rw [beyond, outside]
  have free : pairing trades.length = none := by
    cases given : pairing trades.length with
    | none => rfl
    | some idx => exact absurd (paired.firstFit.fitted _ idx given).lt (lt_irrefl _)
  refine ⟨?_, ?_, ?_, ?_⟩
  · refine paired.firstFit.extend (fun position idx fit => fit.lt) fitsSame ?_ ?_
    · intro slot chosen
      obtain ⟨⟨row, idx⟩, found, same⟩ := Option.map_eq_some_iff.mp chosen
      cases same
      obtain ⟨rowAt, unused, fits, _⟩ := findMatching_eq_some found
      refine ⟨(fitsLast idx).mpr ⟨row, rowAt, fits⟩, fun position taken => ?_⟩
      exact unused ((paired.used idx).mpr ⟨position, taken⟩)
    · intro slot fit
      obtain ⟨row, rowAt, fits⟩ := (fitsLast slot).mp fit
      by_cases taken : slot ∈ pass.usedIndexes
      · exact Or.inr ((paired.used slot).mp taken)
      · cases found : findMatchingBrokerPosition trade rows pass.usedIndexes with
        | none => exact absurd (findMatching_eq_none found slot row rowAt fits) taken
        | some pair =>
            obtain ⟨own, idx⟩ := pair
            refine Or.inl ⟨idx, ?_, rfl⟩
            exact (findMatching_eq_some found).2.2.2 slot row rowAt fits taken
  · intro idx
    rw [usedNext, List.mem_append, paired.used, Option.mem_toList]
    constructor
    · rintro (⟨position, taken⟩ | now_)
      · refine ⟨position, ?_⟩
        have notLast : position ≠ trades.length := by
          rintro rfl
          rw [free] at taken
          cases taken
        rw [Function.update_of_ne notLast, taken]
      · exact ⟨trades.length, by rw [Function.update_self, now_]⟩
    · rintro ⟨position, taken⟩
      by_cases isLast : position = trades.length
      · subst isLast
        rw [Function.update_self] at taken
        exact Or.inr taken
      · rw [Function.update_of_ne isLast] at taken
        exact Or.inl ⟨position, taken⟩
  · rw [rowsNext, List.length_append, List.length_append, paired.length]
    rfl
  · intro position after at_
    rw [rowsNext] at at_
    by_cases isLast : position = trades.length
    · subst isLast
      rw [← paired.length, List.getElem?_concat_length] at at_
      cases at_
      rw [Function.update_self, Option.map_eq_none_iff]
      exact closedIff
    · have inside : position < trades.length := by
        have bound := (List.getElem?_eq_some_iff.mp at_).1
        rw [List.length_append, List.length_singleton, paired.length] at bound
        omega
      rw [List.getElem?_append_left (by rw [paired.length]; exact inside)] at at_
      rw [Function.update_of_ne isLast]
      exact paired.closed position after at_

theorem paired_of_foldlM (done : trades.foldlM (reconcilePosition now ts rows) {} = .ok pass) :
    ∃ pairing, Paired rows trades pass pairing := by
  refine ((Run.foldlM_eq_ok_iff _ _ _ _).mp done).history_invariant
    (motive := fun trades pass => ∃ pairing, Paired rows trades pass pairing)
    ⟨_, Paired.start⟩ ?_
  rintro trades before trade after ⟨pairing, paired⟩ turned
  exact ⟨_, paired.step turned⟩

end Rows

theorem CoveredPaired.of_apart {rows : List PyDict}
    (apart : ∀ key, Covered key trades rows → ∀ (position : ℕ) trade,
      trades[position]? = some trade → key ∈ candidateKeys trade →
        ∃ idx, Fits trades rows position idx ∧
          ∀ earlier, earlier < position → ¬Fits trades rows earlier idx) :
    CoveredPaired trades rows := by
  intro pairing firstFit key covered position trade at_ known
  obtain ⟨idx, fit, alone⟩ := apart key covered position trade at_ known
  exact firstFit.ne_none_of_apart fit alone

/-- A reconciliation keeps the trades of covered instruments exactly where the first-fit
pairing gives each of them a row. -/
theorem covered_kept_iff {now : String} {rawPositions timestamp : PyValue}
    {localPositions : List PyDict} {summary : PositionSummary}
    (returned : reconcilePositions now rawPositions localPositions timestamp = .ok summary) :
    CoveredKept localPositions (fetchBrokerPositionsSnapshot rawPositions)
        summary.restoredPositions ↔
      CoveredPaired localPositions (fetchBrokerPositionsSnapshot rawPositions) := by
  cases localPositions with
  | nil =>
      constructor
      · intro _kept pairing _firstFit key _covered position trade at_
        cases at_
      · intro _paired key _covered position trade after at_
        cases at_
  | cons first rest =>
      obtain ⟨pass, done, returned⟩ := bind_eq_ok.mp returned
      cases returned
      obtain ⟨pairing, paired⟩ := paired_of_foldlM done
      constructor
      · intro kept other firstFit key covered position trade at_ known unpaired
        have inside : position < pass.restoredRows.length := by
          rw [paired.length]
          exact (List.getElem?_eq_some_iff.mp at_).1
        have restoredAt := List.getElem?_eq_getElem inside
        refine kept key covered position trade _ at_ known restoredAt ?_
        rw [paired.closed position _ restoredAt, paired.firstFit.unique firstFit]
        exact unpaired
      · intro allPaired key covered position trade after at_ known restoredAt closed
        exact allPaired pairing paired.firstFit key covered position trade at_ known
          ((paired.closed position after restoredAt).mp closed)

def netPosition : PyValue :=
  .dict [("net", .list [.dict [("tradingsymbol", .str "RELIANCE"), ("quantity", .int 100)]])]

def localTrade (tradeId : String) (qty : ℤ) : PyDict :=
  [("trade_id", .str tradeId), ("symbol", .str "RELIANCE"), ("status", .str "ACTIVE"),
    ("qty", .int qty)]

theorem covered_kept_single : ∃ summary,
    reconcilePositions "2024-01-01" netPosition [localTrade "T1" 100] .none = .ok summary ∧
      CoveredKept [localTrade "T1" 100] (fetchBrokerPositionsSnapshot netPosition)
        summary.restoredPositions := by
  obtain ⟨summary, returned⟩ := exists_ok (show (reconcilePositions "2024-01-01" netPosition
    [localTrade "T1" 100] .none).toOption.isSome = true by decide)
  refine ⟨summary, returned, (covered_kept_iff returned).mpr (.of_apart ?_)⟩
  intro key _covered position trade at_ _known
  have first : position = 0 := by
    have bound := (List.getElem?_eq_some_iff.mp at_).1
    rw [List.length_singleton] at bound
    omega
  subst first
  refine ⟨0, ⟨localTrade "T1" 100,
    [("tradingsymbol", .str "RELIANCE"), ("quantity", .int 100)], rfl, rfl, ?_⟩, ?_⟩
  · decide
  · intro earlier less
    exact absurd less (Nat.not_lt_zero earlier)

/-- Two trades of 50 are netted into one row of 100: the second is marked as closed. -/
theorem netted_trade_closed :
    ¬∀ now rawPositions localPositions timestamp summary,
      reconcilePositions now rawPositions localPositions timestamp = .ok summary →
        CoveredKept localPositions (fetchBrokerPositionsSnapshot rawPositions)
          summary.restoredPositions := by
  intro allKept
  have computed : (reconcilePositions "2024-01-01" netPosition
      [localTrade "T1" 50, localTrade "T2" 50] .none).toOption.any (fun summary =>
        summary.restoredPositions[1]?.any fun restored =>
          (restored.get "trade_lifecycle_state").isStr "closed") = true := by
    decide +kernel
  obtain ⟨summary, returned, second⟩ := (Option.any_eq_true _ _).mp computed
  obtain ⟨after, restoredAt, closed⟩ := (Option.any_eq_true _ _).mp second
  refine allKept _ _ _ _ summary (eq_ok_of_toOption returned) "RELIANCE" ?_ 1
    (localTrade "T2" 50) after rfl ?_ restoredAt ((PyValue.isStr_eq_true _ _).mp closed)
  · unfold Covered
    decide +kernel
  · decide +kernel

end Algotradify.Core.Reconciliation
