/-
The candle that decides an exit, and the order of the prices inside it.

An exit that uses the candles after the entry only, and takes the stop where one candle reaches
both levels, is never better than any path of prices through the candles. The replay starts with
the entry candle and takes the target first.
-/

import Algotradify.Backtest.Engine

namespace Algotradify.Backtest

open Py Core.Risk

variable {row : ℕ} {candle second : Candle}

/-! ### Levels -/

def reachesTarget (side : String) (targetPrice : PyFloat) (candle : Candle) : Bool :=
  if side = "SELL" then candle.low.le targetPrice else targetPrice.le candle.high

def reachesStop (side : String) (stopPrice : PyFloat) (candle : Candle) : Bool :=
  if side = "SELL" then stopPrice.le candle.high else candle.low.le stopPrice

def reaches (side : String) (targetPrice stopPrice : PyFloat) (candle : Candle) : Bool :=
  reachesTarget side targetPrice candle || reachesStop side stopPrice candle

theorem levelHit_eq (side : String) (targetPrice stopPrice : PyFloat) (candle : Candle) :
    levelHit side targetPrice stopPrice candle =
      if reachesTarget side targetPrice candle then some (targetPrice, "TARGET_HIT")
      else if reachesStop side stopPrice candle then some (stopPrice, "STOP_HIT")
      else none := by
  unfold levelHit reachesTarget reachesStop
  by_cases sell : side = "SELL"
  · simp only [if_pos sell]
  · simp only [if_neg sell]

theorem levelHit_eq_none (side : String) (targetPrice stopPrice : PyFloat) (candle : Candle) :
    levelHit side targetPrice stopPrice candle = none ↔
      reaches side targetPrice stopPrice candle = false := by
  rw [levelHit_eq]
  unfold reaches
  cases reachesTarget side targetPrice candle <;> cases reachesStop side stopPrice candle <;> simp

theorem scanLevels_cases (side : String) (targetPrice stopPrice : PyFloat) (candles : List Candle)
    (index : ℕ) :
    (scanLevels side targetPrice stopPrice index candles = none ∧
      ∀ candle ∈ candles, reaches side targetPrice stopPrice candle = false) ∨
    ∃ offset candle price reason, candles[offset]? = some candle ∧
      (∀ earlier < offset, ∀ other, candles[earlier]? = some other →
        reaches side targetPrice stopPrice other = false) ∧
      levelHit side targetPrice stopPrice candle = some (price, reason) ∧
      scanLevels side targetPrice stopPrice index candles =
        some ⟨index + offset, price, candle.timestamp, reason⟩ := by
  induction candles generalizing index with
  | nil => exact Or.inl ⟨rfl, by simp⟩
  | cons candle rest ih =>
      unfold scanLevels
      cases hit : levelHit side targetPrice stopPrice candle with
      | some level =>
          obtain ⟨price, reason⟩ := level
          refine Or.inr ⟨0, candle, price, reason, rfl, ?_, hit, rfl⟩
          intro earlier impossible
          omega
      | none =>
          have passed := (levelHit_eq_none _ _ _ _).mp hit
          rcases ih (index + 1) with ⟨none, all⟩ | ⟨offset, found, price, reason, present, first,
            level, scanned⟩
          · exact Or.inl ⟨none, List.forall_mem_cons.mpr ⟨passed, all⟩⟩
          · refine Or.inr ⟨offset + 1, found, price, reason, present, ?_, level, ?_⟩
            · intro earlier before other there
              cases earlier with
              | zero =>
                  cases there
                  exact passed
              | succ earlier => exact first earlier (by omega) other there
            · rw [scanned, Nat.add_right_comm, Nat.add_assoc]

/-! ### What an exit is to be -/

section

variable (cfg : OptionBacktestConfig) (rows : List Candle) (side : String)
variable (targetPrice stopPrice : PyFloat) (entryIndex : ℕ)

def Held (row : ℕ) (candle : Candle) : Prop :=
  entryIndex ≤ row ∧ (row : Int) ≤ entryIndex + cfg.maxHoldMinutes ∧ rows[row]? = some candle

structure FirstReached (row : ℕ) (candle : Candle) : Prop where
  held : Held cfg rows entryIndex row candle
  after : entryIndex < row
  hit : reaches side targetPrice stopPrice candle = true
  first : ∀ earlier other, entryIndex < earlier → earlier < row →
    Held cfg rows entryIndex earlier other → reaches side targetPrice stopPrice other = false

/-- The last row of the holding time, when no row after the entry reaches a level. -/
structure RunsOut (row : ℕ) (candle : Candle) : Prop where
  held : Held cfg rows entryIndex row candle
  last : row + 1 = rows.length ∨ (row : Int) = entryIndex + cfg.maxHoldMinutes
  none : ∀ later other, entryIndex < later → Held cfg rows entryIndex later other →
    reaches side targetPrice stopPrice other = false

/-- The exit from the candles after the entry, with ties against the trade. -/
inductive LaterExit : Exit → Prop
  | stop {row : ℕ} {candle : Candle}
      (first : FirstReached cfg rows side targetPrice stopPrice entryIndex row candle)
      (reached : reachesStop side stopPrice candle = true) :
      LaterExit ⟨row, stopPrice, candle.timestamp, "STOP_HIT"⟩
  | target {row : ℕ} {candle : Candle}
      (first : FirstReached cfg rows side targetPrice stopPrice entryIndex row candle)
      (spared : reachesStop side stopPrice candle = false) :
      LaterExit ⟨row, targetPrice, candle.timestamp, "TARGET_HIT"⟩
  | time {row : ℕ} {candle : Candle}
      (out : RunsOut cfg rows side targetPrice stopPrice entryIndex row candle) :
      LaterExit ⟨row, candle.close, candle.timestamp, "TIME_EXIT"⟩

/-- The price at which a trade is left along some path of prices through the candles after the
entry: inside a candle that reaches both levels either of them may come first. -/
inductive PathExit : PyFloat → Prop
  | stop {row : ℕ} {candle : Candle}
      (first : FirstReached cfg rows side targetPrice stopPrice entryIndex row candle)
      (reached : reachesStop side stopPrice candle = true) : PathExit stopPrice
  | target {row : ℕ} {candle : Candle}
      (first : FirstReached cfg rows side targetPrice stopPrice entryIndex row candle)
      (reached : reachesTarget side targetPrice candle = true) : PathExit targetPrice
  | time {row : ℕ} {candle : Candle}
      (out : RunsOut cfg rows side targetPrice stopPrice entryIndex row candle) :
      PathExit candle.close

def ExitsLater : Prop :=
  ∃ exit, simulateExit cfg rows side targetPrice stopPrice entryIndex = .ok exit ∧
    LaterExit cfg rows side targetPrice stopPrice entryIndex exit ∧
    ∀ entryFillPrice price, PathExit cfg rows side targetPrice stopPrice entryIndex price →
      (signedPoints side entryFillPrice price).lt (signedPoints side entryFillPrice exit.price) =
        false

structure Untempted : Prop where
  holds : 0 ≤ cfg.maxHoldMinutes
  entry : ∀ candle, rows[entryIndex]? = some candle →
    reaches side targetPrice stopPrice candle = false
  tie : ∀ row candle, FirstReached cfg rows side targetPrice stopPrice entryIndex row candle →
    (reachesTarget side targetPrice candle && reachesStop side stopPrice candle) = false

end

section

variable {cfg : OptionBacktestConfig} {rows : List Candle} {side : String}
variable {targetPrice stopPrice : PyFloat} {entryIndex : ℕ}

theorem Held.unique {other : Candle} (held : Held cfg rows entryIndex row candle)
    (again : Held cfg rows entryIndex row other) : candle = other :=
  Option.some.inj (held.2.2.symm.trans again.2.2)

theorem FirstReached.unique {other : ℕ}
    (first : FirstReached cfg rows side targetPrice stopPrice entryIndex row candle)
    (again : FirstReached cfg rows side targetPrice stopPrice entryIndex other second) :
    row = other ∧ candle = second := by
  have same : row = other := by
    rcases Nat.lt_trichotomy row other with before | same | later
    · have missed := again.first row candle first.after before first.held
      rw [first.hit] at missed
      cases missed
    · exact same
    · have missed := first.first other second again.after later again.held
      rw [again.hit] at missed
      cases missed
  subst same
  exact ⟨rfl, first.held.unique again.held⟩

theorem FirstReached.not_runsOut {other : ℕ}
    (first : FirstReached cfg rows side targetPrice stopPrice entryIndex row candle)
    (out : RunsOut cfg rows side targetPrice stopPrice entryIndex other second) : False := by
  have missed := out.none row candle first.after first.held
  rw [first.hit] at missed
  cases missed

theorem RunsOut.unique {other : ℕ}
    (out : RunsOut cfg rows side targetPrice stopPrice entryIndex row candle)
    (again : RunsOut cfg rows side targetPrice stopPrice entryIndex other second) :
    row = other ∧ candle = second := by
  have within := (List.getElem?_eq_some_iff.mp out.held.2.2).1
  have inside := (List.getElem?_eq_some_iff.mp again.held.2.2).1
  have bound := out.held.2.1
  have limit := again.held.2.1
  have last := out.last
  have end_ := again.last
  have same : row = other := by omega
  subst same
  exact ⟨rfl, out.held.unique again.held⟩

theorem lt_self (value : PyFloat) : value.lt value = false := by
  cases value with
  | finite number => exact decide_eq_false (lt_irrefl number)
  | nan | posInf | negInf => rfl

/-! ### The replay's exit -/

theorem held_iff (cfg : OptionBacktestConfig) (rows : List Candle) (entryIndex offset : ℕ)
    (candle : Candle) :
    ((rows.drop entryIndex).take (min ((rows.length : Int) - 1) (entryIndex + cfg.maxHoldMinutes)
      + 1 - entryIndex).toNat)[offset]? = some candle ↔
      Held cfg rows entryIndex (entryIndex + offset) candle := by
  rw [List.getElem?_take]
  unfold Held
  by_cases inside : offset < (min ((rows.length : Int) - 1) (entryIndex + cfg.maxHoldMinutes)
      + 1 - entryIndex).toNat
  · rw [if_pos inside, List.getElem?_drop]
    constructor
    · intro present
      exact ⟨by omega, by omega, present⟩
    · intro held
      exact held.2.2
  · rw [if_neg inside]
    constructor
    · intro impossible
      cases impossible
    · rintro ⟨_, bound, present⟩
      have within := (List.getElem?_eq_some_iff.mp present).1
      omega

theorem ilocRow_of_getElem (present : rows[row]? = some candle) :
    ilocRow rows row = .ok (row, candle) := by
  have nonneg : ¬ ((row : Int) < 0) := by omega
  unfold ilocRow
  rw [if_neg nonneg]
  dsimp only
  rw [if_neg nonneg, Int.toNat_natCast, present]

theorem simulateExit_cases (holds : 0 ≤ cfg.maxHoldMinutes) (within : entryIndex < rows.length) :
    (∃ row candle price reason, Held cfg rows entryIndex row candle ∧
      (∀ earlier other, earlier < row → Held cfg rows entryIndex earlier other →
        reaches side targetPrice stopPrice other = false) ∧
      levelHit side targetPrice stopPrice candle = some (price, reason) ∧
      simulateExit cfg rows side targetPrice stopPrice entryIndex =
        .ok ⟨row, price, candle.timestamp, reason⟩) ∨
    ∃ row candle, Held cfg rows entryIndex row candle ∧
      (row + 1 = rows.length ∨ (row : Int) = entryIndex + cfg.maxHoldMinutes) ∧
      (∀ later other, Held cfg rows entryIndex later other →
        reaches side targetPrice stopPrice other = false) ∧
      simulateExit cfg rows side targetPrice stopPrice entryIndex =
        .ok ⟨row, candle.close, candle.timestamp, "TIME_EXIT"⟩ := by
  unfold simulateExit
  dsimp only
  rcases scanLevels_cases side targetPrice stopPrice ((rows.drop entryIndex).take
    (min ((rows.length : Int) - 1) (entryIndex + cfg.maxHoldMinutes) + 1 - entryIndex).toNat)
    entryIndex with ⟨none, all⟩ | ⟨offset, candle, price, reason, present, first, hit, scanned⟩
  · right
    rw [none]
    obtain ⟨last, isLast⟩ := Int.eq_ofNat_of_zero_le
      (show 0 ≤ min ((rows.length : Int) - 1) (entryIndex + cfg.maxHoldMinutes) by omega)
    have inside : last < rows.length := by omega
    have there : rows[last]? = some rows[last] := List.getElem?_eq_getElem inside
    refine ⟨last, rows[last], ⟨by omega, by omega, there⟩, by omega, ?_, ?_⟩
    · intro later other held
      have own := held
      rw [← Nat.add_sub_cancel' held.1] at own
      exact all other (List.mem_of_getElem? ((held_iff _ _ _ _ _).mpr own))
    · rw [isLast, ilocRow_of_getElem there]
      rfl
  · left
    refine ⟨entryIndex + offset, candle, price, reason, (held_iff _ _ _ _ _).mp present, ?_, hit,
      ?_⟩
    · intro earlier other before held
      have own := held
      have notBefore := held.1
      rw [← Nat.add_sub_cancel' notBefore] at own
      exact first (earlier - entryIndex) (by omega) other ((held_iff _ _ _ _ _).mpr own)
    · rw [scanned]

/-! ### When the replay is right -/

theorem LaterExit.holds {exit : Exit}
    (later : LaterExit cfg rows side targetPrice stopPrice entryIndex exit) :
    0 ≤ cfg.maxHoldMinutes := by
  cases later with
  | stop first _ =>
      have bound := first.held.2.1
      have after := first.after
      omega
  | target first _ =>
      have bound := first.held.2.1
      have after := first.after
      omega
  | time out =>
      have bound := out.held.2.1
      have after := out.held.1
      omega

theorem PathExit.price {exit : Exit} {price : PyFloat}
    (path : PathExit cfg rows side targetPrice stopPrice entryIndex price)
    (later : LaterExit cfg rows side targetPrice stopPrice entryIndex exit)
    (tie : ∀ row candle, FirstReached cfg rows side targetPrice stopPrice entryIndex row candle →
      (reachesTarget side targetPrice candle && reachesStop side stopPrice candle) = false) :
    price = exit.price := by
  cases path with
  | stop first reached =>
      cases later with
      | stop => rfl
      | target again spared =>
          obtain ⟨_, rfl⟩ := first.unique again
          rw [reached] at spared
          cases spared
      | time out => exact (first.not_runsOut out).elim
  | target first reached =>
      cases later with
      | stop again stopped =>
          obtain ⟨_, rfl⟩ := first.unique again
          have apart := tie _ _ first
          rw [reached, stopped] at apart
          cases apart
      | target => rfl
      | time out => exact (first.not_runsOut out).elim
  | time out =>
      cases later with
      | stop again _ => exact (again.not_runsOut out).elim
      | target again _ => exact (again.not_runsOut out).elim
      | time again =>
          obtain ⟨_, rfl⟩ := out.unique again
          rfl

theorem laterExit_of_untempted (within : entryIndex < rows.length)
    (untempted : Untempted cfg rows side targetPrice stopPrice entryIndex) :
    ∃ exit, simulateExit cfg rows side targetPrice stopPrice entryIndex = .ok exit ∧
      LaterExit cfg rows side targetPrice stopPrice entryIndex exit := by
  rcases @simulateExit_cases cfg rows side targetPrice stopPrice entryIndex untempted.holds within
    with ⟨row, candle, price, reason, held, first, hit, left⟩ | ⟨row, candle, held, last, none, left⟩
  · refine ⟨_, left, ?_⟩
    have reached : reaches side targetPrice stopPrice candle = true := by
      rw [← Bool.not_eq_false, ← levelHit_eq_none, hit]
      exact Option.some_ne_none _
    have after : entryIndex < row := by
      rcases Nat.lt_or_eq_of_le held.1 with after | rfl
      · exact after
      · rw [untempted.entry candle held.2.2] at reached
        cases reached
    have own : FirstReached cfg rows side targetPrice stopPrice entryIndex row candle :=
      ⟨held, after, reached, fun earlier other _ before => first earlier other before⟩
    have apart := untempted.tie row candle own
    rw [levelHit_eq] at hit
    by_cases target : reachesTarget side targetPrice candle = true
    · rw [if_pos target] at hit
      cases hit
      rw [target, Bool.true_and] at apart
      exact .target own apart
    · rw [if_neg target] at hit
      by_cases stop : reachesStop side stopPrice candle = true
      · rw [if_pos stop] at hit
        cases hit
        exact .stop own stop
      · rw [if_neg stop] at hit
        cases hit
  · exact ⟨_, left, .time ⟨held, last, fun later other _ => none later other⟩⟩

theorem untempted_of_first (holds : 0 ≤ cfg.maxHoldMinutes)
    (reached : FirstReached cfg rows side targetPrice stopPrice entryIndex row candle)
    (first : ∀ earlier other, earlier < row → Held cfg rows entryIndex earlier other →
      reaches side targetPrice stopPrice other = false)
    (apart : (reachesTarget side targetPrice candle && reachesStop side stopPrice candle) = false) :
    Untempted cfg rows side targetPrice stopPrice entryIndex where
  holds := holds
  entry := by
    intro start present
    exact first entryIndex start reached.after ⟨Nat.le_refl _, by omega, present⟩
  tie := by
    intro other second again
    obtain ⟨_, rfl⟩ := reached.unique again
    exact apart

theorem untempted_of_laterExit (within : entryIndex < rows.length) {exit : Exit}
    (left : simulateExit cfg rows side targetPrice stopPrice entryIndex = .ok exit)
    (later : LaterExit cfg rows side targetPrice stopPrice entryIndex exit) :
    Untempted cfg rows side targetPrice stopPrice entryIndex := by
  have holds := later.holds
  rcases @simulateExit_cases cfg rows side targetPrice stopPrice entryIndex holds within with
    ⟨row, candle, price, reason, held, first, hit, again⟩ | ⟨row, candle, held, last, none, again⟩
  · have same := Except.ok.inj (left.symm.trans again)
    rw [levelHit_eq] at hit
    cases later with
    | stop reached stopped =>
        injection same with sameRow _ _ sameReason
        subst sameRow
        cases reached.held.unique held
        have missed : reachesTarget side targetPrice candle = false := by
          by_contra target
          rw [if_pos (Bool.not_eq_false _ ▸ target)] at hit
          cases hit
          exact absurd sameReason (by decide)
        exact untempted_of_first holds reached first (by rw [missed, Bool.false_and])
    | target reached spared =>
        injection same with sameRow _ _ _
        subst sameRow
        cases reached.held.unique held
        exact untempted_of_first holds reached first (by rw [spared, Bool.and_false])
    | time out =>
        injection same with _ _ _ sameReason
        split at hit
        · cases hit
          exact absurd sameReason (by decide)
        · split at hit
          · cases hit
            exact absurd sameReason (by decide)
          · cases hit
  · refine ⟨holds, ?_, ?_⟩
    · intro start present
      exact none entryIndex start ⟨Nat.le_refl _, by omega, present⟩
    · intro reached other first
      have missed := none reached other first.held
      rw [first.hit] at missed
      cases missed

/-- The replay leaves a trade as the later candles say exactly when the entry candle reaches no
level, no tie decides, and the holding time is not negative. -/
theorem exitsLater_iff (within : entryIndex < rows.length) :
    ExitsLater cfg rows side targetPrice stopPrice entryIndex ↔
      Untempted cfg rows side targetPrice stopPrice entryIndex := by
  constructor
  · rintro ⟨exit, left, later, _⟩
    exact untempted_of_laterExit within left later
  · intro untempted
    obtain ⟨exit, left, later⟩ := laterExit_of_untempted within untempted
    refine ⟨exit, left, later, ?_⟩
    intro entryFillPrice price path
    rw [path.price later untempted.tie]
    exact lt_self _

end

/-! ### Two candles -/

def quotedCandle (timestamp : Int) : Candle :=
  { timestamp := timestamp
    high := .finite (1005 / 10)
    low := .finite (998 / 10)
    close := .finite (1002 / 10)
    volume := .finite 100000
    oi := .finite 100000
    bid := .finite 100
    ask := .finite (1001 / 10)
    hasBidAsk := true
    cells := [("target", .float (.finite 104)), ("stop_loss", .float (.finite 98)),
      ("signal_score", .float (.finite (9 / 10)))] }

def twoLots : OptionBacktestConfig := { symbol := "NIFTY", maxHoldMinutes := 2, quantity := 2 }

def widening : CandleTable where
  rows := [quotedCandle 0,
    { quotedCandle 60000000000 with high := .finite 105, low := .finite 97 }]
  sorted := by decide

/-- The entry candle is quiet, and the next one reaches the target only. -/
theorem exitsLater_iff_widening :
    ExitsLater twoLots widening.rows "BUY" (.finite 104) (.finite 96) 0 ↔
      Untempted twoLots widening.rows "BUY" (.finite 104) (.finite 96) 0 :=
  exitsLater_iff (by decide)

/-- A candle that reaches both levels is booked at the target. -/
theorem tie_books_target :
    ¬∀ (cfg : OptionBacktestConfig) (table : CandleTable) (side : String)
      (targetPrice stopPrice : PyFloat) (entryIndex : ℕ), entryIndex < table.rows.length →
      ExitsLater cfg table.rows side targetPrice stopPrice entryIndex := by
  intro exits
  obtain ⟨exit, left, later, _⟩ := exits twoLots widening "BUY" (.finite 104) (.finite 98) 0
    (by decide)
  have booked : simulateExit twoLots widening.rows "BUY" (.finite 104) (.finite 98) 0 =
      .ok ⟨1, .finite 104, 60000000000, "TARGET_HIT"⟩ := by
    decide +kernel
  have same := Except.ok.inj (left.symm.trans booked)
  cases later with
  | stop first reached =>
      injection same with _ _ _ reason
      exact absurd reason (by decide)
  | target first spared =>
      injection same with row _ _ _
      have present := first.held.2.2
      rw [row] at present
      cases present
      exact absurd spared (by decide +kernel)
  | time out =>
      injection same with _ _ _ reason
      exact absurd reason (by decide)

end Algotradify.Backtest
