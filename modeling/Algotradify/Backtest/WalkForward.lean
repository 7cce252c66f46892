/-
Walk-forward windows: the days of a data set cut into training and test parts, and the legacy
blocks of rows behind a training prefix.

Rows are generic. The day of a row is counted; rows without a day are dropped before. A loop
that may not end is given by its turns.

Which days the walk-forward windows cover, and when their loop ends.

A loop with a positive step runs out of days, one with a negative step runs before the first day
and raises, and one with step zero adds its first window forever.
-/

import Algotradify.Py.Convert
import Algotradify.Transition.Loop
import Mathlib.Data.List.Dedup
import Mathlib.Data.List.Sort

namespace Algotradify.Backtest

open Py Transition

variable {startIdx : Int} {windows : List Window} {window : Window}

/-- `items[index]`; a negative index counts from the end. -/
def itemAt {Item : Type} (items : List Item) (index : Int) : Except PyError Item :=
  let place := if index < 0 then index + items.length else index
  if place < 0 then .error (.runtimeError "list index out of range")
  else
    match items[place.toNat]? with
    | some item => .ok item
    | none => .error (.runtimeError "list index out of range")

structure WalkForwardConfig where
  trainWindowDays : Int := 60
  testWindowDays : Int := 10
  stepDays : Int := 10
deriving Repr

structure Window where
  trainStart : Int
  trainEnd : Int
  testStart : Int
  testEnd : Int
deriving DecidableEq, Repr

/-- `sorted(df["_wf_day"].dropna().unique())`. -/
def uniqueDays (days : List Int) : List Int :=
  List.insertionSort (· ≤ ·) days.dedup

/-- The window that a turn of `_build_windows` reads. -/
def windowAt (uniqueDays : List Int) (cfg : WalkForwardConfig) (startIdx : Int) :
    Except PyError Window := do
  let trainStart ← itemAt uniqueDays (startIdx - cfg.trainWindowDays)
  let trainEnd ← itemAt uniqueDays (startIdx - 1)
  let testStart ← itemAt uniqueDays startIdx
  let testEnd ← itemAt uniqueDays (startIdx + cfg.testWindowDays - 1)
  pure ⟨trainStart, trainEnd, testStart, testEnd⟩

/-- One turn of the loop of `_build_windows`. -/
def windowTurn (uniqueDays : List Int) (cfg : WalkForwardConfig) (state : Int × List Window) :
    (Int × List Window) ⊕ Except PyError (List Window) :=
  let (startIdx, windows) := state
  if startIdx + cfg.testWindowDays ≤ uniqueDays.length then
    match windowAt uniqueDays cfg startIdx with
    | .ok window => .inl (startIdx + cfg.stepDays, windows ++ [window])
    | .error raised => .inr (.error raised)
  else .inr (.ok windows)

/-- `_build_windows` on the days of the rows, when its loop is left within so many turns. -/
def buildWindows (turns : ℕ) (days : List Int) (cfg : WalkForwardConfig) :
    Option (Except PyError (List Window)) :=
  let days := uniqueDays days
  if (days.length : Int) < cfg.trainWindowDays + cfg.testWindowDays then some (.ok [])
  else iterate (windowTurn days cfg) turns (cfg.trainWindowDays, [])

def Window.inTrain (window : Window) (day : Int) : Bool :=
  window.trainStart ≤ day ∧ day ≤ window.trainEnd

def Window.inTest (window : Window) (day : Int) : Bool :=
  window.testStart ≤ day ∧ day ≤ window.testEnd

section Rows

variable {Row : Type} (dayOf : Row → Int)

end Rows

/-! ### Reading a list -/

theorem itemAt_natCast {Item : Type} {items : List Item} {place : ℕ} (within : place < items.length) :
    itemAt items place = .ok items[place] := by
  have nonneg : ¬ ((place : Int) < 0) := by omega
  unfold itemAt
  rw [if_neg nonneg]
  dsimp only
  rw [if_neg nonneg, Int.toNat_natCast, List.getElem?_eq_getElem within]

theorem uniqueDays_increasing (days : List Int) : (uniqueDays days).Pairwise (· < ·) := by
  have sorted : (uniqueDays days).Pairwise (· ≤ ·) := List.pairwise_insertionSort _ _
  have distinct : (uniqueDays days).Nodup :=
    (List.perm_insertionSort _ _).nodup_iff.mpr (List.nodup_dedup days)
  have both := sorted.and distinct
  apply both.imp
  intro first second ordered
  have apart := ordered.2
  have atMost := ordered.1
  omega

section Between

variable {days : List Int}

theorem getElem_lt_iff (increasing : days.Pairwise (· < ·)) {first second : ℕ}
    (inside : first < days.length) (within : second < days.length) :
    days[first] < days[second] ↔ first < second := by
  have ordered := List.pairwise_iff_getElem.mp increasing
  constructor
  · intro less
    by_contra notBefore
    rcases Nat.lt_or_eq_of_le (Nat.le_of_not_lt notBefore) with after | same
    · have reverse := ordered second first within inside after
      omega
    · subst same
      omega
  · exact ordered first second inside within

theorem getElem_le_iff (increasing : days.Pairwise (· < ·)) {first second : ℕ}
    (inside : first < days.length) (within : second < days.length) :
    days[first] ≤ days[second] ↔ first ≤ second := by
  have reverse := getElem_lt_iff increasing within inside
  omega

theorem filter_between (increasing : days.Pairwise (· < ·)) {first last : ℕ} (ordered : first ≤ last)
    (within : last < days.length) :
    days.filter (fun day => days[first] ≤ day ∧ day ≤ days[last]) =
      (days.drop first).take (last + 1 - first) := by
  have sliced : ((days.drop first).take (last + 1 - first)).Pairwise (· < ·) :=
    increasing.sublist ((List.take_sublist _ _).trans (List.drop_sublist _ _))
  have members : ∀ day, day ∈ days.filter (fun day => days[first] ≤ day ∧ day ≤ days[last]) ↔
      day ∈ (days.drop first).take (last + 1 - first) := by
    intro day
    rw [List.mem_filter, decide_eq_true_iff, List.mem_iff_getElem?, List.mem_iff_getElem?]
    constructor
    · rintro ⟨⟨place, present⟩, from_, upTo⟩
      obtain ⟨inside, rfl⟩ := List.getElem?_eq_some_iff.mp present
      have after := (getElem_le_iff increasing _ inside).mp from_
      have before := (getElem_le_iff increasing inside within).mp upTo
      refine ⟨place - first, ?_⟩
      rw [List.getElem?_take, if_pos (by omega), List.getElem?_drop, Nat.add_sub_cancel' after]
      exact present
    · rintro ⟨offset, present⟩
      rw [List.getElem?_take] at present
      split at present
      · next near =>
          rw [List.getElem?_drop] at present
          obtain ⟨inside, rfl⟩ := List.getElem?_eq_some_iff.mp present
          exact ⟨⟨first + offset, present⟩, (getElem_le_iff increasing _ inside).mpr (by omega),
            (getElem_le_iff increasing inside within).mpr (by omega)⟩
      · cases present
  have perm := (List.perm_ext_iff_of_nodup (increasing.filter _).nodup sliced.nodup).mpr members
  refine perm.eq_of_pairwise ?_ (increasing.filter _) sliced
  intro left right _ _ less more
  omega

end Between

/-! ### When the loop ends -/

section Turns

variable {days : List Int} {cfg : WalkForwardConfig} {state next : Int × List Window}

theorem windowTurn_goes (turned : windowTurn days cfg state = .inl next) :
    state.1 + cfg.testWindowDays ≤ days.length ∧ ∃ window, windowAt days cfg state.1 = .ok window ∧
      next = (state.1 + cfg.stepDays, state.2 ++ [window]) := by
  unfold windowTurn at turned
  dsimp only at turned
  by_cases fits : state.1 + cfg.testWindowDays ≤ days.length
  · rw [if_pos fits] at turned
    refine ⟨fits, ?_⟩
    cases read : windowAt days cfg state.1 with
    | error raised =>
        rw [read] at turned
        cases turned
    | ok window =>
        rw [read] at turned
        exact ⟨window, rfl, (Sum.inl.inj turned).symm⟩
  · rw [if_neg fits] at turned
    cases turned

end Turns

/-! ### Reading the four days of a window -/

/-- The places of the first window's four days are those of days. -/
def FirstReadable (days : List Int) (cfg : WalkForwardConfig) : Prop :=
  ∀ index ∈ [0, cfg.trainWindowDays - 1, cfg.trainWindowDays,
      cfg.trainWindowDays + cfg.testWindowDays - 1],
    -(days.length : Int) ≤ index ∧ index < days.length

/-- The step is zero, and there is a first window to be added again and again. -/
def Stuck (days : List Int) (cfg : WalkForwardConfig) : Prop :=
  cfg.stepDays = 0 ∧ cfg.trainWindowDays + cfg.testWindowDays ≤ days.length ∧
    FirstReadable days cfg

/-- `_build_windows` ends, with windows or with an exception. -/
def Ends (days : List Int) (cfg : WalkForwardConfig) : Prop :=
  ∃ turns result, buildWindows turns days cfg = some result

/-- A window of full parts: so many days for training and the next ones for the test. -/
structure IsWindow (days : List Int) (train test start : ℕ) (window : Window) : Prop where
  afterTrain : train ≤ start
  fits : start + test ≤ days.length
  trainStart : days[start - train]? = some window.trainStart
  trainEnd : days[start - 1]? = some window.trainEnd
  testStart : days[start]? = some window.testStart
  testEnd : days[start + test - 1]? = some window.testEnd
  trainDays : days.filter window.inTrain = (days.drop (start - train)).take train
  testDays : days.filter window.inTest = (days.drop start).take test

/-- The windows are those of full parts, one for each step, and they are causal: no row is in both
parts of a window, and steps of the length of a test leave no day in two tests. -/
structure ExactWindows (days : List Int) (train test step : ℕ) (windows : List Window) : Prop where
  each : ∀ index window, windows[index]? = some window →
    IsWindow (uniqueDays days) train test (train + index * step) window
  complete : ∀ index, index < windows.length ↔
    train + index * step + test ≤ (uniqueDays days).length
  apart : ∀ window ∈ windows, ∀ day, ¬ (window.inTrain day = true ∧ window.inTest day = true)
  once : test ≤ step → windows.Pairwise fun first second =>
    ∀ day, ¬ (first.inTest day = true ∧ second.inTest day = true)

section Exact

variable {days : List Int} {cfg : WalkForwardConfig} {train test step : ℕ}

theorem isWindow_of_windowAt (increasing : days.Pairwise (· < ·))
    (isTrain : cfg.trainWindowDays = train) (isTest : cfg.testWindowDays = test) (some : 1 ≤ train)
    (tested : 1 ≤ test) {start : ℕ} (after : train ≤ start) (fits : start + test ≤ days.length) :
    ∃ window, windowAt days cfg start = .ok window ∧ IsWindow days train test start window := by
  have first : (start : Int) - cfg.trainWindowDays = ((start - train : ℕ) : Int) := by omega
  have second : (start : Int) - 1 = ((start - 1 : ℕ) : Int) := by omega
  have last : (start : Int) + cfg.testWindowDays - 1 = ((start + test - 1 : ℕ) : Int) := by omega
  have trainSpan := filter_between increasing (show start - train ≤ start - 1 by omega)
    (show start - 1 < days.length by omega)
  have testSpan := filter_between increasing (show start ≤ start + test - 1 by omega)
    (show start + test - 1 < days.length by omega)
  unfold windowAt
  rw [first, second, last, itemAt_natCast (show start - train < days.length by omega),
    itemAt_natCast (show start - 1 < days.length by omega),
    itemAt_natCast (show start < days.length by omega),
    itemAt_natCast (show start + test - 1 < days.length by omega)]
  refine ⟨_, rfl, after, fits, List.getElem?_eq_getElem _, List.getElem?_eq_getElem _,
    List.getElem?_eq_getElem _, List.getElem?_eq_getElem _, ?_, ?_⟩
  · rw [show start - 1 + 1 - (start - train) = train by omega] at trainSpan
    exact trainSpan
  · rw [show start + test - 1 + 1 - start = test by omega] at testSpan
    exact testSpan

theorem IsWindow.apart {start : ℕ} (increasing : days.Pairwise (· < ·)) (trained : 1 ≤ train)
    (isWindow : IsWindow days train test start window) (day : Int) :
    ¬ (window.inTrain day = true ∧ window.inTest day = true) := by
  obtain ⟨inside, isEnd⟩ := List.getElem?_eq_some_iff.mp isWindow.trainEnd
  obtain ⟨within, isStart⟩ := List.getElem?_eq_some_iff.mp isWindow.testStart
  have after := isWindow.afterTrain
  have less := (getElem_lt_iff increasing inside within).mpr (by omega)
  unfold Window.inTrain Window.inTest
  rw [decide_eq_true_iff, decide_eq_true_iff]
  omega

theorem IsWindow.once {start other : ℕ} {first second : Window}
    (increasing : days.Pairwise (· < ·)) (tested : 1 ≤ test)
    (isFirst : IsWindow days train test start first)
    (isSecond : IsWindow days train test other second) (before : start + test ≤ other) (day : Int) :
    ¬ (first.inTest day = true ∧ second.inTest day = true) := by
  obtain ⟨inside, isEnd⟩ := List.getElem?_eq_some_iff.mp isFirst.testEnd
  obtain ⟨within, isStart⟩ := List.getElem?_eq_some_iff.mp isSecond.testStart
  have less := (getElem_lt_iff increasing inside within).mpr (by omega)
  unfold Window.inTest
  rw [decide_eq_true_iff, decide_eq_true_iff]
  omega

structure Collected (days : List Int) (train test step : ℕ) (state : Int × List Window) : Prop where
  start : state.1 = ((train + state.2.length * step : ℕ) : Int)
  each : ∀ index window, state.2[index]? = some window →
    IsWindow days train test (train + index * step) window

theorem Collected.turn {state next : Int × List Window} (increasing : days.Pairwise (· < ·))
    (isTrain : cfg.trainWindowDays = train) (isTest : cfg.testWindowDays = test)
    (isStep : cfg.stepDays = step) (some : 1 ≤ train) (tested : 1 ≤ test)
    (collected : Collected days train test step state)
    (turned : windowTurn days cfg state = .inl next) : Collected days train test step next := by
  obtain ⟨fits, window, read, rfl⟩ := windowTurn_goes turned
  rw [collected.start] at read
  rw [collected.start, isTest] at fits
  obtain ⟨own, again, isWindow⟩ := isWindow_of_windowAt increasing isTrain isTest some tested
    (Nat.le_add_right train (state.2.length * step)) (by exact_mod_cast fits)
  cases read.symm.trans again
  constructor
  · dsimp only
    rw [collected.start, isStep, List.length_append, List.length_singleton, Nat.add_mul, Nat.one_mul]
    omega
  · intro index found present
    rcases Nat.lt_trichotomy index state.2.length with before | here | beyond
    · rw [List.getElem?_append_left before] at present
      exact collected.each index found present
    · rw [here, List.getElem?_concat_length] at present
      cases present
      rw [here]
      exact isWindow
    · rw [List.getElem?_eq_none (by rw [List.length_append, List.length_singleton]; omega)] at present
      cases present

theorem Collected.exact (tested : 1 ≤ test) (trained : 1 ≤ train)
    (collected : Collected (uniqueDays days) train test step
      (startIdx, windows)) (past : ¬ startIdx + (test : Int) ≤ (uniqueDays days).length) :
    ExactWindows days train test step windows := by
  have increasing := uniqueDays_increasing days
  have start := collected.start
  dsimp only at start
  have each := collected.each
  refine ⟨each, ?_, ?_, ?_⟩
  · intro index
    constructor
    · intro inside
      exact (each index _ (List.getElem?_eq_getElem inside)).fits
    · intro fits
      by_contra beyond
      have further := Nat.mul_le_mul_right step (Nat.le_of_not_lt beyond)
      omega
  · intro window member day
    obtain ⟨index, present⟩ := List.mem_iff_getElem?.mp member
    exact (each index window present).apart increasing trained day
  · intro wide
    apply List.pairwise_iff_getElem.mpr
    intro first second inside within before day
    have isFirst := each first _ (List.getElem?_eq_getElem inside)
    have isSecond := each second _ (List.getElem?_eq_getElem within)
    apply isFirst.once increasing tested isSecond
    have further := Nat.mul_le_mul_right step (Nat.succ_le_of_lt before)
    rw [Nat.succ_mul] at further
    omega

end Exact

/-! ### The legacy blocks -/

section Blocks

variable {Row : Type} {rows : List Row} {trainSize : PyFloat} {step startTrain : Int}

end Blocks

/-! ### Both loops -/

end Algotradify.Backtest
