/-
Watermarks of a position over runs of market prices, with the state written and read back
anywhere in between.

A watermark is the highest or lowest of the fill price and the prices that were supplied
exactly in the runs in which a price of zero lies between the watermarks, and in which no other
price finds a watermark of zero on its wrong side: zero is false, and gives way to another
price.
-/

import Algotradify.Core.PositionStateEngine
import Algotradify.Sorting.Extreme

namespace Algotradify.Core.PositionStateEngine

open Py Risk Sorting

/-! ### Orders of prices -/

def above (left right : PyFloat) : Bool := right.lt left

def below (left right : PyFloat) : Bool := left.lt right

theorem lt_irrefl (value : PyFloat) : value.lt value = false := by
  cases value <;> simp [PyFloat.lt]

structure PriceOrder (beats : PyFloat → PyFloat → Bool) : Prop extends StrictBeats beats where
  nan_left : ∀ value, beats .nan value = false
  nan_right : ∀ value, beats value .nan = false
  total : ∀ {left right : PyFloat}, left ≠ .nan → right ≠ .nan → left ≠ right →
    beats left right = false → beats right left = true

theorem lt_of_not_lt {left right : PyFloat} (leftNumber : left ≠ .nan) (rightNumber : right ≠ .nan)
    (different : left ≠ right) (notLess : left.lt right = false) : right.lt left = true := by
  have atMost := PyFloat.le_of_not_lt rightNumber leftNumber (Bool.eq_false_iff.mp notLess)
  unfold PyFloat.le at atMost
  rcases Bool.or_eq_true_iff.mp atMost with less | same
  · exact less
  · cases left <;> cases right <;> simp_all [PyFloat.eq]

theorem below_order : PriceOrder below := by
  constructor
  · constructor
    · exact lt_irrefl
    · intro first second third left right
      exact PyFloat.lt_of_lt_of_le left (PyFloat.le_of_lt right)
  · intro value
    cases value <;> rfl
  · intro value
    cases value <;> rfl
  · intro left right leftNumber rightNumber different notLess
    exact lt_of_not_lt leftNumber rightNumber different notLess

theorem above_order : PriceOrder above := by
  constructor
  · constructor
    · exact lt_irrefl
    · intro first second third left right
      exact PyFloat.lt_of_lt_of_le right (PyFloat.le_of_lt left)
  · intro value
    cases value <;> rfl
  · intro value
    cases value <;> rfl
  · intro left right leftNumber rightNumber different notLess
    exact lt_of_not_lt rightNumber leftNumber (fun same => different same.symm) notLess

/-! ### One watermark -/

def lastPrice (fill : PyFloat) (price : Option PyFloat) : PyFloat :=
  orDefault (some (price.getD fill)) fill

def nextWatermark (beats : PyFloat → PyFloat → Bool) (fill kept : PyFloat)
    (price : Option PyFloat) : PyFloat :=
  pick beats (orDefault (some kept) (lastPrice fill price)) (lastPrice fill price)

def numbers (prices : List PyFloat) : List PyFloat :=
  prices.filter fun price => decide (price ≠ .nan)

/-- A price keeps the watermark true: zero does not beat it, and another number finds no
watermark of zero that it does not beat. -/
def Tracks (beats : PyFloat → PyFloat → Bool) (kept price : PyFloat) : Prop :=
  if price = .finite 0 then beats (.finite 0) kept = false
  else kept = .finite 0 → beats price (.finite 0) = true

theorem truthy_eq_false_iff {value : PyFloat} : value.truthy = false ↔ value = .finite 0 := by
  cases value <;> simp [PyFloat.truthy]

theorem orDefault_of_ne {value default : PyFloat} (nonzero : value ≠ .finite 0) :
    orDefault (some value) default = value := by
  unfold orDefault
  simp only
  split
  · rfl
  · rename_i falsy
    exact absurd (truthy_eq_false_iff.mp (Bool.eq_false_iff.mpr falsy)) nonzero

theorem orDefault_finite_zero (default : PyFloat) :
    orDefault (some (.finite 0)) default = default := rfl

section Watermark

variable {beats : PyFloat → PyFloat → Bool} {fill kept : PyFloat} {prices : List PyFloat}

theorem lastPrice_of_ne {price : PyFloat} (nonzero : price ≠ .finite 0) :
    lastPrice fill (some price) = price :=
  orDefault_of_ne nonzero

theorem lastPrice_zero : lastPrice fill (some (.finite 0)) = fill := rfl

theorem lastPrice_none : lastPrice fill none = fill := by
  unfold lastPrice
  by_cases zero : fill = .finite 0
  · rw [zero]
    rfl
  · exact orDefault_of_ne zero

theorem nextWatermark_zero (price : Option PyFloat)
    (zero : nextWatermark beats fill kept price = .finite 0) : fill = .finite 0 := by
  have last_zero : lastPrice fill price = .finite 0 → fill = .finite 0 := by
    intro same
    cases price with
    | none => exact lastPrice_none.symm.trans same
    | some price =>
        by_cases falsy : price = .finite 0
        · rw [falsy] at same
          exact same
        · rw [lastPrice_of_ne falsy] at same
          exact absurd same falsy
  unfold nextWatermark pick at zero
  split at zero
  · exact last_zero zero
  · by_cases falsy : kept = .finite 0
    · rw [falsy, orDefault_finite_zero] at zero
      exact last_zero zero
    · rw [orDefault_of_ne falsy] at zero
      exact absurd zero falsy

theorem pick_fill (order : PriceOrder beats) (extreme : IsExtreme beats (fill :: prices) kept)
    (zero : kept = .finite 0 → fill = .finite 0) :
    pick beats (orDefault (some kept) fill) fill = kept := by
  by_cases falsy : kept = .finite 0
  · rw [falsy, orDefault_finite_zero, zero falsy]
    exact pick_self order.toStrictBeats _
  · rw [orDefault_of_ne falsy]
    exact pick_of_unbeaten (extreme.unbeaten fill List.mem_cons_self)

theorem nextWatermark_iff (order : PriceOrder beats)
    (extreme : IsExtreme beats (fill :: numbers prices) kept)
    (zero : kept = .finite 0 → fill = .finite 0) (price : Option PyFloat) :
    IsExtreme beats (fill :: numbers (prices ++ price.toList)) (nextWatermark beats fill kept price) ↔
      ∀ own, price = some own → Tracks beats kept own := by
  unfold nextWatermark
  cases price with
  | none =>
      rw [lastPrice_none, pick_fill order extreme zero, Option.toList_none, List.append_nil]
      apply iff_of_true extreme
      intro own impossible
      cases impossible
  | some price =>
      have items : fill :: numbers (prices ++ (some price).toList) =
          (fill :: numbers prices) ++ numbers [price] := by
        simp [numbers]
      have only : (∀ own, some price = some own → Tracks beats kept own) ↔
          Tracks beats kept price := by simp
      rw [items, only]
      unfold Tracks
      by_cases isZero : price = .finite 0
      · subst isZero
        rw [lastPrice_zero, pick_fill order extreme zero, if_pos rfl]
        exact isExtreme_append_iff extreme
      rw [lastPrice_of_ne isZero, if_neg isZero]
      by_cases falsy : kept = .finite 0
      · rw [falsy, orDefault_finite_zero, pick_self order.toStrictBeats]
        rw [falsy] at extreme
        constructor
        · intro after _
          have number : price ≠ .nan := by
            rintro rfl
            have member := after.member
            rw [zero falsy] at member
            simp [numbers] at member
          apply order.total (by simp) number (fun same => isZero same.symm)
          exact after.unbeaten _ (List.mem_append_left _ extreme.member)
        · intro better
          have wins := better rfl
          have number : price ≠ .nan := by
            rintro rfl
            rw [order.nan_left] at wins
            cases wins
          have picked := extreme.pick order.toStrictBeats price
          unfold pick at picked
          rw [if_pos wins] at picked
          have own : numbers [price] = [price] := by simp [numbers, number]
          rw [own]
          exact picked
      · rw [orDefault_of_ne falsy]
        apply iff_of_true
        · by_cases number : price = .nan
          · subst number
            rw [pick_of_unbeaten (order.nan_left kept)]
            have none : numbers [PyFloat.nan] = [] := by simp [numbers]
            rw [none, List.append_nil]
            exact extreme
          · have own : numbers [price] = [price] := by simp [numbers, number]
            rw [own]
            exact extreme.pick order.toStrictBeats price
        · intro impossible
          exact absurd impossible falsy

end Watermark

/-! ### Marks -/

structure Mark where
  market : PyDict
  nowTs : PyFloat

def Mark.price (mark : Mark) : Option PyFloat :=
  safeFloat (mark.market.get "last_price") none

def afterMarks (start : PositionState) (marks : List Mark) : PositionState :=
  marks.foldl (fun state mark => updatePositionState state mark.market mark.nowTs) start

theorem afterMarks_snoc (start : PositionState) (marks : List Mark) (mark : Mark) :
    afterMarks start (marks ++ [mark]) =
      updatePositionState (afterMarks start marks) mark.market mark.nowTs := by
  unfold afterMarks
  rw [List.foldl_append]
  rfl

def suppliedPrices (marks : List Mark) : List PyFloat :=
  marks.filterMap Mark.price

theorem suppliedPrices_snoc (marks : List Mark) (mark : Mark) :
    suppliedPrices (marks ++ [mark]) = suppliedPrices marks ++ mark.price.toList := by
  unfold suppliedPrices
  rw [List.filterMap_append]
  cases held : mark.price <;> simp [held]

theorem safeFloat_getD (value : PyValue) (default : PyFloat) :
    safeFloat value (some default) = some ((safeFloat value none).getD default) := by
  unfold safeFloat
  split
  · rfl
  · split <;> rfl

theorem updatePositionState_watermarks {state : PositionState} {high low : PyFloat}
    (ofHigh : state.highWatermark = some high) (ofLow : state.lowWatermark = some low)
    (mark : Mark) :
    (updatePositionState state mark.market mark.nowTs).highWatermark =
        some (nextWatermark above state.fillPrice high mark.price) ∧
      (updatePositionState state mark.market mark.nowTs).lowWatermark =
        some (nextWatermark below state.fillPrice low mark.price) := by
  unfold updatePositionState
  rw [safeFloat_getD, ofHigh, ofLow]
  exact ⟨rfl, rfl⟩

structure Watermarks (state : PositionState) (high low : PyFloat) : Prop where
  ofHigh : state.highWatermark = some high
  ofLow : state.lowWatermark = some low
  highZero : high = .finite 0 → state.fillPrice = .finite 0
  lowZero : low = .finite 0 → state.fillPrice = .finite 0

theorem Watermarks.next {state : PositionState} {high low : PyFloat}
    (marks : Watermarks state high low) (mark : Mark) :
    Watermarks (updatePositionState state mark.market mark.nowTs)
      (nextWatermark above state.fillPrice high mark.price)
      (nextWatermark below state.fillPrice low mark.price) := by
  obtain ⟨ofHigh, ofLow⟩ := updatePositionState_watermarks marks.ofHigh marks.ofLow mark
  exact ⟨ofHigh, ofLow, nextWatermark_zero mark.price, nextWatermark_zero mark.price⟩

/-- The watermarks are the highest and the lowest of the fill price and the prices supplied. -/
def Extrema (start : PositionState) (marks : List Mark) : Prop :=
  ∃ high low, (afterMarks start marks).highWatermark = some high ∧
    (afterMarks start marks).lowWatermark = some low ∧
    IsExtreme above (start.fillPrice :: numbers (suppliedPrices marks)) high ∧
    IsExtreme below (start.fillPrice :: numbers (suppliedPrices marks)) low

def Faithful (state : PositionState) (mark : Mark) : Prop :=
  ∀ high low price, state.highWatermark = some high → state.lowWatermark = some low →
    mark.price = some price → Tracks above high price ∧ Tracks below low price

/-! ### Runs of marks -/

theorem fillPrice_afterMarks (start : PositionState) (marks : List Mark) :
    (afterMarks start marks).fillPrice = start.fillPrice := by
  induction marks using List.reverseRecOn with
  | nil => rfl
  | append_singleton marks mark ih =>
      rw [afterMarks_snoc]
      exact ih

structure Filled (start : PositionState) : Prop extends Named start where
  high : start.highWatermark = some start.fillPrice
  low : start.lowWatermark = some start.fillPrice

theorem normalizeSide_ne_empty (value : PyValue) : normalizeSide value ≠ "" := by
  unfold normalizeSide
  split <;> decide

theorem truthy_or (left : PyValue) {right : PyValue} (truthy : right.truthy = true) :
    (left.or right).truthy = true := by
  unfold PyValue.or
  split
  · assumption
  · exact truthy

theorem filled_initialize (rounding : ℚ → ℚ) (fill candidate : PyDict) (nowTs : PyFloat) :
    Filled (initializePositionState rounding fill candidate nowTs) := by
  have side : (initializePositionState rounding fill candidate nowTs).side =
      normalizeSide (candidate.get "side") := by
    simp only [initializePositionState]
  have playbook : (initializePositionState rounding fill candidate nowTs).playbook =
      printValue (((candidate.get "selected_playbook").or (candidate.get "decision_playbook")).or
        (.str "none")) := by
    simp only [initializePositionState]
  constructor
  · constructor
    · rw [side]
      exact normalizeSide_ne_empty _
    · rw [playbook]
      exact printValue_ne_empty (truthy_or _ rfl)
  · simp only [initializePositionState]
  · simp only [initializePositionState]

section Runs

variable {start : PositionState}

theorem named_afterMarks (named : Named start) (marks : List Mark) :
    Named (afterMarks start marks) := by
  induction marks using List.reverseRecOn with
  | nil => exact named
  | append_singleton marks mark ih =>
      rw [afterMarks_snoc]
      exact ⟨ih.side, ih.playbook⟩

theorem watermarks_afterMarks (filled : Filled start) (marks : List Mark) :
    ∃ high low, Watermarks (afterMarks start marks) high low := by
  induction marks using List.reverseRecOn with
  | nil => exact ⟨start.fillPrice, start.fillPrice, filled.high, filled.low, id, id⟩
  | append_singleton marks mark ih =>
      obtain ⟨high, low, before⟩ := ih
      rw [afterMarks_snoc]
      exact ⟨_, _, before.next mark⟩

theorem extrema_nil (filled : Filled start) : Extrema start [] := by
  refine ⟨start.fillPrice, start.fillPrice, filled.high, filled.low, ?_, ?_⟩
  · constructor
    · exact List.mem_cons_self
    · intro item member
      rw [List.mem_singleton.mp member]
      exact lt_irrefl _
  · constructor
    · exact List.mem_cons_self
    · intro item member
      rw [List.mem_singleton.mp member]
      exact lt_irrefl _

theorem extrema_snoc_iff (filled : Filled start) {marks : List Mark} (extrema : Extrema start marks)
    (mark : Mark) :
    Extrema start (marks ++ [mark]) ↔ Faithful (afterMarks start marks) mark := by
  obtain ⟨high, low, before⟩ := watermarks_afterMarks filled marks
  obtain ⟨other, another, ofHigh, ofLow, highest, lowest⟩ := extrema
  cases Option.some.inj (ofHigh.symm.trans before.ofHigh)
  cases Option.some.inj (ofLow.symm.trans before.ofLow)
  have after := before.next mark
  rw [← afterMarks_snoc, fillPrice_afterMarks] at after
  have highZero : high = .finite 0 → start.fillPrice = .finite 0 := by
    rw [← fillPrice_afterMarks start marks]
    exact before.highZero
  have lowZero : low = .finite 0 → start.fillPrice = .finite 0 := by
    rw [← fillPrice_afterMarks start marks]
    exact before.lowZero
  have tracksHigh := nextWatermark_iff above_order highest highZero mark.price
  have tracksLow := nextWatermark_iff below_order lowest lowZero mark.price
  rw [← suppliedPrices_snoc] at tracksHigh tracksLow
  constructor
  · intro extrema
    obtain ⟨newHigh, newLow, isHigh, isLow, highest, lowest⟩ := extrema
    cases Option.some.inj (isHigh.symm.trans after.ofHigh)
    cases Option.some.inj (isLow.symm.trans after.ofLow)
    intro first second price isFirst isSecond supplied
    cases Option.some.inj (isFirst.symm.trans before.ofHigh)
    cases Option.some.inj (isSecond.symm.trans before.ofLow)
    exact ⟨tracksHigh.mp highest price supplied, tracksLow.mp lowest price supplied⟩
  · intro faithful
    refine ⟨_, _, after.ofHigh, after.ofLow, ?_, ?_⟩
    · apply tracksHigh.mpr
      intro price supplied
      exact (faithful high low price before.ofHigh before.ofLow supplied).1
    · apply tracksLow.mpr
      intro price supplied
      exact (faithful high low price before.ofHigh before.ofLow supplied).2

theorem extrema_iff_faithful (filled : Filled start) (marks : List Mark) :
    (∀ earlier later, marks = earlier ++ later → Extrema start earlier) ↔
      ∀ earlier mark later, marks = earlier ++ mark :: later →
        Faithful (afterMarks start earlier) mark := by
  constructor
  · intro extrema earlier mark later split
    apply (extrema_snoc_iff filled (extrema earlier (mark :: later) split) mark).mp
    apply extrema _ later
    rw [split, List.append_assoc]
    rfl
  · intro faithful earlier later split
    induction earlier using List.reverseRecOn generalizing later with
    | nil => exact extrema_nil filled
    | append_singleton earlier mark ih =>
        have whole : marks = earlier ++ mark :: later := by
          rw [split, List.append_assoc]
          rfl
        exact (extrema_snoc_iff filled (ih (mark :: later) whole) mark).mpr
          (faithful earlier mark later whole)

end Runs

/-! ### Runs with reloads -/

inductive StoreStep where
  | update (mark : Mark)
  | reload

def StoreStep.mark? : StoreStep → Option Mark
  | .update mark => some mark
  | .reload => none

def StoreStep.apply (state : PositionState) : StoreStep → Option PositionState
  | .update mark => some (updatePositionState state mark.market mark.nowTs)
  | .reload => loadPositionState (savePositionState state)

def marksOf (steps : List StoreStep) : List Mark :=
  steps.filterMap StoreStep.mark?

def afterSteps (start : PositionState) (steps : List StoreStep) : Option PositionState :=
  steps.foldlM StoreStep.apply start

theorem afterSteps_eq {start : PositionState} (named : Named start) (steps : List StoreStep)
    (printable : ∀ earlier later, marksOf steps = earlier ++ later →
      Printable (afterMarks start earlier)) :
    afterSteps start steps = some (afterMarks start (marksOf steps)) := by
  induction steps using List.reverseRecOn with
  | nil => rfl
  | append_singleton steps step ih =>
      have whole : marksOf (steps ++ [step]) = marksOf steps ++ step.mark?.toList := by
        unfold marksOf
        rw [List.filterMap_append]
        cases step <;> rfl
      have earlier : afterSteps start steps = some (afterMarks start (marksOf steps)) := by
        apply ih
        intro earlier later split
        apply printable earlier (later ++ step.mark?.toList)
        rw [whole, split, List.append_assoc]
      have last : afterSteps start (steps ++ [step]) =
          step.apply (afterMarks start (marksOf steps)) := by
        unfold afterSteps at earlier ⊢
        rw [List.foldlM_append, earlier]
        change step.apply _ >>= pure = _
        rw [bind_pure]
      rw [last, whole]
      cases step with
      | update mark =>
          change some _ = some (afterMarks start (marksOf steps ++ [mark]))
          rw [afterMarks_snoc]
      | reload =>
          change loadPositionState _ = some (afterMarks start (marksOf steps ++ []))
          rw [List.append_nil]
          apply loadPositionState_save (named_afterMarks named (marksOf steps))
          exact printable (marksOf steps) [] whole

/-- In every run of marks of a filled position, the watermarks are the extreme prices in every
state, whatever reloads happen in between, exactly if each mark is faithful. -/
theorem watermarks_iff_faithful (rounding : ℚ → ℚ) (fill candidate : PyDict) (nowTs : PyFloat)
    (marks : List Mark)
    (printable : ∀ earlier later, marks = earlier ++ later →
      Printable (afterMarks (initializePositionState rounding fill candidate nowTs) earlier)) :
    ((∀ earlier later, marks = earlier ++ later →
        Extrema (initializePositionState rounding fill candidate nowTs) earlier) ∧
      ∀ steps, marksOf steps = marks →
        afterSteps (initializePositionState rounding fill candidate nowTs) steps =
          some (afterMarks (initializePositionState rounding fill candidate nowTs) marks)) ↔
      ∀ earlier mark later, marks = earlier ++ mark :: later →
        Faithful (afterMarks (initializePositionState rounding fill candidate nowTs) earlier)
          mark := by
  have filled := filled_initialize rounding fill candidate nowTs
  rw [← extrema_iff_faithful filled marks]
  constructor
  · intro both
    exact both.1
  · intro extrema
    refine ⟨extrema, ?_⟩
    intro steps same
    subst same
    exact afterSteps_eq filled.toNamed steps printable

private def filledAtHundred : PositionState :=
  initializePositionState id [("fill_price", .int 100), ("qty", .int 1)]
    [("stop_loss", .int 90), ("target", .int 120)] (.finite 0)

private def priced (price : ℚ) : Mark :=
  { market := [("last_price", .float (.finite price))], nowTs := .finite 1 }

private theorem split_singleton {first : Mark} {earlier later : List Mark}
    (split : [first] = earlier ++ later) : earlier = [] ∨ earlier = [first] := by
  cases earlier with
  | nil => exact .inl rfl
  | cons head rest =>
      right
      obtain ⟨rfl, tail⟩ := List.cons.inj split
      rw [(List.append_eq_nil_iff.mp tail.symm).1]

private theorem printable_filledAtHundred (price : ℚ)
    (first : Printable filledAtHundred)
    (second : Printable (afterMarks filledAtHundred [priced price])) :
    ∀ earlier later, [priced price] = earlier ++ later →
      Printable (afterMarks filledAtHundred earlier) := by
  intro earlier later split
  rcases split_singleton split with rfl | rfl
  · exact first
  · exact second

/-- A position filled at 100 whose price rises to 105. -/
theorem watermarks_iff_faithful_rise : Extrema filledAtHundred [priced 105] := by
  refine ((watermarks_iff_faithful id _ _ _ [priced 105] (printable_filledAtHundred 105
    (by unfold Printable; decide +kernel) (by unfold Printable; decide +kernel))).mpr ?_).1
      [priced 105] [] rfl
  intro earlier mark later split
  have whole : [priced 105] = (earlier ++ [mark]) ++ later := by
    rw [split, List.append_assoc]
    rfl
  have empty : earlier = [] := by
    cases earlier with
    | nil => rfl
    | cons head rest => simp at split
  subst empty
  obtain ⟨rfl, -⟩ := List.cons.inj split
  intro high low price ofHigh ofLow supplied
  have isHigh : (afterMarks filledAtHundred []).highWatermark = some (.finite 100) := by
    decide +kernel
  have isLow : (afterMarks filledAtHundred []).lowWatermark = some (.finite 100) := by
    decide +kernel
  have isPrice : (priced 105).price = some (.finite 105) := rfl
  rw [← Option.some.inj (isHigh.symm.trans ofHigh), ← Option.some.inj (isLow.symm.trans ofLow),
    ← Option.some.inj (isPrice.symm.trans supplied)]
  unfold Tracks
  rw [if_neg (by decide +kernel), if_neg (by decide +kernel)]
  constructor
  · intro impossible
    exact absurd impossible (by decide +kernel)
  · intro impossible
    exact absurd impossible (by decide +kernel)

/-- A position filled at 100 whose price falls to zero keeps 100 as its lowest price. -/
theorem zero_price_not_lowest : ¬ ∀ (rounding : ℚ → ℚ) (fill candidate : PyDict)
    (nowTs : PyFloat) (marks : List Mark),
    (∀ earlier later, marks = earlier ++ later →
      Printable (afterMarks (initializePositionState rounding fill candidate nowTs) earlier)) →
    Extrema (initializePositionState rounding fill candidate nowTs) marks := by
  intro extreme
  obtain ⟨high, low, -, ofLow, -, lowest⟩ := extreme id
    [("fill_price", .int 100), ("qty", .int 1)] [("stop_loss", .int 90), ("target", .int 120)]
    (.finite 0) [priced 0] (printable_filledAtHundred 0
      (by unfold Printable; decide +kernel) (by unfold Printable; decide +kernel))
  have kept : (afterMarks filledAtHundred [priced 0]).lowWatermark = some (.finite 100) := by
    decide +kernel
  have same : low = .finite 100 := Option.some.inj (ofLow.symm.trans kept)
  have beaten := lowest.unbeaten (.finite 0) (by decide +kernel)
  rw [same] at beaten
  exact absurd beaten (by decide +kernel)

end Algotradify.Core.PositionStateEngine
