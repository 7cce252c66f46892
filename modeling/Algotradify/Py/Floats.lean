/-
Choices between floats, and rounding to an integer.

Rounding to a grid: it keeps the order and leaves what it returns, so a rounded value
stays between bounds that are on the grid.
-/

import Algotradify.Py.Convert
import Mathlib.Tactic.Linarith

namespace Algotradify.Py

/-- `value or default` of a number that may be missing. -/
def orDefault (value : Option PyFloat) (default : PyFloat) : PyFloat :=
  match value with
  | none => default
  | some number => if number.truthy then number else default

/-- `sum` of floats. -/
def sumFloats (values : List PyFloat) : PyFloat :=
  values.foldl (fun total value => total + value) (.finite 0)

theorem sumFloats_snoc (values : List PyFloat) (value : PyFloat) :
    sumFloats (values ++ [value]) = sumFloats values + value := by
  unfold sumFloats
  rw [List.foldl_append]
  rfl

theorem sumFloats_finite {Item : Type} (items : List Item) (number : Item → PyFloat)
    (value : Item → ℚ) (finite : ∀ item ∈ items, number item = .finite (value item)) :
    sumFloats (items.map number) = .finite (items.map value).sum := by
  induction items using List.reverseRecOn with
  | nil => rfl
  | append_singleton rest item ih =>
      rw [List.map_append, List.map_append, List.sum_append, List.map_singleton,
        List.map_singleton, List.sum_singleton, sumFloats_snoc,
        ih fun other member => finite other (List.mem_append_left _ member),
        finite item (List.mem_append_right _ (List.mem_singleton_self item)),
        PyFloat.finite_add]

theorem infinityOfSign_ne_finite (sign : Option Int) (value : ℚ) :
    PyFloat.infinityOfSign sign ≠ .finite value := by
  unfold PyFloat.infinityOfSign
  cases sign with
  | none =>
      intro impossible
      cases impossible
  | some sign =>
      dsimp only
      split
      · intro impossible
        cases impossible
      · split <;> intro impossible <;> cases impossible

theorem finite_of_mul_eq {price : PyFloat} {quantity : Int} {product : ℚ}
    (made : price * .ofInt quantity = .finite product) :
    ∃ value : ℚ, price = .finite value ∧ value * quantity = product := by
  cases price with
  | finite value => exact ⟨value, rfl, PyFloat.finite.inj made⟩
  | nan =>
      change PyFloat.infinityOfSign none = _ at made
      exact absurd made (infinityOfSign_ne_finite _ _)
  | posInf =>
      change PyFloat.infinityOfSign ((PyFloat.ofInt quantity).sign?.bind fun right =>
        some (1 * right)) = _ at made
      exact absurd made (infinityOfSign_ne_finite _ _)
  | negInf =>
      change PyFloat.infinityOfSign ((PyFloat.ofInt quantity).sign?.bind fun right =>
        some (-1 * right)) = _ at made
      exact absurd made (infinityOfSign_ne_finite _ _)

/-- `round(value)` of a finite number: a half goes to the even neighbour. -/
def roundHalfEven (value : ℚ) : Int :=
  if value - value.floor < 1 / 2 then value.floor
  else if 1 / 2 < value - value.floor then value.floor + 1
  else if value.floor % 2 = 0 then value.floor else value.floor + 1

example : roundHalfEven (5 / 2) = 2 ∧ roundHalfEven (7 / 2) = 4 := by decide +kernel

/-- `int(round(value))`. -/
def roundInt : PyFloat → Except PyError Int
  | .finite value => .ok (roundHalfEven value)
  | .nan => .error (.valueError "cannot convert float NaN to integer")
  | _ => .error (.overflowError "cannot convert float infinity to integer")

section Rounds

variable {K : Type*}

structure Rounds [Preorder K] (rounding : K → K) : Prop where
  monotone : Monotone rounding
  stable : ∀ value, rounding (rounding value) = rounding value

theorem Rounds.le_of_le [Preorder K] {rounding : K → K} (rounds : Rounds rounding) {low value : K}
    (round : rounding low = low) (below : low ≤ value) : low ≤ rounding value := by
  have kept := rounds.monotone below
  rw [round] at kept
  exact kept

theorem Rounds.le_of_ge [Preorder K] {rounding : K → K} (rounds : Rounds rounding) {high value : K}
    (round : rounding high = high) (above : value ≤ high) : rounding value ≤ high := by
  have kept := rounds.monotone above
  rw [round] at kept
  exact kept

theorem rounds_grid [Field K] [LinearOrder K] [IsStrictOrderedRing K] {nearest : K → ℤ} {scale : K}
    (positive : 0 < scale) (monotone : ∀ low high, low ≤ high → nearest low ≤ nearest high)
    (exact : ∀ number : ℤ, nearest number = number) :
    Rounds fun value => (nearest (value * scale) : K) / scale where
  monotone := by
    intro low high ordered
    apply div_le_div_of_nonneg_right _ positive.le
    exact_mod_cast monotone _ _ (mul_le_mul_of_nonneg_right ordered positive.le)
  stable := by
    intro value
    rw [div_mul_cancel₀ _ positive.ne', exact]

end Rounds

/-! ### Halves to even -/

theorem roundHalfEven_int (number : ℤ) : roundHalfEven number = number := by
  unfold roundHalfEven
  rw [Rat.floor_intCast, sub_self, if_pos (by norm_num)]

theorem floor_le_roundHalfEven (value : ℚ) : value.floor ≤ roundHalfEven value := by
  unfold roundHalfEven
  split
  · exact le_refl _
  · split
    · omega
    · split <;> omega

theorem roundHalfEven_le_floor (value : ℚ) : roundHalfEven value ≤ value.floor + 1 := by
  unfold roundHalfEven
  split
  · omega
  · split
    · exact le_refl _
    · split <;> omega

theorem roundHalfEven_mono {low high : ℚ} (ordered : low ≤ high) :
    roundHalfEven low ≤ roundHalfEven high := by
  rcases lt_or_eq_of_le (Rat.floor_monotone ordered) with apart | same
  · have front := roundHalfEven_le_floor low
    have back := floor_le_roundHalfEven high
    omega
  · -- both lie between the same integers, and the fraction of the greater is not less
    by_cases below : low - low.floor < 1 / 2
    · have own : roundHalfEven low = low.floor := if_pos below
      rw [own, same]
      exact floor_le_roundHalfEven high
    · have later : ¬ high - high.floor < 1 / 2 := by
        rw [← same]
        intro less
        apply below
        linarith
      unfold roundHalfEven
      rw [if_neg below, if_neg later, ← same]
      by_cases beyond : 1 / 2 < low - low.floor
      · rw [if_pos beyond, if_pos (by linarith)]
      · rw [if_neg beyond]
        by_cases even : low.floor % 2 = 0
        · rw [if_pos even]
          split <;> omega
        · rw [if_neg even]
          split <;> omega

theorem roundHalfEven_le_iff {value : ℚ} {number : ℤ} (even : number % 2 = 0) :
    roundHalfEven value ≤ number ↔ value ≤ number + 1 / 2 := by
  have below := Rat.floor_le value
  have above := Rat.lt_floor_add_one value
  push_cast at above
  rcases lt_trichotomy value.floor number with less | same | more
  · have whole : (value.floor : ℚ) + 1 ≤ number := by exact_mod_cast less
    have rounded := roundHalfEven_le_floor value
    exact ⟨fun _ => by linarith, fun _ => by omega⟩
  · rw [← same] at even ⊢
    unfold roundHalfEven
    split
    · exact ⟨fun _ => by linarith, fun _ => le_rfl⟩
    · split
      · exact ⟨fun _ => by omega, fun _ => by linarith⟩
      · exact ⟨fun _ => by linarith, fun _ => le_rfl⟩
  · have whole : (number : ℚ) + 1 ≤ value.floor := by exact_mod_cast more
    have rounded := floor_le_roundHalfEven value
    exact ⟨fun _ => by omega, fun _ => by linarith⟩

theorem le_roundHalfEven_iff {value : ℚ} {number : ℤ} (even : number % 2 = 0) :
    number ≤ roundHalfEven value ↔ (number : ℚ) - 1 / 2 ≤ value := by
  have below := Rat.floor_le value
  have above := Rat.lt_floor_add_one value
  push_cast at above
  have rounded := roundHalfEven_le_floor value
  rcases lt_trichotomy (value.floor + 1) number with less | same | more
  · have whole : (value.floor : ℚ) + 1 + 1 ≤ number := by exact_mod_cast less
    exact ⟨fun _ => by omega, fun _ => by linarith⟩
  · have whole : (number : ℚ) = value.floor + 1 := by exact_mod_cast same.symm
    have odd : ¬ value.floor % 2 = 0 := by omega
    unfold roundHalfEven
    split
    · exact ⟨fun _ => by omega, fun _ => by linarith⟩
    · split
      · exact ⟨fun _ => by linarith, fun _ => by omega⟩
      · exact ⟨fun _ => by linarith, fun _ => by omega⟩
  · have whole : (number : ℚ) ≤ value.floor := by exact_mod_cast Int.lt_add_one_iff.mp more
    have kept := floor_le_roundHalfEven value
    exact ⟨fun _ => by linarith, fun _ => by omega⟩

end Algotradify.Py
