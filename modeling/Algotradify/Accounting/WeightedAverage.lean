/-
Weighted averages: values that count with a weight, their total and the bounds on it.

The total divided by the weight is the average. Where every value so far is the same, a
further value equals the average of all only if it is that value too.
-/

import Mathlib.Algebra.BigOperators.Group.List.Basic
import Mathlib.Algebra.Order.Field.Basic
import Mathlib.Data.Int.Cast.Lemmas
import Mathlib.Algebra.Order.Ring.Cast
import Mathlib.Data.List.MinMax
import Mathlib.Tactic.Linarith
import Mathlib.Tactic.Ring

namespace Algotradify.Accounting.Weighted

variable {K : Type*} [Field K]

def weight (entries : List (ℤ × K)) : ℤ :=
  (entries.map Prod.fst).sum

def total (entries : List (ℤ × K)) : K :=
  (entries.map fun entry => (entry.1 : K) * entry.2).sum

omit [Field K] in
@[simp] theorem weight_nil : weight ([] : List (ℤ × K)) = 0 := rfl

@[simp] theorem total_nil : total ([] : List (ℤ × K)) = 0 := rfl

omit [Field K] in
@[simp] theorem weight_cons (entry : ℤ × K) (rest : List (ℤ × K)) :
    weight (entry :: rest) = entry.1 + weight rest := by
  simp [weight]

@[simp] theorem total_cons (entry : ℤ × K) (rest : List (ℤ × K)) :
    total (entry :: rest) = entry.1 * entry.2 + total rest := by
  simp [total]

omit [Field K] in
theorem weight_snoc (entries : List (ℤ × K)) (entry : ℤ × K) :
    weight (entries ++ [entry]) = weight entries + entry.1 := by
  simp [weight]

theorem total_snoc (entries : List (ℤ × K)) (entry : ℤ × K) :
    total (entries ++ [entry]) = total entries + entry.1 * entry.2 := by
  simp [total]

theorem total_of_same {entries : List (ℤ × K)} {value : K}
    (same : ∀ entry ∈ entries, entry.2 = value) : total entries = weight entries * value := by
  induction entries with
  | nil => simp
  | cons entry rest ih =>
      have own := same entry List.mem_cons_self
      have others := ih fun other member => same other (List.mem_cons_of_mem entry member)
      rw [total_cons, weight_cons, others, own]
      push_cast
      ring

theorem eq_of_last_average [CharZero K] {entries : List (ℤ × K)} {entry : ℤ × K} {value : K}
    (same : ∀ other ∈ entries, other.2 = value) (weighty : weight entries ≠ 0)
    (average : entry.2 * weight (entries ++ [entry]) = total (entries ++ [entry])) :
    entry.2 = value := by
  rw [weight_snoc, total_snoc, total_of_same same] at average
  push_cast at average
  have scaled : entry.2 * (weight entries : K) = value * (weight entries : K) := by
    have expanded : entry.2 * (weight entries : K) + entry.1 * entry.2 =
        value * (weight entries : K) + entry.1 * entry.2 := by
      calc
        entry.2 * (weight entries : K) + entry.1 * entry.2 =
            entry.2 * (weight entries + entry.1) := by ring
        _ = weight entries * value + entry.1 * entry.2 := average
        _ = value * (weight entries : K) + entry.1 * entry.2 := by ring
    exact add_right_cancel expanded
  exact mul_right_cancel₀ (Int.cast_ne_zero.mpr weighty) scaled

omit [Field K] in
theorem weight_pos {entries : List (ℤ × K)} (positive : ∀ entry ∈ entries, 0 < entry.1)
    (some : entries ≠ []) : 0 < weight entries := by
  induction entries with
  | nil => exact absurd rfl some
  | cons entry rest ih =>
      have own := positive entry List.mem_cons_self
      rw [weight_cons]
      by_cases none : rest = []
      · subst none
        simpa using own
      · have others := ih (fun other member => positive other (List.mem_cons_of_mem entry member))
          none
        omega

/-! ### Bounds -/

section Bounds

variable [LinearOrder K] [IsStrictOrderedRing K] {entries : List (ℤ × K)} {bound : K}

theorem mul_weight_le_total (bounded : ∀ entry ∈ entries, 0 ≤ entry.1 ∧ bound ≤ entry.2) :
    bound * weight entries ≤ total entries := by
  induction entries with
  | nil => simp
  | cons entry rest ih =>
      obtain ⟨nonneg, least⟩ := bounded entry List.mem_cons_self
      have others := ih fun other member => bounded other (List.mem_cons_of_mem entry member)
      have scaled : (entry.1 : K) * bound ≤ entry.1 * entry.2 :=
        mul_le_mul_of_nonneg_left least (Int.cast_nonneg nonneg)
      rw [weight_cons, total_cons]
      push_cast
      linarith

theorem total_le_mul_weight (bounded : ∀ entry ∈ entries, 0 ≤ entry.1 ∧ entry.2 ≤ bound) :
    total entries ≤ bound * weight entries := by
  induction entries with
  | nil => simp
  | cons entry rest ih =>
      obtain ⟨nonneg, most⟩ := bounded entry List.mem_cons_self
      have others := ih fun other member => bounded other (List.mem_cons_of_mem entry member)
      have scaled : (entry.1 : K) * entry.2 ≤ entry.1 * bound :=
        mul_le_mul_of_nonneg_left most (Int.cast_nonneg nonneg)
      rw [weight_cons, total_cons]
      push_cast
      linarith

theorem exists_mul_weight_le_total (nonneg : ∀ entry ∈ entries, 0 ≤ entry.1) (some : entries ≠ []) :
    ∃ entry ∈ entries, entry.2 * weight entries ≤ total entries := by
  obtain ⟨least, found⟩ := Option.ne_none_iff_exists'.mp
    (mt (List.argmin_eq_none (f := Prod.snd)).mp some)
  refine ⟨least, List.argmin_mem found, mul_weight_le_total ?_⟩
  intro entry member
  exact ⟨nonneg entry member, List.le_of_mem_argmin member found⟩

theorem exists_total_le_mul_weight (nonneg : ∀ entry ∈ entries, 0 ≤ entry.1) (some : entries ≠ []) :
    ∃ entry ∈ entries, total entries ≤ entry.2 * weight entries := by
  obtain ⟨greatest, found⟩ := Option.ne_none_iff_exists'.mp
    (mt (List.argmax_eq_none (f := Prod.snd)).mp some)
  refine ⟨greatest, List.argmax_mem found, total_le_mul_weight ?_⟩
  intro entry member
  exact ⟨nonneg entry member, List.le_of_mem_argmax member found⟩

end Bounds

end Algotradify.Accounting.Weighted
