/-
Average-cost accounting of one holding.

A holding has a signed quantity and, while it is open, an average price. A fill
in the direction of the holding is averaged in; a fill against it closes part or
all of it at the average price, and what is left over opens a holding the other
way at the fill price. The accounting identity says that realized gains and the
open gain at any mark add up to the marked quantity less the cash paid.
-/

import Mathlib.Algebra.CharZero.Defs
import Mathlib.Algebra.Order.Group.Int
import Mathlib.Algebra.Order.Ring.Int
import Mathlib.Data.Int.Cast.Lemmas
import Mathlib.Tactic.Ring

namespace Algotradify.Accounting

variable {K : Type*} [Field K]

/-- The average price after a fill of `quantity` at `price`. -/
def nextAverage (net : ℤ) (average : Option K) (quantity : ℤ) (price : K) : Option K :=
  if net + quantity = 0 then none
  else if net = 0 ∨ (net * quantity < 0 ∧ |quantity| > |net|) then some price
  else if net * quantity > 0 then
    some ((average.getD price * (|net| : ℤ) + price * (|quantity| : ℤ)) / (|net| + |quantity| : ℤ))
  else average

def closed (net quantity : ℤ) : ℤ :=
  if net * quantity < 0 then if |quantity| > |net| then net else -quantity else 0

def basis (net : ℤ) (average : Option K) : K :=
  net * average.getD 0

/-- Realized gains, open quantity at cost and cash flow agree, and there is an
average price exactly while the holding is open. -/
structure Balanced (net : ℤ) (average : Option K) (realized cash : K) : Prop where
  identity : realized = basis net average - cash
  average_eq_none_iff : average = none ↔ net = 0

theorem Balanced.start : Balanced (K := K) 0 none 0 0 where
  identity := by simp only [basis, Int.cast_zero, zero_mul, sub_zero]
  average_eq_none_iff := iff_of_true rfl rfl

theorem Balanced.mark {net : ℤ} {average : Option K} {realized cash : K}
    (balanced : Balanced net average realized cash) (mark : K) :
    realized + (mark - average.getD 0) * net = mark * net - cash := by
  rw [balanced.identity, basis]
  ring

private theorem basis_same_direction [CharZero K] {net quantity : ℤ} (average price : K)
    (same : 0 < net * quantity) :
    basis (net + quantity) (nextAverage net (some average) quantity price) =
      basis net (some average) + quantity * price := by
  have directions := mul_pos_iff.mp same
  have sumNe : net + quantity ≠ 0 := by omega
  have continues : ¬(net = 0 ∨ (net * quantity < 0 ∧ |quantity| > |net|)) := by
    rintro (zero | ⟨negative, _⟩) <;> omega
  rw [nextAverage, if_neg sumNe, if_neg continues, if_pos same]
  simp only [basis, Option.getD_some]
  -- Both quantities have one sign, so the absolute values share it.
  rcases directions with ⟨long, longFill⟩ | ⟨short, shortFill⟩
  · rw [abs_of_pos long, abs_of_pos longFill]
    have castNe : ((net + quantity : ℤ) : K) ≠ 0 := Int.cast_ne_zero.mpr sumNe
    rw [mul_div_cancel₀ _ castNe]
    ring
  · rw [abs_of_neg short, abs_of_neg shortFill, ← neg_add]
    have castNe : ((net + quantity : ℤ) : K) ≠ 0 := Int.cast_ne_zero.mpr sumNe
    rw [Int.cast_neg, Int.cast_neg, Int.cast_neg, div_neg, mul_neg, mul_div_cancel₀ _ castNe]
    ring

theorem basis_nextAverage [CharZero K] {net : ℤ} {average : Option K} (quantity : ℤ) (price : K)
    (held : average = none ↔ net = 0) :
    basis (net + quantity) (nextAverage net average quantity price) =
      basis net average + (price - average.getD 0) * closed net quantity + quantity * price := by
  by_cases flat : net + quantity = 0
  · have opposite : quantity = -net := by omega
    subst quantity
    by_cases zero : net = 0
    · subst net
      simp only [basis, closed, Int.cast_zero, zero_mul, neg_zero, add_zero, lt_self_iff_false,
        if_false, mul_zero]
    · have against : net * -net < 0 := by
        rw [mul_neg, neg_lt_zero]
        exact mul_self_pos.mpr zero
      have exact' : ¬|(-net)| > |net| := by rw [abs_neg]; exact lt_irrefl _
      rw [closed, if_pos against, if_neg exact', nextAverage, if_pos flat]
      simp only [basis, flat, Int.cast_zero, zero_mul, neg_neg, Int.cast_neg]
      ring
  by_cases zero : net = 0
  · subst net
    have absent := held.mpr rfl
    subst average
    rw [nextAverage, if_neg flat, if_pos (.inl rfl)]
    simp only [basis, closed, zero_mul, lt_self_iff_false, if_false, Int.cast_zero, mul_zero,
      zero_add, Option.getD_some]
  have open' : average ≠ none := fun absent => zero (held.mp absent)
  obtain ⟨own, rfl⟩ := Option.ne_none_iff_exists'.mp open'
  by_cases same : 0 < net * quantity
  · have notAgainst : ¬net * quantity < 0 := not_lt_of_gt same
    rw [basis_same_direction own price same, closed, if_neg notAgainst, Int.cast_zero, mul_zero,
      add_zero]
  by_cases reversal : net * quantity < 0 ∧ |quantity| > |net|
  · rw [nextAverage, if_neg flat, if_pos (.inr reversal), closed, if_pos reversal.1,
      if_pos reversal.2]
    simp only [basis, Option.getD_some, Int.cast_add]
    ring
  · have restarts : ¬(net = 0 ∨ (net * quantity < 0 ∧ |quantity| > |net|)) := by
      rintro (impossible | impossible)
      · exact zero impossible
      · exact reversal impossible
    rw [nextAverage, if_neg flat, if_neg restarts, if_neg same]
    by_cases against : net * quantity < 0
    · have partly : ¬|quantity| > |net| := fun larger => reversal ⟨against, larger⟩
      rw [closed, if_pos against, if_neg partly]
      simp only [basis, Option.getD_some, Int.cast_add, Int.cast_neg]
      ring
    · have noFill : quantity = 0 := by
        have product : net * quantity = 0 := le_antisymm (not_lt.mp same) (not_lt.mp against)
        exact (mul_eq_zero.mp product).resolve_left zero
      subst quantity
      rw [closed, if_neg against]
      simp only [basis, add_zero, Int.cast_zero, mul_zero, zero_mul]

theorem nextAverage_eq_none_iff {net : ℤ} {average : Option K} (quantity : ℤ) (price : K)
    (held : average = none ↔ net = 0) :
    nextAverage net average quantity price = none ↔ net + quantity = 0 := by
  unfold nextAverage
  by_cases flat : net + quantity = 0
  · rw [if_pos flat]
    exact iff_of_true rfl flat
  rw [if_neg flat]
  split
  · exact iff_of_false (Option.some_ne_none _) flat
  split
  · exact iff_of_false (Option.some_ne_none _) flat
  · rename_i restarts _
    exact iff_of_false (fun absent => restarts (.inl (held.mp absent))) flat

theorem Balanced.fill [CharZero K] {net : ℤ} {average : Option K} {realized cash : K}
    (balanced : Balanced net average realized cash) (quantity : ℤ) (price : K) :
    Balanced (net + quantity) (nextAverage net average quantity price)
      (realized + (price - average.getD 0) * closed net quantity) (cash + quantity * price) where
  identity := by
    rw [basis_nextAverage quantity price balanced.average_eq_none_iff, balanced.identity]
    ring
  average_eq_none_iff := nextAverage_eq_none_iff quantity price balanced.average_eq_none_iff

end Algotradify.Accounting
