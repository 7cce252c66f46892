/-
Times that come in order, each only when few enough came shortly before it: then no
window, wherever it starts, holds more than the limit.

A rolling window over samples that come in order: dropping what is too old from the front
keeps exactly the samples that are not too old.
-/

import Mathlib.Algebra.Order.Group.Defs
import Mathlib.Algebra.Order.Group.Unbundled.Basic
import Mathlib.Data.List.Induction
import Mathlib.Order.Defs.PartialOrder

namespace Algotradify.Timed

section Pacing

variable {Time : Type*} [AddCommGroup Time] [LinearOrder Time] [IsOrderedAddMonoid Time]

/-- Each time is the latest so far, and fewer than `limit` lie within `width` before it. -/
inductive Paced (width : Time) (limit : ℕ) : List Time → Prop
  | nil : Paced width limit []
  | snoc {times : List Time} {now : Time} : Paced width limit times →
      (∀ time ∈ times, time ≤ now) →
      times.countP (fun time => now - width ≤ time) < limit →
        Paced width limit (times ++ [now])

namespace Paced

variable {width : Time} {limit : ℕ} {times : List Time}

/-- A window of the width, from anywhere, holds at most `limit` of the times. -/
theorem window (paced : Paced width limit times) (start : Time) :
    times.countP (fun time => start ≤ time ∧ time ≤ start + width) ≤ limit := by
  induction paced with
  | nil => exact Nat.zero_le limit
  | @snoc times now _ _ few ih =>
      rw [List.countP_append, List.countP_singleton]
      split
      · next inside =>
        obtain ⟨_, atMost⟩ := of_decide_eq_true inside
        have before : times.countP (fun time => start ≤ time ∧ time ≤ start + width) ≤
            times.countP (fun time => now - width ≤ time) := by
          refine List.countP_mono_left fun time _ within => ?_
          obtain ⟨atLeast, _⟩ := of_decide_eq_true within
          exact decide_eq_true ((sub_le_iff_le_add.mpr atMost).trans atLeast)
        exact before.trans_lt few
      · exact ih

end Paced

end Pacing

section Rolling

variable {Time Value : Type*} [Preorder Time]

structure Expiry (old : Time → Time → Bool) : Prop where
  earlier : ∀ {now time before}, before ≤ time → old now time = true → old now before = true
  later : ∀ {now after time}, now ≤ after → old now time = true → old after time = true

def InOrder (samples : List (Time × Value)) : Prop :=
  samples.Pairwise fun left right => left.1 ≤ right.1

variable {old : Time → Time → Bool} {samples : List (Time × Value)} {now after : Time}

theorem dropWhile_eq_filter (expiry : Expiry old) (ordered : InOrder samples) (now : Time) :
    samples.dropWhile (fun sample => old now sample.1) =
      samples.filter fun sample => !old now sample.1 := by
  induction samples with
  | nil => rfl
  | cons head rest ih =>
      obtain ⟨first, inner⟩ := List.pairwise_cons.mp ordered
      by_cases gone : old now head.1 = true
      · simp only [List.dropWhile_cons, List.filter_cons, gone]
        simpa using ih inner
      · simp only [List.dropWhile_cons, gone, Bool.false_eq_true, if_false]
        symm
        apply List.filter_eq_self.mpr
        intro sample member
        rcases List.mem_cons.mp member with rfl | member
        · simp [gone]
        · simp only [Bool.not_eq_true', Bool.eq_false_iff]
          intro tooOld
          exact gone (expiry.earlier (first sample member) tooOld)

theorem filter_filter_later (expiry : Expiry old) (later : now ≤ after) :
    (samples.filter fun sample => !old now sample.1).filter (fun sample => !old after sample.1) =
      samples.filter fun sample => !old after sample.1 := by
  rw [List.filter_filter]
  apply List.filter_congr
  intro sample member
  cases gone : old now sample.1 with
  | false => simp
  | true => simp [expiry.later later gone]

end Rolling

section Aging

variable {Item : Type*} {old : Item → Bool} {items : List Item}

end Aging

end Algotradify.Timed
