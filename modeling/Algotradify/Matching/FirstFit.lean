/-
First-fit pairings of takers with slots: takers come one after another, and each takes the
first slot that fits it and that no earlier taker has taken.

The pairing is described by what holds of it, not by how it is found: it is the only one of
its kind, and it grows by one taker at a time.
-/

import Mathlib.Data.Finset.Card
import Mathlib.Order.WellFounded

namespace Algotradify.Matching

variable {Taker Slot : Type*} [LinearOrder Taker] [LinearOrder Slot]

structure FirstFit (fits : Taker → Slot → Prop) (pairing : Taker → Option Slot) : Prop where
  fitted : ∀ taker slot, pairing taker = some slot → fits taker slot
  unshared : ∀ first second slot,
    pairing first = some slot → pairing second = some slot → first = second
  served : ∀ taker slot, fits taker slot →
    (∃ own, own ≤ slot ∧ pairing taker = some own) ∨
      ∃ earlier, earlier < taker ∧ pairing earlier = some slot

namespace FirstFit

variable {fits : Taker → Slot → Prop} {pairing other : Taker → Option Slot}

private theorem served_as_well (paired : FirstFit fits pairing) (others : FirstFit fits other)
    {taker : Taker} (agree : ∀ earlier, earlier < taker → pairing earlier = other earlier)
    {slot : Slot} (given : pairing taker = some slot) :
    ∃ own, own ≤ slot ∧ other taker = some own := by
  rcases others.served taker slot (paired.fitted taker slot given) with own | taken
  · exact own
  · obtain ⟨earlier, less, taken⟩ := taken
    rw [← agree earlier less] at taken
    have same := paired.unshared earlier taker slot taken given
    exact absurd less (same ▸ lt_irrefl taker)

theorem unique [WellFoundedLT Taker] (paired : FirstFit fits pairing)
    (others : FirstFit fits other) : pairing = other := by
  funext taker
  induction taker using WellFoundedLT.induction with
  | ind taker ih =>
      cases given : pairing taker with
      | none =>
          cases given' : other taker with
          | none => rfl
          | some slot =>
              obtain ⟨own, _, got⟩ :=
                served_as_well others paired (fun earlier less => (ih earlier less).symm) given'
              rw [given] at got
              cases got
      | some slot =>
          obtain ⟨own, ownLe, got⟩ := served_as_well paired others ih given
          obtain ⟨back, backLe, again⟩ :=
            served_as_well others paired (fun earlier less => (ih earlier less).symm) got
          rw [given] at again
          cases again
          rw [got, le_antisymm backLe ownLe]

theorem empty (nothing : ∀ taker slot, ¬fits taker slot) :
    FirstFit fits fun _ => none where
  fitted _ _ given := nomatch given
  unshared _ _ _ given _ := nomatch given
  served taker slot fit := absurd fit (nothing taker slot)

theorem extend (paired : FirstFit fits pairing) {after : Taker → Slot → Prop} {last : Taker}
    {choice : Option Slot}
    (earlier : ∀ taker slot, fits taker slot → taker < last)
    (same : ∀ taker slot, taker ≠ last → (after taker slot ↔ fits taker slot))
    (chosen : ∀ slot, choice = some slot →
      after last slot ∧ ∀ taker, pairing taker ≠ some slot)
    (least : ∀ slot, after last slot →
      (∃ own, own ≤ slot ∧ choice = some own) ∨ ∃ taker, pairing taker = some slot) :
    FirstFit after (Function.update pairing last choice) := by
  have before : ∀ taker slot, pairing taker = some slot → taker < last :=
    fun taker slot given => earlier taker slot (paired.fitted taker slot given)
  refine ⟨?_, ?_, ?_⟩
  · intro taker slot given
    by_cases isLast : taker = last
    · subst isLast
      rw [Function.update_self] at given
      exact (chosen slot given).1
    · rw [Function.update_of_ne isLast] at given
      exact (same taker slot isLast).mpr (paired.fitted taker slot given)
  · intro first second slot givenFirst givenSecond
    by_cases firstLast : first = last
    · by_cases secondLast : second = last
      · rw [firstLast, secondLast]
      · subst firstLast
        rw [Function.update_self] at givenFirst
        rw [Function.update_of_ne secondLast] at givenSecond
        exact absurd givenSecond ((chosen slot givenFirst).2 second)
    · by_cases secondLast : second = last
      · subst secondLast
        rw [Function.update_self] at givenSecond
        rw [Function.update_of_ne firstLast] at givenFirst
        exact absurd givenFirst ((chosen slot givenSecond).2 first)
      · rw [Function.update_of_ne firstLast] at givenFirst
        rw [Function.update_of_ne secondLast] at givenSecond
        exact paired.unshared first second slot givenFirst givenSecond
  · intro taker slot fit
    by_cases isLast : taker = last
    · subst isLast
      rcases least slot fit with own | ⟨holder, taken⟩
      · obtain ⟨own, ownLe, picked⟩ := own
        exact Or.inl ⟨own, ownLe, by rw [Function.update_self, picked]⟩
      · have less := before holder slot taken
        refine Or.inr ⟨holder, less, ?_⟩
        rw [Function.update_of_ne less.ne, taken]
    · rcases paired.served taker slot ((same taker slot isLast).mp fit) with own | taken
      · obtain ⟨own, ownLe, got⟩ := own
        exact Or.inl ⟨own, ownLe, by rw [Function.update_of_ne isLast, got]⟩
      · obtain ⟨holder, less, taken⟩ := taken
        refine Or.inr ⟨holder, less, ?_⟩
        rw [Function.update_of_ne (before holder slot taken).ne, taken]

theorem ne_none_of_apart (paired : FirstFit fits pairing) {taker : Taker} {slot : Slot}
    (fit : fits taker slot) (apart : ∀ earlier, earlier < taker → ¬fits earlier slot) :
    pairing taker ≠ none := by
  rcases paired.served taker slot fit with own | taken
  · obtain ⟨own, _, got⟩ := own
    rw [got]
    exact Option.some_ne_none own
  · obtain ⟨earlier, less, taken⟩ := taken
    exact absurd (paired.fitted earlier slot taken) (apart earlier less)

end FirstFit

end Algotradify.Matching
