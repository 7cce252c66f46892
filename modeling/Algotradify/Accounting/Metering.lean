/-
Metered quantities: readings of many counters that only report where each counter
stands, charged by how far it moved since its last reading.
-/

import Mathlib.Algebra.Ring.Basic
import Mathlib.Algebra.Ring.Int.Defs
import Mathlib.Tactic.Ring

namespace Algotradify.Accounting

/-- Where a counter stands, and the price of a unit that brought it there. -/
structure Reading (Key R : Type*) where
  key : Key
  level : Int
  unit : R

namespace Reading

variable {Key R : Type*} [DecidableEq Key] [CommRing R]

def advance (levels : Key → Int) (reading : Reading Key R) : Key → Int :=
  fun key => if key = reading.key then reading.level else levels key

def cost (levels : Key → Int) (reading : Reading Key R) : R :=
  reading.unit * ((reading.level - levels reading.key : Int) : R)

/-- What the readings charge, each from where the earlier ones left its counter. -/
def charge (levels : Key → Int) : List (Reading Key R) → R
  | [] => 0
  | reading :: rest => reading.cost levels + charge (reading.advance levels) rest

theorem charge_append (levels : Key → Int) (first second : List (Reading Key R)) :
    charge levels (first ++ second) =
      charge levels first + charge (first.foldl advance levels) second := by
  induction first generalizing levels with
  | nil =>
      change charge levels second = 0 + charge levels second
      rw [zero_add]
  | cons reading rest ih =>
      rw [List.cons_append, charge, charge, List.foldl_cons, ih, add_assoc]

theorem charge_split (levels : Key → Int) {key : Key} {unit : R} (init : List (Reading Key R))
    (last : Reading Key R) (sameTerms : ∀ reading ∈ init ++ [last],
      reading.key = key ∧ reading.unit = unit) :
    charge levels (init ++ [last]) = unit * ((last.level - levels key : Int) : R) ∧
      (init ++ [last]).foldl advance levels =
        fun other => if other = key then last.level else levels other := by
  induction init generalizing levels with
  | nil =>
      obtain ⟨sameKey, sameUnit⟩ := sameTerms last (List.mem_singleton_self last)
      constructor
      · rw [List.nil_append, charge, charge, add_zero, cost, sameKey, sameUnit]
      · funext other
        simp only [List.nil_append, List.foldl_cons, List.foldl_nil, advance, sameKey]
  | cons reading rest ih =>
      obtain ⟨sameKey, sameUnit⟩ := sameTerms reading List.mem_cons_self
      obtain ⟨charged, left⟩ := ih (reading.advance levels)
        fun other member => sameTerms other (List.mem_cons_of_mem reading member)
      constructor
      · rw [List.cons_append, charge, charged, cost, sameKey, sameUnit]
        simp only [advance, sameKey, if_true]
        push_cast
        ring
      · rw [List.cons_append, List.foldl_cons, left]
        funext other
        by_cases here : other = key
        · rw [if_pos here, if_pos here]
        · rw [if_neg here, if_neg here]
          simp only [advance, sameKey, here, if_false]

theorem charge_parts (levels : Key → Int) (before later init : List (Reading Key R))
    (whole last : Reading Key R) (sameTerms : ∀ reading ∈ init ++ [last],
      reading.key = whole.key ∧ reading.unit = whole.unit) (sameLevel : last.level = whole.level) :
    charge levels (before ++ (init ++ [last]) ++ later) =
      charge levels (before ++ [whole] ++ later) := by
  obtain ⟨parts, partsLeft⟩ := charge_split (before.foldl advance levels) init last sameTerms
  have ownTerms : ∀ reading ∈ [] ++ [whole],
      reading.key = whole.key ∧ reading.unit = whole.unit := by simp
  obtain ⟨single, singleLeft⟩ := charge_split (before.foldl advance levels) [] whole ownTerms
  rw [List.nil_append] at single singleLeft
  simp only [charge_append, List.foldl_append] at *
  rw [parts, single, partsLeft, singleLeft, sameLevel]

end Reading

end Algotradify.Accounting
