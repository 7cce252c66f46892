/-
Stable sorting: what a sort leaves where it was.

Items that are pairwise in order keep their places. Where the order puts one kind of item
before another and each kind is in order already, sorting brings the first kind to the front
and moves nothing else. Leaving items out before the sorting or after it comes to the same.

Sorting by a key, the greatest first.

The order that sorts need only be known on the items sorted, where it is that of a key in a
linear order. What is sorted then descends by the key, and where no key occurs twice the
result does not depend on the order in which the items came.
-/

import Mathlib.Data.List.Sort
import Mathlib.Order.Basic

namespace Algotradify.Sorting

section Stable

variable {Item : Type*} {r : Item → Item → Prop} [DecidableRel r] {front : Item → Bool}

theorem orderedInsert_behind {item : Item} {ahead : List Item}
    (behind : ∀ other ∈ ahead, ¬r item other) (rest : List Item) :
    (ahead ++ rest).orderedInsert r item = ahead ++ rest.orderedInsert r item := by
  induction ahead with
  | nil => rfl
  | cons head others ih =>
      rw [List.cons_append, List.orderedInsert_cons, if_neg (behind head List.mem_cons_self),
        ih fun other member => behind other (List.mem_cons_of_mem head member), List.cons_append]

theorem orderedInsert_before {item : Item} {items : List Item}
    (before : ∀ other ∈ items, r item other) : items.orderedInsert r item = item :: items := by
  cases items with
  | nil => rfl
  | cons head rest => rw [List.orderedInsert_cons, if_pos (before head List.mem_cons_self)]

theorem insertionSort_partition {items : List Item}
    (together : items.Pairwise fun first second => front first = front second → r first second)
    (ahead : ∀ first second, front first = true → front second = false → r first second)
    (behind : ∀ first second, front first = false → front second = true → ¬r first second) :
    items.insertionSort r = items.filter front ++ items.filter (!front ·) := by
  induction items with
  | nil => rfl
  | cons item rest ih =>
      obtain ⟨here, later⟩ := List.pairwise_cons.mp together
      rw [List.insertionSort_cons, ih later]
      cases kind : front item with
      | true =>
          rw [List.filter_cons_of_pos kind, List.filter_cons_of_neg (by simp [kind]),
            List.cons_append]
          apply orderedInsert_before
          intro other member
          rcases List.mem_append.mp member with same | apart
          · have front := List.mem_filter.mp same
            exact here other front.1 (kind.trans front.2.symm)
          · have back := (List.mem_filter.mp apart).2
            exact ahead item other kind (by simpa using back)
      | false =>
          rw [List.filter_cons_of_neg (by simp [kind]), List.filter_cons_of_pos (by simp [kind]),
            orderedInsert_behind fun other member =>
              behind item other kind (List.mem_filter.mp member).2]
          apply congrArg
          apply orderedInsert_before
          intro other member
          have back := List.mem_filter.mp member
          exact here other back.1 (kind.trans (by simpa using back.2.symm))

theorem insertionSort_congr {r' : Item → Item → Prop} [DecidableRel r'] {items : List Item}
    (same : ∀ first ∈ items, ∀ second ∈ items, r first second ↔ r' first second) :
    items.insertionSort r = items.insertionSort r' := by
  have mapped := List.map_insertionSort r r' id items same
  rw [List.map_id, List.map_id] at mapped
  exact mapped

theorem filter_orderedInsert [IsTrans Item r] (keep : Item → Bool) (item : Item)
    {items : List Item} (sorted : items.Pairwise r) :
    (items.orderedInsert r item).filter keep =
      if keep item then (items.filter keep).orderedInsert r item else items.filter keep := by
  induction items with
  | nil => cases kept : keep item <;> simp [kept]
  | cons head rest ih =>
      obtain ⟨below, later⟩ := List.pairwise_cons.mp sorted
      by_cases first : r item head
      · have before : ∀ other ∈ (head :: rest).filter keep, r item other := by
          intro other member
          rcases List.mem_cons.mp (List.mem_of_mem_filter member) with here | after
          · rw [here]
            exact first
          · exact trans_of r first (below other after)
        rw [List.orderedInsert_cons, if_pos first, List.filter_cons, orderedInsert_before before]
      · rw [List.orderedInsert_cons, if_neg first, List.filter_cons, ih later, List.filter_cons]
        cases kept : keep head with
        | false => simp
        | true =>
            simp only [if_true, List.orderedInsert_cons, if_neg first]
            split <;> rfl

theorem filter_insertionSort [Std.Total r] [IsTrans Item r] (keep : Item → Bool)
    (items : List Item) :
    (items.insertionSort r).filter keep = (items.filter keep).insertionSort r := by
  induction items with
  | nil => rfl
  | cons item rest ih =>
      rw [List.insertionSort_cons, filter_orderedInsert keep item (List.pairwise_insertionSort r rest),
        ih, List.filter_cons]
      split <;> rfl

end Stable

section Keyed

variable {Item K : Type*} [LinearOrder K] {r : Item → Item → Prop} {key : Item → K}
  {items others : List Item}

def DescendsBy (r : Item → Item → Prop) (key : Item → K) (items : List Item) : Prop :=
  ∀ first ∈ items, ∀ second ∈ items, r first second ↔ key second ≤ key first

theorem DescendsBy.perm (descends : DescendsBy r key items) (perm : items.Perm others) :
    DescendsBy r key others := by
  intro first inFirst second inSecond
  exact descends first (perm.mem_iff.mpr inFirst) second (perm.mem_iff.mpr inSecond)

variable [DecidableRel r]

theorem DescendsBy.sorted (descends : DescendsBy r key items) :
    (items.insertionSort r).Pairwise fun first second => key second ≤ key first := by
  have keys : (items.insertionSort r).map key = (items.map key).insertionSort (· ≥ ·) :=
    List.map_insertionSort r (· ≥ ·) key items descends
  have descending := List.pairwise_insertionSort (· ≥ ·) (items.map key)
  rw [← keys] at descending
  exact List.pairwise_map.mp descending

theorem DescendsBy.le_head (descends : DescendsBy r key items) {top : Item}
    (first : (items.insertionSort r).head? = some top) :
    ∀ item ∈ items, key item ≤ key top := by
  intro item member
  have sorted := descends.sorted
  have inSorted := (List.perm_insertionSort r items).mem_iff.mpr member
  cases shape : items.insertionSort r with
  | nil =>
      rw [shape] at inSorted
      cases inSorted
  | cons head rest =>
      rw [shape] at first sorted inSorted
      cases first
      rcases List.mem_cons.mp inSorted with here | later
      · rw [here]
      · exact (List.pairwise_cons.mp sorted).1 item later

theorem DescendsBy.eq_of_perm (descends : DescendsBy r key items) (distinct : (items.map key).Nodup)
    (perm : items.Perm others) : items.insertionSort r = others.insertionSort r := by
  have joined : (items.insertionSort r).Perm (others.insertionSort r) :=
    ((List.perm_insertionSort r items).trans perm).trans (List.perm_insertionSort r others).symm
  apply joined.eq_of_pairwise _ descends.sorted (descends.perm perm).sorted
  intro first second inFirst _ above below
  have same : key first = key second := le_antisymm below above
  have inItems := (List.perm_insertionSort r items).mem_iff.mp inFirst
  have inOthers : second ∈ items := by
    rw [← (List.perm_insertionSort r items).mem_iff]
    apply joined.mem_iff.mpr
    assumption
  exact List.inj_on_of_nodup_map distinct inItems inOthers same

end Keyed

end Algotradify.Sorting
