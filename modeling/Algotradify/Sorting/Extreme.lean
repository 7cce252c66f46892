/-
Extreme values of a list by a strict order: a member that no member beats, kept up item by
item.

Tuples that are compared part by part, the first difference deciding.

The order of the parts need not be total: a part that is not even the same as itself is
neither before nor after any other, and decides for neither side.
-/

import Mathlib.Data.List.Basic
import Mathlib.Data.List.Forall2
import Mathlib.Data.List.Induction
import Mathlib.Data.List.Sort

namespace Algotradify.Sorting

section Extreme

variable {α : Type*} {beats : α → α → Bool}

/-- The value is one of the items, and none of them beats it. -/
structure IsExtreme (beats : α → α → Bool) (items : List α) (value : α) : Prop where
  member : value ∈ items
  unbeaten : ∀ item ∈ items, beats item value = false

/-- The kept value, unless the next one beats it. -/
def pick (beats : α → α → Bool) (kept next : α) : α :=
  if beats next kept then next else kept

structure StrictBeats (beats : α → α → Bool) : Prop where
  irrefl : ∀ item, beats item item = false
  trans : ∀ {first second third}, beats first second = true → beats second third = true →
    beats first third = true

theorem pick_of_unbeaten {kept next : α} (unbeaten : beats next kept = false) :
    pick beats kept next = kept := by
  unfold pick
  rw [unbeaten]
  rfl

theorem IsExtreme.pick (laws : StrictBeats beats) {items : List α} {kept : α}
    (extreme : IsExtreme beats items kept) (next : α) :
    IsExtreme beats (items ++ [next]) (pick beats kept next) := by
  unfold Sorting.pick
  by_cases better : beats next kept = true
  · rw [if_pos better]
    constructor
    · exact List.mem_append_right _ (List.mem_singleton_self next)
    · intro item member
      rcases List.mem_append.mp member with old | new
      · apply Bool.eq_false_iff.mpr
        intro beaten
        have worse := extreme.unbeaten item old
        rw [laws.trans beaten better] at worse
        cases worse
      · rw [List.mem_singleton.mp new]
        exact laws.irrefl next
  · rw [if_neg better]
    constructor
    · exact List.mem_append_left _ extreme.member
    · intro item member
      rcases List.mem_append.mp member with old | new
      · exact extreme.unbeaten item old
      · rw [List.mem_singleton.mp new]
        exact Bool.eq_false_iff.mpr better

theorem isExtreme_append_iff {items : List α} {kept next : α}
    (extreme : IsExtreme beats items kept) :
    IsExtreme beats (items ++ [next]) kept ↔ beats next kept = false := by
  constructor
  · intro after
    exact after.unbeaten next (List.mem_append_right _ (List.mem_singleton_self next))
  · intro unbeaten
    constructor
    · exact List.mem_append_left _ extreme.member
    · intro item member
      rcases List.mem_append.mp member with old | new
      · exact extreme.unbeaten item old
      · rw [List.mem_singleton.mp new]
        exact unbeaten

def choose (beats : α → α → Bool) : List α → Option α
  | [] => none
  | first :: rest => some (rest.foldl (pick beats) first)

theorem choose_eq_none_iff {items : List α} : choose beats items = none ↔ items = [] := by
  cases items with
  | nil => exact iff_of_true rfl rfl
  | cons first rest => exact iff_of_false (Option.some_ne_none _) (List.cons_ne_nil _ _)

theorem choose_snoc (beats : α → α → Bool) (items : List α) (next : α) :
    choose beats (items ++ [next]) =
      some (((choose beats items).map fun kept => pick beats kept next).getD next) := by
  cases items with
  | nil => rfl
  | cons first rest =>
      rw [List.cons_append, choose, choose, List.foldl_append]
      rfl

theorem choose_isExtreme (laws : StrictBeats beats) {items : List α} {value : α}
    (chosen : choose beats items = some value) : IsExtreme beats items value := by
  induction items using List.reverseRecOn generalizing value with
  | nil => cases chosen
  | append_singleton items next ih =>
      rw [choose_snoc] at chosen
      cases before : choose beats items with
      | none =>
          rw [before] at chosen
          rw [← Option.some.inj chosen, choose_eq_none_iff.mp before]
          constructor
          · exact List.mem_singleton_self next
          · intro item member
            rw [List.mem_singleton.mp member]
            exact laws.irrefl next
      | some kept =>
          rw [before] at chosen
          rw [← Option.some.inj chosen]
          exact (ih before).pick laws next

theorem choose_of_unbeaten {items : List α} {value : α}
    (unbeaten : ∀ item ∈ items, beats item value = false) :
    choose beats (value :: items) = some value := by
  rw [choose]
  induction items with
  | nil => rfl
  | cons next rest ih =>
      rw [List.foldl_cons, pick_of_unbeaten (unbeaten next List.mem_cons_self)]
      exact ih fun item member => unbeaten item (List.mem_cons_of_mem next member)

theorem pick_self (laws : StrictBeats beats) (item : α) : pick beats item item = item :=
  pick_of_unbeaten (laws.irrefl item)

end Extreme

section Tuples

variable {Part : Type*}

/-- `left < right` of two tuples. -/
def tupleLess (same less : Part → Part → Bool) : List Part → List Part → Bool
  | [], [] => false
  | [], _ :: _ => true
  | _ :: _, [] => false
  | left :: lefts, right :: rights =>
      if same left right then tupleLess same less lefts rights else less left right

structure PartLaws (same less : Part → Part → Bool) : Prop where
  eq_of_same : ∀ {left right}, same left right = true → left = right
  apart : ∀ {left right}, less left right = true → same left right = false
  trans : ∀ {first second third}, less first second = true → less second third = true →
    less first third = true
  irrefl : ∀ part, less part part = false

section Tuples

variable {same less : Part → Part → Bool} (laws : PartLaws same less)

include laws

theorem tupleLess_irrefl (tuple : List Part) : tupleLess same less tuple tuple = false := by
  induction tuple with
  | nil => rfl
  | cons part rest ih =>
      rw [tupleLess]
      split
      · exact ih
      · exact laws.irrefl part

theorem tupleLess_trans {first second third : List Part}
    (left : tupleLess same less first second = true)
    (right : tupleLess same less second third = true) :
    tupleLess same less first third = true := by
  induction first generalizing second third with
  | nil =>
      cases third with
      | nil => cases second <;> cases right
      | cons part rest => rfl
  | cons one ones ih =>
      cases second with
      | nil => cases left
      | cons two twos =>
          cases third with
          | nil => cases right
          | cons three threes =>
              rw [tupleLess] at left right ⊢
              by_cases equal : same one two = true
              · have isTwo := laws.eq_of_same equal
                subst isTwo
                rw [if_pos equal] at left
                by_cases again : same one three = true
                · rw [if_pos again] at right ⊢
                  exact ih left right
                · rw [if_neg again] at right ⊢
                  exact right
              · rw [if_neg equal] at left
                by_cases again : same two three = true
                · have isThree := laws.eq_of_same again
                  subst isThree
                  rw [if_neg equal]
                  exact left
                · rw [if_neg again] at right
                  have both := laws.trans left right
                  rw [if_neg (Bool.eq_false_iff.mp (laws.apart both))]
                  exact both

theorem tupleLess_asymm {first second : List Part}
    (before : tupleLess same less first second = true) :
    tupleLess same less second first = false := by
  apply Bool.eq_false_iff.mpr
  intro after
  have around := tupleLess_trans laws before after
  rw [tupleLess_irrefl laws] at around
  cases around

theorem strictBeats_tupleLess {Item : Type*} (key : Item → List Part) :
    StrictBeats fun left right : Item => tupleLess same less (key left) (key right) where
  irrefl := fun item => tupleLess_irrefl laws (key item)
  trans := fun left right => tupleLess_trans laws left right

theorem tupleLess_total {first second : List Part}
    (comparable : List.Forall₂ (fun left right =>
      same left right = true ∨ less left right = true ∨ less right left = true) first second) :
    first = second ∨ tupleLess same less first second = true ∨
      tupleLess same less second first = true := by
  induction comparable with
  | nil => exact .inl rfl
  | @cons left right lefts rights head tail ih =>
      rw [tupleLess, tupleLess]
      rcases head with equal | before | after
      · have isRight := laws.eq_of_same equal
        subst isRight
        rw [if_pos equal, if_pos equal]
        rcases ih with rest | rest
        · exact .inl (by rw [rest])
        · exact .inr rest
      · rw [if_neg (Bool.eq_false_iff.mp (laws.apart before))]
        exact .inr (.inl before)
      · rw [if_neg (Bool.eq_false_iff.mp (laws.apart after))]
        exact .inr (.inr after)

theorem tupleLess_of_atMost {lefts rights : List Part}
    (atMost : List.Forall₂ (fun left right => same left right = true ∨ less left right = true)
      lefts rights) (apart : lefts ≠ rights) (ends others : List Part) :
    tupleLess same less (lefts ++ ends) (rights ++ others) = true := by
  induction atMost with
  | nil => exact absurd rfl apart
  | @cons left right lefts rights head tail ih =>
      rw [List.cons_append, List.cons_append, tupleLess]
      by_cases equal : same left right = true
      · rw [if_pos equal]
        have isRight := laws.eq_of_same equal
        subst isRight
        exact ih fun sameRest => apart (by rw [sameRest])
      · rw [if_neg equal]
        exact head.resolve_left equal

omit laws in
theorem tupleLess_append {parts : List Part} (known : ∀ part ∈ parts, same part part = true)
    (ends others : List Part) :
    tupleLess same less (parts ++ ends) (parts ++ others) = tupleLess same less ends others := by
  induction parts with
  | nil => rfl
  | cons part rest ih =>
      rw [List.cons_append, List.cons_append, tupleLess, if_pos (known part List.mem_cons_self)]
      exact ih fun other member => known other (List.mem_cons_of_mem part member)

/-! ### Sorting by a tuple -/

section Sorted

variable {Item : Type*} {key : Item → List Part} {items others : List Item}

abbrev NotAfter (same less : Part → Part → Bool) (key : Item → List Part) (left right : Item) :
    Prop :=
  tupleLess same less (key right) (key left) = false

def Comparable (same less : Part → Part → Bool) (key : Item → List Part) : Prop :=
  ∀ left right, List.Forall₂ (fun left right =>
    same left right = true ∨ less left right = true ∨ less right left = true) (key left) (key right)

variable (comparable : Comparable same less key)

include comparable

theorem notAfter_total (left right : Item) :
    NotAfter same less key left right ∨ NotAfter same less key right left := by
  rcases tupleLess_total laws (comparable left right) with equal | before | after
  · left
    unfold NotAfter
    rw [equal]
    exact tupleLess_irrefl laws _
  · left
    exact tupleLess_asymm laws before
  · right
    exact tupleLess_asymm laws after

theorem notAfter_trans {first second third : Item} (front : NotAfter same less key first second)
    (back : NotAfter same less key second third) : NotAfter same less key first third := by
  unfold NotAfter at *
  rw [Bool.eq_false_iff] at front ⊢
  intro before
  rcases tupleLess_total laws (comparable second third) with equal | less_ | more
  · rw [equal] at front
    exact front before
  · exact front (tupleLess_trans laws less_ before)
  · rw [more] at back
    cases back

theorem pairwise_notAfter (items : List Item) :
    (items.insertionSort (NotAfter same less key)).Pairwise (NotAfter same less key) := by
  have total : Std.Total (NotAfter same less key) := ⟨notAfter_total laws comparable⟩
  have trans : IsTrans Item (NotAfter same less key) :=
    ⟨fun _ _ _ => notAfter_trans laws comparable⟩
  exact List.pairwise_insertionSort _ items

theorem sort_eq_of_perm
    (distinct : ∀ left ∈ items, ∀ right ∈ items, key left = key right → left = right)
    (perm : items.Perm others) :
    items.insertionSort (NotAfter same less key) =
      others.insertionSort (NotAfter same less key) := by
  have own := List.perm_insertionSort (NotAfter same less key) items
  have other := List.perm_insertionSort (NotAfter same less key) others
  apply List.Perm.eq_of_pairwise _ (pairwise_notAfter laws comparable items)
    (pairwise_notAfter laws comparable others) ((own.trans perm).trans other.symm)
  intro left right inOwn inOther above below
  have leftIn := own.mem_iff.mp inOwn
  have rightIn := perm.mem_iff.mpr (other.mem_iff.mp inOther)
  apply distinct left leftIn right rightIn
  rcases tupleLess_total laws (comparable left right) with equal | before | after
  · exact equal
  · unfold NotAfter at below
    rw [before] at below
    cases below
  · unfold NotAfter at above
    rw [after] at above
    cases above

end Sorted

end Tuples

end Tuples

end Algotradify.Sorting
