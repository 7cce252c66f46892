/-
Association lists that keep insertion order, the finite maps behind the
dictionaries of the scripting language.

`set` replaces the first entry of a key in place or appends a new one. Sums
over the entries change by exactly the replaced contribution.
-/

import Mathlib.Algebra.BigOperators.Group.List.Basic
import Mathlib.Data.List.Nodup
import Mathlib.Tactic.Abel

namespace Algotradify.Py.Assoc

variable {Key Value Other : Type*} [DecidableEq Key]

def set : List (Key × Value) → Key → Value → List (Key × Value)
  | [], key, value => [(key, value)]
  | (other, old) :: rest, key, value =>
      if key = other then (other, value) :: rest else (other, old) :: set rest key value

def mapValues (f : Value → Other) (entries : List (Key × Value)) : List (Key × Other) :=
  entries.map fun entry => (entry.1, f entry.2)

theorem lookup_cons_self (key : Key) (value : Value) (rest : List (Key × Value)) :
    ((key, value) :: rest).lookup key = some value := by
  rw [List.lookup_cons, BEq.rfl]

theorem lookup_cons_of_ne {key head : Key} (different : key ≠ head) (value : Value)
    (rest : List (Key × Value)) :
    ((head, value) :: rest).lookup key = rest.lookup key := by
  rw [List.lookup_cons, beq_false_of_ne different]

theorem lookup_set (entries : List (Key × Value)) (key other : Key) (value : Value) :
    (set entries key value).lookup other =
      if other = key then some value else entries.lookup other := by
  induction entries with
  | nil =>
      by_cases same : other = key
      · rw [if_pos same, same, set, lookup_cons_self]
      · rw [if_neg same, set, lookup_cons_of_ne same]
  | cons head rest ih =>
      obtain ⟨headKey, old⟩ := head
      by_cases here : key = headKey
      · subst key
        rw [set, if_pos rfl]
        by_cases same : other = headKey
        · rw [if_pos same, same, lookup_cons_self]
        · rw [if_neg same, lookup_cons_of_ne same, lookup_cons_of_ne same]
      · rw [set, if_neg here]
        by_cases same : other = headKey
        · subst other
          have apart : ¬headKey = key := fun equal => here equal.symm
          rw [lookup_cons_self, lookup_cons_self, if_neg apart]
        · rw [lookup_cons_of_ne same, lookup_cons_of_ne same, ih]

@[simp] theorem lookup_set_self (entries : List (Key × Value)) (key : Key) (value : Value) :
    (set entries key value).lookup key = some value := by
  rw [lookup_set, if_pos rfl]

theorem lookup_set_of_ne (entries : List (Key × Value)) {key other : Key} (value : Value)
    (different : other ≠ key) :
    (set entries key value).lookup other = entries.lookup other := by
  rw [lookup_set, if_neg different]

theorem set_set (entries : List (Key × Value)) (key : Key) (first second : Value) :
    set (set entries key first) key second = set entries key second := by
  induction entries with
  | nil =>
      change set [(key, first)] key second = [(key, second)]
      rw [set, if_pos rfl]
  | cons head rest ih =>
      obtain ⟨headKey, old⟩ := head
      by_cases here : key = headKey
      · rw [set, if_pos here, set, if_pos here, set, if_pos here]
      · rw [set, if_neg here, set, if_neg here, set, if_neg here, ih]

theorem lookup_mapValues (f : Value → Other) (entries : List (Key × Value)) (key : Key) :
    (mapValues f entries).lookup key = (entries.lookup key).map f := by
  induction entries with
  | nil => rfl
  | cons head rest ih =>
      obtain ⟨headKey, value⟩ := head
      change ((headKey, f value) :: mapValues f rest).lookup key = _
      by_cases same : key = headKey
      · rw [same, lookup_cons_self, lookup_cons_self, Option.map_some]
      · rw [lookup_cons_of_ne same, lookup_cons_of_ne same, ih]

theorem mapValues_set (f : Value → Other) (entries : List (Key × Value)) (key : Key)
    (value : Value) :
    mapValues f (set entries key value) = set (mapValues f entries) key (f value) := by
  induction entries with
  | nil => rfl
  | cons head rest ih =>
      obtain ⟨headKey, old⟩ := head
      by_cases here : key = headKey
      · subst key
        simp only [set, mapValues, List.map_cons, if_pos]
      · have tail : mapValues f (set rest key value) = set (mapValues f rest) key (f value) := ih
        simp only [mapValues] at tail
        simp only [set, mapValues, List.map_cons, if_neg here, tail]

def weightAt {M : Type*} [Zero M] (weight : Key → Value → M) (entries : List (Key × Value))
    (key : Key) : M :=
  match entries.lookup key with
  | none => 0
  | some value => weight key value

def weightSum {M : Type*} [AddMonoid M] (weight : Key → Value → M)
    (entries : List (Key × Value)) : M :=
  (entries.map fun entry => weight entry.1 entry.2).sum

theorem weightSum_set {M : Type*} [AddCommGroup M] (weight : Key → Value → M)
    (entries : List (Key × Value)) (key : Key) (value : Value) :
    weightSum weight (set entries key value) =
      weightSum weight entries + (weight key value - weightAt weight entries key) := by
  induction entries with
  | nil =>
      simp only [weightSum, set, List.map_cons, List.map_nil, List.sum_cons, List.sum_nil,
        weightAt, List.lookup_nil, add_zero, zero_add, sub_zero]
  | cons head rest ih =>
      obtain ⟨headKey, old⟩ := head
      by_cases here : key = headKey
      · subst key
        simp only [weightSum, set, if_pos, List.map_cons, List.sum_cons, weightAt,
          lookup_cons_self]
        abel
      · have unchanged : weightAt weight ((headKey, old) :: rest) key = weightAt weight rest key := by
          unfold weightAt
          rw [lookup_cons_of_ne here]
        simp only [weightSum] at ih
        simp only [weightSum, set, if_neg here, List.map_cons, List.sum_cons, unchanged, ih]
        abel

omit [DecidableEq Key] in
theorem weightSum_mapValues {M : Type*} [AddMonoid M] (weight : Key → Other → M) (f : Value → Other)
    (entries : List (Key × Value)) :
    weightSum weight (mapValues f entries) =
      weightSum (fun key value => weight key (f value)) entries := by
  simp only [weightSum, mapValues, List.map_map, Function.comp_def]

theorem mem_of_lookup {entries : List (Key × Value)} {key : Key} {value : Value}
    (found : entries.lookup key = some value) : (key, value) ∈ entries := by
  induction entries with
  | nil => cases found
  | cons head rest ih =>
      obtain ⟨headKey, old⟩ := head
      by_cases same : key = headKey
      · subst key
        rw [lookup_cons_self] at found
        cases found
        exact List.mem_cons_self
      · rw [lookup_cons_of_ne same] at found
        exact List.mem_cons_of_mem _ (ih found)

theorem lookup_eq_none_iff {entries : List (Key × Value)} {key : Key} :
    entries.lookup key = none ↔ key ∉ entries.map Prod.fst := by
  induction entries with
  | nil => exact iff_of_true rfl List.not_mem_nil
  | cons head rest ih =>
      obtain ⟨headKey, old⟩ := head
      rw [List.map_cons, List.mem_cons, not_or]
      by_cases same : key = headKey
      · subst key
        rw [lookup_cons_self]
        exact iff_of_false (fun impossible => by cases impossible) (fun both => both.1 rfl)
      · rw [lookup_cons_of_ne same, ih]
        exact (and_iff_right same).symm

/-! ### Dictionaries as finite maps -/

def Distinct (entries : List (Key × Value)) : Prop :=
  (entries.map Prod.fst).Nodup

theorem mem_keys_set {entries : List (Key × Value)} {key other : Key} {value : Value}
    (member : other ∈ (set entries key value).map Prod.fst) :
    other = key ∨ other ∈ entries.map Prod.fst := by
  induction entries with
  | nil => exact .inl (List.mem_singleton.mp member)
  | cons head rest ih =>
      obtain ⟨headKey, old⟩ := head
      unfold set at member
      split at member
      · exact .inr member
      · rcases List.mem_cons.mp member with here | later
        · exact .inr (here ▸ List.mem_cons_self)
        · exact (ih later).imp_right (List.mem_cons_of_mem _)

theorem Distinct.set {entries : List (Key × Value)} (distinct : Distinct entries) (key : Key)
    (value : Value) : Distinct (set entries key value) := by
  induction entries with
  | nil => exact List.nodup_singleton key
  | cons head rest ih =>
      obtain ⟨headKey, old⟩ := head
      have parts := List.nodup_cons.mp distinct
      unfold Assoc.set
      split
      · exact distinct
      · rename_i apart
        refine List.nodup_cons.mpr ⟨?_, ih parts.2⟩
        intro member
        rcases mem_keys_set member with same | again
        · exact apart same.symm
        · exact parts.1 again

theorem set_of_notMem {entries : List (Key × Value)} {key : Key} {value : Value}
    (absent : key ∉ entries.map Prod.fst) : set entries key value = entries ++ [(key, value)] := by
  induction entries with
  | nil => rfl
  | cons head rest ih =>
      obtain ⟨headKey, old⟩ := head
      have apart : ¬key = headKey := fun same => absent (same ▸ List.mem_cons_self)
      rw [set, if_neg apart, ih (fun later => absent (List.mem_cons_of_mem _ later))]
      rfl

omit [DecidableEq Key] in
theorem Distinct.notMem {first second : List (Key × Value)} {key : Key} {value : Value}
    (distinct : Distinct (first ++ (key, value) :: second)) : key ∉ first.map Prod.fst := by
  intro member
  unfold Distinct at distinct
  rw [List.map_append, List.map_cons, List.nodup_append] at distinct
  exact distinct.2.2 key member key List.mem_cons_self rfl

theorem lookup_eq_some_iff {entries : List (Key × Value)} (distinct : Distinct entries) (key : Key)
    (value : Value) : entries.lookup key = some value ↔ (key, value) ∈ entries := by
  constructor
  · exact mem_of_lookup
  · intro member
    induction entries with
    | nil => cases member
    | cons head rest ih =>
        obtain ⟨headKey, old⟩ := head
        have parts := List.nodup_cons.mp distinct
        rcases List.mem_cons.mp member with here | later
        · cases here
          exact lookup_cons_self key value rest
        · have apart : key ≠ headKey := by
            rintro rfl
            exact parts.1 (List.mem_map.mpr ⟨(key, value), later, rfl⟩)
          rw [lookup_cons_of_ne apart]
          exact ih parts.2 later

theorem lookup_perm {first second : List (Key × Value)} (distinct : Distinct first)
    (same : first.Perm second) (key : Key) : first.lookup key = second.lookup key := by
  have other : Distinct second := (same.map Prod.fst).nodup_iff.mp distinct
  apply Option.ext
  intro value
  rw [lookup_eq_some_iff distinct, lookup_eq_some_iff other, same.mem_iff]

theorem Distinct.perm {first second : List (Key × Value)} (left : Distinct first)
    (right : Distinct second) (same : ∀ key, first.lookup key = second.lookup key) :
    first.Perm second := by
  rw [List.perm_ext_iff_of_nodup (List.Nodup.of_map _ left)
    (List.Nodup.of_map _ right)]
  rintro ⟨key, value⟩
  rw [← lookup_eq_some_iff left, ← lookup_eq_some_iff right, same key]

end Algotradify.Py.Assoc
