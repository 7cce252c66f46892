/-
Comprehensions that may raise: what they return is made item by item, and they return when every
item does.
-/

import Algotradify.Py.Convert
import Mathlib.Data.List.Forall2

namespace Algotradify.Py

variable {ε α β : Type}

theorem mapM_exists {convert : α → Except ε β} {items : List α}
    (each : ∀ item ∈ items, ∃ value, convert item = .ok value) :
    ∃ values, items.mapM convert = .ok values := by
  induction items with
  | nil => exact ⟨[], rfl⟩
  | cons item rest ih =>
      obtain ⟨value, first⟩ := each item List.mem_cons_self
      obtain ⟨values, later⟩ := ih fun other member => each other (List.mem_cons_of_mem item member)
      refine ⟨value :: values, ?_⟩
      rw [List.mapM_cons, first, later]
      rfl

theorem exists_of_mapM_mem {convert : α → Except ε β} {items : List α} {results : List β}
    (ran : items.mapM convert = .ok results) :
    ∀ item ∈ items, ∃ result ∈ results, convert item = .ok result := by
  induction items generalizing results with
  | nil => exact fun _ member => absurd member List.not_mem_nil
  | cons head rest ih =>
      rw [List.mapM_cons] at ran
      obtain ⟨first, ofHead, ran⟩ := bind_eq_ok.mp ran
      obtain ⟨others, ofRest, joined⟩ := bind_eq_ok.mp ran
      cases joined
      intro item member
      rcases List.mem_cons.mp member with rfl | member
      · exact ⟨first, List.mem_cons_self, ofHead⟩
      · obtain ⟨result, among, made⟩ := ih ofRest item member
        exact ⟨result, List.mem_cons_of_mem first among, made⟩

theorem forall₂_of_mapM {convert : α → Except ε β} {items : List α} {results : List β}
    (ran : items.mapM convert = .ok results) :
    List.Forall₂ (fun item result => convert item = .ok result) items results := by
  induction items generalizing results with
  | nil =>
      cases ran
      exact .nil
  | cons head rest ih =>
      rw [List.mapM_cons] at ran
      obtain ⟨first, ofHead, ran⟩ := bind_eq_ok.mp ran
      obtain ⟨others, ofRest, joined⟩ := bind_eq_ok.mp ran
      cases joined
      exact .cons ofHead (ih ofRest)

theorem length_of_mapM {convert : α → Except ε β} {items : List α} {results : List β}
    (ran : items.mapM convert = .ok results) : results.length = items.length :=
  (forall₂_of_mapM ran).length_eq.symm

theorem getElem?_of_mapM {convert : α → Except ε β} {items : List α} {results : List β}
    (ran : items.mapM convert = .ok results) {place : ℕ} {result : β}
    (found : results[place]? = some result) :
    ∃ item, items[place]? = some item ∧ convert item = .ok result := by
  induction items generalizing results place with
  | nil =>
      cases ran
      cases found
  | cons head rest ih =>
      rw [List.mapM_cons] at ran
      obtain ⟨first, ofHead, ran⟩ := bind_eq_ok.mp ran
      obtain ⟨others, ofRest, joined⟩ := bind_eq_ok.mp ran
      cases joined
      cases place with
      | zero =>
          cases found
          exact ⟨head, rfl, ofHead⟩
      | succ place => exact ih ofRest found

theorem each_of_mapM_flatten {items : List α} {find : α → Except ε (List β)}
    {found : List (List β)} (ran : items.mapM find = .ok found) (clear : found.flatten = []) :
    ∀ item ∈ items, find item = .ok [] := by
  intro item member
  obtain ⟨result, among, made⟩ := exists_of_mapM_mem ran item member
  rw [made, List.flatten_eq_nil_iff.mp clear result among]

theorem anyM_eq_ok_any {test : α → Except ε Bool} {items : List α} {value : α → Bool}
    (tests : ∀ item ∈ items, test item = .ok (value item)) :
    items.anyM test = .ok (items.any value) := by
  induction items with
  | nil => rfl
  | cons head rest ih =>
      have later := ih fun item member => tests item (List.mem_cons_of_mem head member)
      rw [List.anyM_cons, tests head List.mem_cons_self, List.any_cons]
      cases value head with
      | false => exact later
      | true => rfl

theorem forM_congr {first second : α → Except ε Unit} {items : List α}
    (same : ∀ item ∈ items, first item = second item) : items.forM first = items.forM second := by
  induction items with
  | nil => rfl
  | cons head rest ih =>
      have later := ih fun item member => same item (List.mem_cons_of_mem head member)
      change (first head >>= fun _ => rest.forM first) = second head >>= fun _ => rest.forM second
      rw [same head List.mem_cons_self, later]

private theorem filterAuxM_eq_ok {test : α → Except ε Bool} {items : List α} {value : α → Bool}
    (tests : ∀ item ∈ items, test item = .ok (value item)) (kept : List α) :
    items.filterAuxM test kept = .ok ((items.filter value).reverse ++ kept) := by
  induction items generalizing kept with
  | nil => rfl
  | cons head rest ih =>
      have later := ih fun item member => tests item (List.mem_cons_of_mem head member)
      rw [List.filterAuxM, tests head List.mem_cons_self]
      change rest.filterAuxM test _ = _
      rw [later]
      cases kept : value head with
      | false => rw [List.filter_cons_of_neg (by simp [kept]), cond_false]
      | true => rw [List.filter_cons_of_pos kept, cond_true, List.reverse_cons, List.append_assoc,
          List.singleton_append]

theorem filterM_eq_ok_filter {test : α → Except ε Bool} {items : List α} {value : α → Bool}
    (tests : ∀ item ∈ items, test item = .ok (value item)) :
    items.filterM test = .ok (items.filter value) := by
  rw [List.filterM, filterAuxM_eq_ok tests]
  change Except.ok _ = _
  rw [List.append_nil, List.reverse_reverse]

end Algotradify.Py
