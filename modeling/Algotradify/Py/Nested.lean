/-
Parts of an object, through dictionaries and lists in any mixture, and the parts that a
walk over its entries does not reach.

A tuple has no parts here.
-/

import Algotradify.Py.Object

namespace Algotradify.Py.PyObject

inductive Within (part : PyObject) : PyObject → Prop
  | whole : Within part part
  | entry {value : PyObject} {key : PyKey} {entries : List (PyKey × PyObject)}
      (member : (key, value) ∈ entries) (inner : Within part value) :
      Within part (.dict entries)
  | item {value : PyObject} {items : List PyObject}
      (member : value ∈ items) (inner : Within part value) : Within part (.list items)

def Throughout (check : String → PyObject → Bool) (value : PyObject) : Prop :=
  ∀ entries, Within (.dict entries) value →
    ∀ entry ∈ entries, check entry.1.print entry.2 = true

def ThroughoutNestedLists (check : String → PyObject → Bool) (value : PyObject) : Prop :=
  ∀ items nested, Within (.list items) value → .list nested ∈ items →
    Throughout check (.list nested)

def ThroughoutLists (check : String → PyObject → Bool) (value : PyObject) : Prop :=
  ∀ items, Within (.list items) value → Throughout check (.list items)

theorem Within.trans {part middle value : PyObject} (first : Within part middle)
    (second : Within middle value) : Within part value := by
  induction second with
  | whole => exact first
  | entry member _ ih => exact .entry member ih
  | item member _ ih => exact .item member ih

variable {check : String → PyObject → Bool} {value part : PyObject}

theorem Throughout.within (safe : Throughout check value) (nested : Within part value) :
    Throughout check part := by
  intro entries held
  exact safe entries (held.trans nested)

theorem ThroughoutNestedLists.within (safe : ThroughoutNestedLists check value)
    (nested : Within part value) : ThroughoutNestedLists check part := by
  intro items inner held
  exact safe items inner (held.trans nested)

theorem ThroughoutLists.within (safe : ThroughoutLists check value)
    (nested : Within part value) : ThroughoutLists check part := by
  intro items held
  exact safe items (held.trans nested)

/-! ### Dictionaries in dictionaries and in lists -/

theorem everyItem_member {items : List PyObject} (every : everyItem check items = true)
    (member : value ∈ items) (single : ∀ nested, value ≠ .list nested) :
    everyBelow check value = true := by
  induction items with
  | nil => simp at member
  | cons head rest ih =>
      cases head with
      | dict entries =>
          simp only [everyItem, Bool.and_eq_true] at every
          rcases List.mem_cons.mp member with rfl | member
          · simp only [everyBelow, every.1]
          · exact ih every.2 member
      | list nested =>
          simp only [everyItem] at every
          rcases List.mem_cons.mp member with rfl | member
          · exact absurd rfl (single nested)
          · exact ih every member
      | none | bool | int | float | str | tuple =>
          simp only [everyItem] at every
          rcases List.mem_cons.mp member with rfl | member
          · simp only [everyBelow]
          · exact ih every member

theorem throughout_iff_nestedLists (every : everyBelow check value = true) :
    Throughout check value ↔ ThroughoutNestedLists check value := by
  constructor
  · intro safe items nested held member
    exact safe.within (Within.trans (.item member .whole) held)
  · intro safe entries held
    induction held with
    | whole =>
        simp only [everyBelow, everyEntry_iff] at every
        intro entry member
        exact (every entry member).1
    | @entry inner key others member nested ih =>
        simp only [everyBelow, everyEntry_iff] at every
        exact ih (every _ member).2 (safe.within (.entry member .whole))
    | @item inner items member nested ih =>
        simp only [everyBelow] at every
        by_cases single : ∀ nested, inner ≠ .list nested
        · exact ih (everyItem_member every member single)
            (safe.within (.item member .whole))
        · simp only [ne_eq, not_forall, not_not] at single
          obtain ⟨deeper, rfl⟩ := single
          exact safe items deeper .whole member entries nested

/-! ### Dictionaries in dictionaries only -/

section EveryDict

variable (check : String → PyObject → Bool)

mutual

def everyDict : PyObject → Bool
  | .dict entries => everyDictEntry entries
  | _ => true

def everyDictEntry : List (PyKey × PyObject) → Bool
  | [] => true
  | (key, value) :: rest => check key.print value && everyDict value && everyDictEntry rest

end

theorem everyDictEntry_iff (entries : List (PyKey × PyObject)) :
    everyDictEntry check entries = true ↔
      ∀ entry ∈ entries, check entry.1.print entry.2 = true ∧ everyDict check entry.2 = true := by
  induction entries with
  | nil => simp [everyDictEntry]
  | cons entry rest ih =>
      cases entry
      simp only [everyDictEntry, Bool.and_eq_true, ih, List.forall_mem_cons]

end EveryDict

theorem throughout_iff_lists (every : everyDict check value = true) :
    Throughout check value ↔ ThroughoutLists check value := by
  constructor
  · intro safe items held
    exact safe.within held
  · intro safe entries held
    induction held with
    | whole =>
        simp only [everyDict, everyDictEntry_iff] at every
        intro entry member
        exact (every entry member).1
    | entry member nested ih =>
        simp only [everyDict, everyDictEntry_iff] at every
        exact ih (every _ member).2 (safe.within (.entry member .whole))
    | item member nested ih =>
        exact safe _ .whole entries (.item member nested)

end Algotradify.Py.PyObject
