/-
The tree that is written of a dictionary whose keys are texts: the trees of its values, in
the order of the keys.

Reading the fields of JSON values: a field of a value of the language is one, and what a test of
it sees does not depend on the order of the keys inside it.
-/

import Algotradify.Json.Encode
import Algotradify.Py.Convert
import Algotradify.Py.Equality

namespace Algotradify.Json

open Py

variable {entries : List (PyKey × PyObject)} {trees : PyDict}

theorem keys_of_treeEntries {trees : List (PyKey × PyValue)}
    (written : treeEntries entries = .ok trees) :
    trees.map Prod.fst = entries.map Prod.fst := by
  induction entries generalizing trees with
  | nil =>
      cases written
      rfl
  | cons entry rest ih =>
      obtain ⟨key, value⟩ := entry
      unfold treeEntries at written
      obtain ⟨tree, -, written⟩ := bind_eq_ok.mp written
      obtain ⟨others, ofRest, same⟩ := bind_eq_ok.mp written
      cases same
      rw [List.map_cons, List.map_cons, ih ofRest]

theorem exists_valueTrees {trees : List (PyKey × PyValue)}
    (written : treeEntries entries = .ok trees)
    (texts : (entries.map Prod.fst).all isTextKey = true) :
    ∃ values, ValueTrees entries values := by
  induction entries generalizing trees with
  | nil => exact ⟨[], .nil⟩
  | cons entry rest ih =>
      obtain ⟨key, value⟩ := entry
      unfold treeEntries at written
      obtain ⟨tree, ofValue, written⟩ := bind_eq_ok.mp written
      obtain ⟨others, ofRest, -⟩ := bind_eq_ok.mp written
      rw [List.map_cons, List.all_cons, Bool.and_eq_true] at texts
      obtain ⟨values, rest⟩ := ih ofRest texts.2
      cases key with
      | str text => exact ⟨(text, tree) :: values, .cons ⟨rfl, ofValue⟩ rest⟩
      | none | bool | int | float => exact absurd texts.1 Bool.false_ne_true

theorem texts_of_sortable {keys : List PyKey} {first second : String}
    (sorts : sortable keys = true) (hasFirst : .str first ∈ keys) (hasSecond : .str second ∈ keys)
    (apart : first ≠ second) : keys.all isTextKey = true := by
  unfold sortable at sorts
  rw [Bool.or_eq_true, Bool.or_eq_true, decide_eq_true_eq] at sorts
  rcases sorts with (few | texts) | numbers
  · cases keys with
    | nil => cases hasFirst
    | cons key rest =>
        have alone : rest = [] := by
          rw [List.length_cons] at few
          exact List.eq_nil_of_length_eq_zero (by omega)
        rw [alone] at hasFirst hasSecond
        have same := (List.mem_singleton.mp hasFirst).trans (List.mem_singleton.mp hasSecond).symm
        exact absurd (PyKey.str.inj same) apart
  · exact texts
  · exact absurd (List.all_eq_true.mp numbers _ hasFirst) Bool.false_ne_true

theorem valueTrees_of_written {tree : PyValue} {first second : String}
    (written : jsonTree (.dict entries) = .ok tree) (hasFirst : .str first ∈ entries.map Prod.fst)
    (hasSecond : .str second ∈ entries.map Prod.fst) (apart : first ≠ second) :
    ∃ trees, ValueTrees entries trees ∧ tree = .dict (trees.insertionSort keyLe) := by
  have whole := written
  unfold jsonTree at written
  obtain ⟨keyed, made, written⟩ := bind_eq_ok.mp written
  split at written
  · rename_i sorts
    rw [keys_of_treeEntries made] at sorts
    obtain ⟨trees, values⟩ :=
      exists_valueTrees made (texts_of_sortable sorts hasFirst hasSecond apart)
    rw [jsonTree_of_valueTrees values] at whole
    exact ⟨trees, values, (Except.ok.inj whole).symm⟩
  · cases written

/-! ### Fields of the tree -/

theorem ValueTrees.keys (values : ValueTrees entries trees) :
    entries.map Prod.fst = (trees.map Prod.fst).map PyKey.str := by
  induction values with
  | nil => rfl
  | @cons entry tree entries trees head _rest ih =>
      rw [List.map_cons, List.map_cons, List.map_cons, head.1, ih]

theorem ValueTrees.distinct (values : ValueTrees entries trees) (distinct : Assoc.Distinct entries) :
    Assoc.Distinct trees := by
  unfold Assoc.Distinct at distinct ⊢
  rw [values.keys] at distinct
  exact distinct.of_map

theorem ValueTrees.value (values : ValueTrees entries trees) {key : String} {tree : PyValue}
    (member : (key, tree) ∈ trees) :
    ∃ value, (.str key, value) ∈ entries ∧ jsonTree value = .ok tree := by
  induction values with
  | nil => cases member
  | @cons entry head entries trees written _rest ih =>
      rcases List.mem_cons.mp member with here | later
      · obtain ⟨own, value⟩ := entry
        rw [← here] at written
        cases written.1
        exact ⟨value, List.mem_cons_self, written.2⟩
      · obtain ⟨value, found, ofValue⟩ := ih later
        exact ⟨value, List.mem_cons_of_mem _ found, ofValue⟩

theorem ValueTrees.lookup {entries : List (PyKey × PyObject)} {trees : PyDict}
    (values : ValueTrees entries trees) {key : String} {value : PyObject} {tree : PyValue}
    (found : entries.lookup (.str key) = some value) (written : jsonTree value = .ok tree) :
    trees.lookup key = some tree := by
  induction values with
  | nil => cases found
  | @cons entry head entries trees ofHead _rest ih =>
      obtain ⟨own, first⟩ := entry
      obtain ⟨headKey, headTree⟩ := head
      obtain ⟨keyed, ofFirst⟩ := ofHead
      simp only at keyed ofFirst
      rw [keyed] at found
      by_cases same : key = headKey
      · rw [same, Assoc.lookup_cons_self] at found
        cases found
        rw [ofFirst] at written
        cases written
        rw [same, Assoc.lookup_cons_self]
      · rw [Assoc.lookup_cons_of_ne fun keys => same (PyKey.str.inj keys)] at found
        rw [Assoc.lookup_cons_of_ne same]
        exact ih found

theorem ValueTrees.filter (values : ValueTrees entries trees) (key : String) :
    ValueTrees (entries.filter fun entry => entry.1 ≠ .str key)
      (trees.filter fun entry => entry.1 ≠ key) := by
  induction values with
  | nil => exact .nil
  | @cons entry tree entries trees head _rest ih =>
      by_cases own : tree.1 = key
      · rw [List.filter_cons_of_neg (by simp [head.1, own]),
          List.filter_cons_of_neg (by simp [own])]
        exact ih
      · rw [List.filter_cons_of_pos (by simp [head.1, own]),
          List.filter_cons_of_pos (by simp [own])]
        exact .cons head ih

/-! ### Reading fields -/

theorem wellFormed_get {raw : PyDict} (formed : wellFormedEntries raw = true)
    (key : String) : wellFormed (PyDict.get raw key) = true := by
  unfold PyDict.get
  cases found : raw.lookup key with
  | none => rfl
  | some value =>
      exact (wellFormedEntries_iff raw).mp formed (key, value) (Assoc.mem_of_lookup found)

theorem equal_sortKeys {value scalar : PyValue} (flat : ∀ items, scalar ≠ .list items)
    (plain : ∀ entries, scalar ≠ .dict entries) :
    PyValue.equal (sortKeys value) scalar = PyValue.equal value scalar := by
  cases value with
  | list items =>
      cases scalar with
      | list others => exact absurd rfl (flat others)
      | _ => simp only [sortKeys, PyValue.equal, PyValue.number?]
  | dict entries =>
      cases scalar with
      | dict others => exact absurd rfl (plain others)
      | _ => simp only [sortKeys, PyValue.equal, PyValue.number?]
  | _ => simp only [sortKeys]

theorem tests_sortKeys (value : PyValue) :
    (sortKeys value).isTrue = value.isTrue ∧ (sortKeys value).isFalse = value.isFalse ∧
      ∀ text, (sortKeys value).isStr text = value.isStr text := by
  cases value <;> simp [sortKeys, PyValue.isTrue, PyValue.isFalse, PyValue.isStr]

end Algotradify.Json
