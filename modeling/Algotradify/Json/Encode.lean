/-
JSON of arbitrary objects: tuples become lists, keys become texts, and the keys are
sorted as they are before that. What is read back is the tree that was written.
-/

import Algotradify.Json.Lines
import Algotradify.Py.Object

namespace Algotradify.Json

open Py

/-! ### Keys -/

def keyText : PyKey → String
  | .none => "null"
  | .bool flag => if flag then "true" else "false"
  | .int value => printInt value
  | .float value => String.ofList (writeFloat value)
  | .str text => text

def keyNumber? : PyKey → Option PyFloat
  | .bool flag => some (.finite (if flag then 1 else 0))
  | .int value => some (.finite value)
  | .float value => some value
  | _ => none

def isTextKey : PyKey → Bool
  | .str _ => true
  | _ => false

/-- Sorting compares texts with texts and numbers with numbers, and raises otherwise. -/
def sortable (keys : List PyKey) : Bool :=
  decide (keys.length ≤ 1) || keys.all isTextKey || keys.all fun key => (keyNumber? key).isSome

def keyAtMost (first second : PyKey) : Bool :=
  match first, second with
  | .str left, .str right => decide (left ≤ right)
  | left, right =>
      match keyNumber? left, keyNumber? right with
      | some low, some high => low.le high
      | _, _ => false

abbrev entryAtMost (first second : PyKey × PyValue) : Prop :=
  keyAtMost first.1 second.1 = true

def textEntries (entries : List (PyKey × PyValue)) : PyDict :=
  entries.map fun entry => (keyText entry.1, entry.2)

/-! ### Trees -/

mutual

/-- What `json.dumps(value, sort_keys=True)` writes. -/
def jsonTree : PyObject → Except PyError PyValue
  | .none => .ok .none
  | .bool flag => .ok (.bool flag)
  | .int value => .ok (.int value)
  | .float value => .ok (.float value)
  | .str text => .ok (.str text)
  | .list items => do
      let items ← treeItems items
      pure (.list items)
  | .tuple items => do
      let items ← treeItems items
      pure (.list items)
  | .dict entries => do
      let trees ← treeEntries entries
      if sortable (trees.map Prod.fst) then
        pure (.dict (textEntries (trees.insertionSort entryAtMost)))
      else .error (.typeError "'<' not supported between instances of different types")

def treeItems : List PyObject → Except PyError (List PyValue)
  | [] => .ok []
  | item :: rest => do
      let tree ← jsonTree item
      let trees ← treeItems rest
      pure (tree :: trees)

def treeEntries : List (PyKey × PyObject) → Except PyError (List (PyKey × PyValue))
  | [] => .ok []
  | (key, value) :: rest => do
      let tree ← jsonTree value
      let trees ← treeEntries rest
      pure ((key, tree) :: trees)

end

/-- `_canonical_json`. -/
def canonicalJson (value : PyObject) : Except PyError String := do
  let tree ← jsonTree value
  pure (String.ofList (write compact 0 tree))

theorem canonicalJson_of_tree {value : PyObject} {tree : PyValue}
    (written : jsonTree value = .ok tree) :
    canonicalJson value = .ok (String.ofList (write compact 0 tree)) := by
  unfold canonicalJson
  rw [written]
  rfl

/-! ### Decoded values -/

def keyedEntries (entries : PyDict) : List (PyKey × PyValue) :=
  entries.map fun entry => (.str entry.1, entry.2)

theorem textEntries_keyedEntries (entries : PyDict) :
    textEntries ((keyedEntries entries).insertionSort entryAtMost) =
      entries.insertionSort keyLe := by
  have order : ∀ left ∈ entries, ∀ right ∈ entries,
      keyLe left right ↔ entryAtMost (PyKey.str left.1, left.2) (PyKey.str right.1, right.2) := by
    intro left _ right _
    exact decide_eq_true_iff.symm
  have moved := List.map_insertionSort keyLe entryAtMost
    (fun entry : String × PyValue => (PyKey.str entry.1, entry.2)) entries order
  unfold keyedEntries textEntries
  rw [← moved, List.map_map]
  exact List.map_id _

theorem sortable_keyedEntries (entries : PyDict) :
    sortable ((keyedEntries entries).map Prod.fst) = true := by
  unfold sortable keyedEntries
  have texts : ((entries.map fun entry => (PyKey.str entry.1, entry.2)).map Prod.fst).all
      isTextKey = true := by
    rw [List.map_map, List.all_map, List.all_eq_true]
    exact fun _ _ => rfl
  rw [texts, Bool.or_true, Bool.true_or]

mutual

theorem jsonTree_ofValue : ∀ value : PyValue, jsonTree (.ofValue value) = .ok (sortKeys value)
  | .none | .bool _ | .int _ | .float _ | .str _ => rfl
  | .list items => by
      unfold PyObject.ofValue jsonTree sortKeys
      rw [treeItems_ofItems items, sortItems_eq]
      rfl
  | .dict entries => by
      unfold PyObject.ofValue jsonTree sortKeys
      rw [treeEntries_ofEntries entries]
      change (if sortable _ then _ else _) = _
      rw [if_pos (sortable_keyedEntries _), textEntries_keyedEntries, sortEntries_eq]
      rfl

theorem treeItems_ofItems : ∀ items : List PyValue,
    treeItems (PyObject.ofItems items) = .ok (items.map sortKeys)
  | [] => rfl
  | item :: rest => by
      unfold PyObject.ofItems treeItems
      rw [jsonTree_ofValue item, treeItems_ofItems rest]
      rfl

theorem treeEntries_ofEntries : ∀ entries : PyDict,
    treeEntries (PyObject.ofEntries entries) = .ok (keyedEntries (mapEntries entries))
  | [] => rfl
  | (key, value) :: rest => by
      unfold PyObject.ofEntries treeEntries
      rw [jsonTree_ofValue value, treeEntries_ofEntries rest]
      rfl

end

/-! ### Trees in order -/

mutual

def inOrder : PyValue → Bool
  | .list items => inOrderItems items
  | .dict entries =>
      decide ((entries.map Prod.fst).Pairwise fun left right => left ≤ right ∧ left ≠ right) &&
        inOrderEntries entries
  | _ => true

def inOrderItems : List PyValue → Bool
  | [] => true
  | item :: rest => inOrder item && inOrderItems rest

def inOrderEntries : List (String × PyValue) → Bool
  | [] => true
  | (_, value) :: rest => inOrder value && inOrderEntries rest

end

mutual

theorem sortKeys_inOrder : ∀ value : PyValue, inOrder value = true → sortKeys value = value
  | .none, _ | .bool _, _ | .int _, _ | .float _, _ | .str _, _ => rfl
  | .list items, ordered => by
      unfold inOrder at ordered
      unfold sortKeys
      rw [sortItems_eq, sortItems_inOrder items ordered]
  | .dict entries, ordered => by
      unfold inOrder at ordered
      obtain ⟨keys, values⟩ := Bool.and_eq_true_iff.mp ordered
      have sorted : entries.Pairwise keyLe := by
        have pairs := List.pairwise_map.mp (of_decide_eq_true keys)
        exact pairs.imp And.left
      unfold sortKeys
      rw [sortEntries_eq, mapEntries_inOrder entries values, sorted.insertionSort_eq]

theorem sortItems_inOrder : ∀ items : List PyValue, inOrderItems items = true →
    items.map sortKeys = items
  | [], _ => rfl
  | item :: rest, ordered => by
      unfold inOrderItems at ordered
      obtain ⟨ofItem, ofRest⟩ := Bool.and_eq_true_iff.mp ordered
      rw [List.map_cons, sortKeys_inOrder item ofItem, sortItems_inOrder rest ofRest]

theorem mapEntries_inOrder : ∀ entries : PyDict, inOrderEntries entries = true →
    mapEntries entries = entries
  | [], _ => rfl
  | (key, value) :: rest, ordered => by
      unfold inOrderEntries at ordered
      obtain ⟨ofValue, ofRest⟩ := Bool.and_eq_true_iff.mp ordered
      change (key, sortKeys value) :: mapEntries rest = (key, value) :: rest
      rw [sortKeys_inOrder value ofValue, mapEntries_inOrder rest ofRest]

end

theorem inOrderEntries_iff (entries : PyDict) :
    inOrderEntries entries = true ↔ ∀ entry ∈ entries, inOrder entry.2 = true := by
  induction entries with
  | nil =>
      unfold inOrderEntries
      simp
  | cons entry rest ih =>
      obtain ⟨key, value⟩ := entry
      unfold inOrderEntries
      rw [Bool.and_eq_true, ih, List.forall_mem_cons]

theorem wellFormed_sorted {entries : PyDict} (distinct : Assoc.Distinct entries)
    (values : wellFormedEntries entries = true) :
    wellFormed (.dict (entries.insertionSort keyLe)) = true := by
  have perm := List.perm_insertionSort keyLe entries
  refine wellFormed_dict.mpr ⟨(perm.map Prod.fst).nodup_iff.mpr distinct, ?_⟩
  rw [wellFormedEntries_iff]
  intro entry member
  exact (wellFormedEntries_iff _).mp values entry (perm.mem_iff.mp member)

/-! ### Dictionaries of text keys -/

def ValueTrees (entries : List (PyKey × PyObject)) (trees : PyDict) : Prop :=
  List.Forall₂ (fun entry tree => entry.1 = .str tree.1 ∧ jsonTree entry.2 = .ok tree.2) entries
    trees

theorem treeEntries_of_valueTrees {entries : List (PyKey × PyObject)} {trees : PyDict}
    (values : ValueTrees entries trees) : treeEntries entries = .ok (keyedEntries trees) := by
  induction values with
  | nil => rfl
  | @cons entry tree entries trees head _rest ih =>
      obtain ⟨key, value⟩ := entry
      obtain ⟨keyed, written⟩ := head
      simp only at keyed written
      unfold treeEntries
      rw [ih, written, keyed]
      rfl

theorem jsonTree_of_valueTrees {entries : List (PyKey × PyObject)} {trees : PyDict}
    (values : ValueTrees entries trees) :
    jsonTree (.dict entries) = .ok (.dict (trees.insertionSort keyLe)) := by
  unfold jsonTree
  rw [treeEntries_of_valueTrees values]
  change (if sortable _ then _ else _) = _
  rw [if_pos (sortable_keyedEntries _), textEntries_keyedEntries]
  rfl

/-! ### Records -/

def FieldTrees (record : PyRecord) (trees : PyDict) : Prop :=
  List.Forall₂ (fun field tree => field.1 = tree.1 ∧ jsonTree field.2 = .ok tree.2) record trees

theorem jsonTree_record {record : PyRecord} {trees : PyDict} (fields : FieldTrees record trees) :
    jsonTree record.toObject = .ok (.dict (trees.insertionSort keyLe)) := by
  apply jsonTree_of_valueTrees
  unfold ValueTrees
  rw [List.forall₂_map_left_iff]
  exact fields.imp fun field tree written => ⟨congrArg PyKey.str written.1, written.2⟩

end Algotradify.Json
