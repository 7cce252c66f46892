/-
Objects of the scripting language that a caller can pass where JSON is written: besides
the dynamic values, tuples and dictionaries whose keys are no strings.

A NaN key is left out: two of them are different keys with one printed form.
-/

import Algotradify.Py.Text

namespace Algotradify.Py

inductive PyKey where
  | none
  | bool (flag : Bool)
  | int (value : Int)
  | float (value : PyFloat)
  | str (text : String)
deriving DecidableEq, Repr

inductive PyObject where
  | none
  | bool (flag : Bool)
  | int (value : Int)
  | float (value : PyFloat)
  | str (text : String)
  | list (items : List PyObject)
  | tuple (items : List PyObject)
  | dict (entries : List (PyKey × PyObject))
deriving Repr

namespace PyKey

def toValue : PyKey → PyValue
  | .none => .none
  | .bool flag => .bool flag
  | .int value => .int value
  | .float value => .float value
  | .str text => .str text

/-- `str(key)`. -/
def print (key : PyKey) : String :=
  printValue key.toValue

@[simp] theorem print_str (text : String) : (PyKey.str text).print = text := rfl

end PyKey

namespace PyObject

/-! ### Printing -/

mutual

/-- `repr(value)`. -/
def printRepr : PyObject → String
  | .none => "None"
  | .bool flag => Py.printRepr (.bool flag)
  | .int value => printInt value
  | .float value => printFloat value
  | .str text => printQuoted text
  | .list items => "[" ++ printItems items ++ "]"
  | .tuple [] => "()"
  | .tuple [item] => "(" ++ printRepr item ++ ",)"
  | .tuple (item :: second :: rest) =>
      "(" ++ printRepr item ++ ", " ++ printItems (second :: rest) ++ ")"
  | .dict entries => "\x7b" ++ printEntries entries ++ "\x7d"

def printItems : List PyObject → String
  | [] => ""
  | [item] => printRepr item
  | item :: rest => printRepr item ++ ", " ++ printItems rest

def printEntries : List (PyKey × PyObject) → String
  | [] => ""
  | [(key, value)] => Py.printRepr key.toValue ++ ": " ++ printRepr value
  | (key, value) :: rest =>
      Py.printRepr key.toValue ++ ": " ++ printRepr value ++ ", " ++ printEntries rest

end

/-- `str(value)`. -/
def print : PyObject → String
  | .str text => text
  | other => printRepr other

/-! ### Tests -/

/-- `value is True`. -/
def isTrue : PyObject → Bool
  | .bool flag => flag
  | _ => false

/-- `value is False`. -/
def isFalse : PyObject → Bool
  | .bool flag => !flag
  | _ => false

def isNone : PyObject → Bool
  | .none => true
  | _ => false

/-- `value == text` for a text. -/
def isStr : PyObject → String → Bool
  | .str own, text => decide (own = text)
  | _, _ => false

/-- `value in (None, "")`. -/
def isNoneOrEmpty : PyObject → Bool
  | .none => true
  | .str text => decide (text = "")
  | _ => false

/-- `bool(value)`. -/
def truthy : PyObject → Bool
  | .none => false
  | .bool flag => flag
  | .int value => decide (value ≠ 0)
  | .float value => value.truthy
  | .str text => decide (text ≠ "")
  | .list items => !items.isEmpty
  | .tuple items => !items.isEmpty
  | .dict entries => !entries.isEmpty

/-! ### Values as objects -/

mutual

def ofValue : PyValue → PyObject
  | .none => .none
  | .bool flag => .bool flag
  | .int value => .int value
  | .float value => .float value
  | .str text => .str text
  | .list items => .list (ofItems items)
  | .dict entries => .dict (ofEntries entries)

def ofItems : List PyValue → List PyObject
  | [] => []
  | item :: rest => ofValue item :: ofItems rest

def ofEntries : List (String × PyValue) → List (PyKey × PyObject)
  | [] => []
  | (key, value) :: rest => (.str key, ofValue value) :: ofEntries rest

end

/-! ### Nested entries -/

/-- An entry that `_walk_dict` yields: its path, its key as a text and its value. -/
structure WalkEntry where
  path : String
  key : String
  value : PyObject

mutual

/-- What is below the value of an entry: the entries of a dictionary, and those of the
dictionaries in a list. A tuple is not entered. -/
def walkValue (path : String) : PyObject → List WalkEntry
  | .dict entries => walkDict path entries
  | .list items => walkItems path 0 items
  | _ => []

/-- `_walk_dict`. -/
def walkDict (path : String) : List (PyKey × PyObject) → List WalkEntry
  | [] => []
  | (key, value) :: rest =>
      { path := path ++ "_" ++ upper key.print, key := key.print, value := value } ::
        (walkValue (path ++ "_" ++ upper key.print) value ++ walkDict path rest)

def walkItems (path : String) (index : Nat) : List PyObject → List WalkEntry
  | [] => []
  | .dict entries :: rest =>
      walkDict (path ++ "_" ++ printInt index) entries ++ walkItems path (index + 1) rest
  | _ :: rest => walkItems path (index + 1) rest

end

/-! ### Conditions on nested entries -/

section EveryEntry

variable (check : String → PyObject → Bool)

mutual

def everyBelow : PyObject → Bool
  | .dict entries => everyEntry entries
  | .list items => everyItem items
  | _ => true

def everyEntry : List (PyKey × PyObject) → Bool
  | [] => true
  | (key, value) :: rest => check key.print value && everyBelow value && everyEntry rest

def everyItem : List PyObject → Bool
  | [] => true
  | .dict entries :: rest => everyEntry entries && everyItem rest
  | _ :: rest => everyItem rest

end

mutual

theorem walkValue_all : ∀ (value : PyObject) (path : String),
    (walkValue path value).all (fun entry => check entry.key entry.value) = everyBelow check value
  | .dict entries, path => by
      unfold walkValue everyBelow
      exact walkDict_all entries path
  | .list items, path => by
      unfold walkValue everyBelow
      exact walkItems_all items path 0
  | .none, _ | .bool _, _ | .int _, _ | .float _, _ | .str _, _ | .tuple _, _ => rfl

theorem walkDict_all : ∀ (entries : List (PyKey × PyObject)) (path : String),
    (walkDict path entries).all (fun entry => check entry.key entry.value) =
      everyEntry check entries
  | [], _ => rfl
  | (key, value) :: rest, path => by
      unfold walkDict everyEntry
      rw [List.all_cons, List.all_append, walkValue_all value, walkDict_all rest, Bool.and_assoc]

theorem walkItems_all : ∀ (items : List PyObject) (path : String) (index : Nat),
    (walkItems path index items).all (fun entry => check entry.key entry.value) =
      everyItem check items
  | [], _, _ => rfl
  | .dict entries :: rest, path, index => by
      unfold walkItems everyItem
      rw [List.all_append, walkDict_all entries, walkItems_all rest]
  | .none :: rest, path, index | .bool _ :: rest, path, index | .int _ :: rest, path, index
  | .float _ :: rest, path, index | .str _ :: rest, path, index | .list _ :: rest, path, index
  | .tuple _ :: rest, path, index => by
      unfold walkItems everyItem
      exact walkItems_all rest path (index + 1)

end

theorem everyEntry_iff (entries : List (PyKey × PyObject)) :
    everyEntry check entries = true ↔
      ∀ entry ∈ entries, check entry.1.print entry.2 = true ∧ everyBelow check entry.2 = true := by
  induction entries with
  | nil =>
      unfold everyEntry
      simp
  | cons entry rest ih =>
      obtain ⟨key, value⟩ := entry
      unfold everyEntry
      rw [Bool.and_eq_true, Bool.and_eq_true, ih, List.forall_mem_cons]

end EveryEntry

end PyObject

abbrev PyRecord := List (String × PyObject)

namespace PyRecord

def get (record : PyRecord) (key : String) : PyObject :=
  (record.lookup key).getD .none

def contains (record : PyRecord) (key : String) : Bool :=
  (record.lookup key).isSome

def toObject (record : PyRecord) : PyObject :=
  .dict (record.map fun entry => (.str entry.1, entry.2))

def ofDict (entries : PyDict) : PyRecord :=
  entries.map fun entry => (entry.1, PyObject.ofValue entry.2)

end PyRecord

end Algotradify.Py
