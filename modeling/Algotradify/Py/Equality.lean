/-
The `==` of dynamic values, and what is left of it when an absent key counts as one that
is set to `None`.
-/

import Algotradify.Py.Value

namespace Algotradify.Py

namespace PyValue

def number? : PyValue → Option PyFloat
  | .bool flag => some (.finite (if flag then 1 else 0))
  | .int value => some (.finite value)
  | .float value => some value
  | _ => Option.none

mutual

/-- `left == right`. Dictionaries are equal when they have the same keys with equal
values, in any order; NaN is equal to nothing. -/
def equal : PyValue → PyValue → Bool
  | .none, .none => true
  | .str left, .str right => decide (left = right)
  | .list left, .list right => equalItems left right
  | .dict left, .dict right =>
      equalEntries left right && right.all fun entry => PyDict.contains left entry.1
  | left, right =>
      match number? left, number? right with
      | some first, some second => first.eq second
      | _, _ => false

def equalItems : List PyValue → List PyValue → Bool
  | [], [] => true
  | left :: lefts, right :: rights => equal left right && equalItems lefts rights
  | _, _ => false

def equalEntries : List (String × PyValue) → PyDict → Bool
  | [], _ => true
  | (key, value) :: rest, other =>
      (match other.lookup key with
        | some found => equal value found
        | Option.none => false) && equalEntries rest other

end

mutual

/-- Equality up to keys that one side sets to `None` and the other does not have, in
dictionaries that are nested in dictionaries. -/
def equalUpToNone : PyValue → PyValue → Bool
  | .dict left, .dict right =>
      entriesUpToNone left right &&
        right.all fun entry => PyDict.contains left entry.1 || entry.2.isNone
  | left, right => equal left right

def entriesUpToNone : List (String × PyValue) → PyDict → Bool
  | [], _ => true
  | (key, value) :: rest, other =>
      equalUpToNone value (other.get key) && entriesUpToNone rest other

end

theorem none_equal (value : PyValue) : equal .none value = value.isNone := by
  cases value with
  | none => rfl
  | _ =>
      unfold equal
      rfl

theorem equalUpToNone_eq_equal {left right : PyValue}
    (notDicts : ∀ leftEntries rightEntries, left = .dict leftEntries →
      right = .dict rightEntries → False) : equalUpToNone left right = equal left right := by
  unfold equalUpToNone
  split
  · exact (notDicts _ _ rfl rfl).elim
  · rfl

mutual

theorem equalUpToNone_of_equal : ∀ left right : PyValue,
    equal left right = true → equalUpToNone left right = true
  | .dict left, .dict right, same => by
      unfold equal at same
      unfold equalUpToNone
      rw [Bool.and_eq_true] at same ⊢
      refine ⟨entriesUpToNone_of_equal left right same.1, ?_⟩
      rw [List.all_eq_true] at same ⊢
      intro entry member
      rw [same.2 entry member, Bool.true_or]
  | .dict _, .none, same | .dict _, .bool _, same | .dict _, .int _, same
  | .dict _, .float _, same | .dict _, .str _, same | .dict _, .list _, same => by
      unfold equal at same
      exact absurd same Bool.false_ne_true
  | .none, _, same | .bool _, _, same | .int _, _, same | .float _, _, same
  | .str _, _, same | .list _, _, same => by
      unfold equalUpToNone
      exact same

theorem entriesUpToNone_of_equal : ∀ (entries : List (String × PyValue)) (other : PyDict),
    equalEntries entries other = true → entriesUpToNone entries other = true
  | [], _, _ => rfl
  | (key, value) :: rest, other, same => by
      unfold equalEntries at same
      unfold entriesUpToNone
      rw [Bool.and_eq_true] at same ⊢
      refine ⟨?_, entriesUpToNone_of_equal rest other same.2⟩
      unfold PyDict.get
      cases found : other.lookup key with
      | none =>
          rw [found] at same
          exact absurd same.1 Bool.false_ne_true
      | some stored =>
          rw [found] at same
          exact equalUpToNone_of_equal value stored same.1

end

end PyValue

end Algotradify.Py
