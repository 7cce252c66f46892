/-
Tables with a primary key, and the keyed statements that read and write them.

A column of real numbers holds no NaN: binding one writes NULL, and a comparison
with NULL never holds.
-/

import Algotradify.Py.Value

namespace Algotradify.Sql

open Py

/-! ### Columns of real numbers -/

structure SqlReal where
  value : PyFloat
  isNumber : value ≠ .nan
deriving DecidableEq

theorem SqlReal.eq_of_value {first second : SqlReal} (same : first.value = second.value) :
    first = second := by
  cases first
  cases second
  cases same
  rfl

namespace SqlReal

def bind (value : PyFloat) : Option SqlReal :=
  if number : value = .nan then none else some ⟨value, number⟩

/-- `column >= ?`, which is unknown, and so not true, for a NULL on either side. -/
def atLeast (column : Option SqlReal) (bound : PyFloat) : Bool :=
  match column with
  | some stored => bound.le stored.value
  | none => false

theorem bind_eq_some {value : PyFloat} {column : SqlReal} (bound : bind value = some column) :
    column.value = value := by
  unfold bind at bound
  split at bound
  · cases bound
  · cases bound
    rfl

theorem exists_bind {value : PyFloat} (number : value ≠ .nan) :
    ∃ column, bind value = some column ∧ column.value = value := by
  refine ⟨⟨value, number⟩, ?_, rfl⟩
  unfold bind
  rw [dif_neg number]

end SqlReal

/-! ### Keyed statements -/

abbrev Table (Key Row : Type) := List (Key × Row)

namespace Table

variable {Key Row : Type} [DecidableEq Key]

def select (table : Table Key Row) (key : Key) : Option Row :=
  table.lookup key

def put (table : Table Key Row) (key : Key) (row : Row) : Table Key Row :=
  Assoc.set table key row

/-- `INSERT ... ON CONFLICT(key) DO UPDATE SET`: a row that is there is merged. -/
def upsert (table : Table Key Row) (key : Key) (row : Row) (merge : Row → Row) : Table Key Row :=
  match table.select key with
  | some old => table.put key (merge old)
  | none => table.put key row

/-- `UPDATE ... SET ... WHERE key = ? AND ...` and its row count. -/
def update (table : Table Key Row) (key : Key) (condition : Row → Bool) (change : Row → Row) :
    Table Key Row × Nat :=
  match table.select key with
  | some row => if condition row then (table.put key (change row), 1) else (table, 0)
  | none => (table, 0)

/-- `SELECT ... WHERE` on another column: the first stored row that meets the condition. -/
def selectWhere (table : Table Key Row) (condition : Row → Bool) : Option (Key × Row) :=
  table.findSome? fun entry =>
    (table.select entry.1).bind fun row => if condition row then some (entry.1, row) else none

/-- `INSERT OR REPLACE`: the rows that the new one clashes with are deleted first. -/
def replace (table : Table Key Row) (key : Key) (row : Row) (clashes : Row → Bool) :
    Table Key Row :=
  (table.filter fun entry => !decide (entry.1 = key) && !clashes entry.2) ++ [(key, row)]

@[simp] theorem select_nil (key : Key) : select ([] : Table Key Row) key = none := rfl

@[simp] theorem select_put_self (table : Table Key Row) (key : Key) (row : Row) :
    (table.put key row).select key = some row := by
  unfold select put
  rw [Assoc.lookup_set_self]

theorem select_put_of_ne (table : Table Key Row) {key other : Key} (row : Row)
    (different : other ≠ key) : (table.put key row).select other = table.select other := by
  unfold select put
  rw [Assoc.lookup_set_of_ne _ _ different]

theorem select_put (table : Table Key Row) (key other : Key) (row : Row) :
    (table.put key row).select other = if other = key then some row else table.select other := by
  by_cases same : other = key
  · rw [if_pos same, same, select_put_self]
  · rw [if_neg same, select_put_of_ne table row same]

theorem put_put (table : Table Key Row) (key : Key) (first second : Row) :
    (table.put key first).put key second = table.put key second :=
  Assoc.set_set table key first second

theorem upsert_const (table : Table Key Row) (key : Key) (row : Row) :
    table.upsert key row (fun _ => row) = table.put key row := by
  unfold upsert
  cases table.select key <;> rfl

theorem selectWhere_eq_some {table : Table Key Row} {condition : Row → Bool} {key : Key} {row : Row}
    (found : table.selectWhere condition = some (key, row)) :
    table.select key = some row ∧ condition row = true := by
  unfold selectWhere at found
  obtain ⟨entry, _member, here⟩ := List.exists_of_findSome?_eq_some found
  obtain ⟨stored, selected, kept⟩ := Option.bind_eq_some_iff.mp here
  split at kept
  · rename_i holds
    cases kept
    exact ⟨selected, holds⟩
  · cases kept

theorem selectWhere_eq_none {table : Table Key Row} {condition : Row → Bool} {key : Key} {row : Row}
    (absent : table.selectWhere condition = none) (found : table.select key = some row) :
    condition row = false := by
  unfold selectWhere at absent
  rw [List.findSome?_eq_none_iff] at absent
  have none := absent (key, row) (Assoc.mem_of_lookup found)
  simp only [found, Option.bind_some] at none
  by_contra holds
  rw [if_pos (Bool.eq_true_of_not_eq_false holds)] at none
  cases none

theorem select_replace_self (table : Table Key Row) (key : Key) (row : Row)
    (clashes : Row → Bool) : (table.replace key row clashes).select key = some row := by
  unfold select replace
  rw [List.lookup_append]
  have dropped : (table.filter fun entry => !decide (entry.1 = key) && !clashes entry.2).lookup key =
      none := by
    induction table with
    | nil => rfl
    | cons head rest ih =>
        rw [List.filter_cons]
        split
        · rename_i kept
          have other : key ≠ head.1 := by
            rintro rfl
            simp at kept
          rw [Assoc.lookup_cons_of_ne other, ih]
        · exact ih
  rw [dropped, Option.none_or, Assoc.lookup_cons_self]

theorem select_replace_of_ne (table : Table Key Row) {key other : Key} (row : Row)
    (clashes : Row → Bool) (different : other ≠ key)
    (apart : ∀ stored, table.select other = some stored → clashes stored = false) :
    (table.replace key row clashes).select other = table.select other := by
  unfold select replace at *
  rw [List.lookup_append, Assoc.lookup_cons_of_ne different, List.lookup_nil, Option.or_none]
  induction table with
  | nil => rfl
  | cons head rest ih =>
      obtain ⟨headKey, stored⟩ := head
      by_cases here : other = headKey
      · subst here
        have kept := apart stored (Assoc.lookup_cons_self _ _ _)
        rw [List.filter_cons, if_pos (by simp [different, kept]), Assoc.lookup_cons_self,
          Assoc.lookup_cons_self]
      · rw [Assoc.lookup_cons_of_ne here] at apart ⊢
        rw [List.filter_cons]
        split
        · rw [Assoc.lookup_cons_of_ne here]
          exact ih apart
        · exact ih apart

theorem update_eq_put {table : Table Key Row} {key : Key} {row : Row} {condition : Row → Bool}
    (change : Row → Row) (found : table.select key = some row) (holds : condition row = true) :
    table.update key condition change = (table.put key (change row), 1) := by
  unfold update
  rw [found]
  exact if_pos holds

end Table

end Algotradify.Sql
