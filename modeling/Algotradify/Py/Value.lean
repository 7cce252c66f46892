/-
Dynamic values of a scripting language, as the interpreted functions see them.

A value is the closed world of JSON: nothing, booleans, integers, floats,
strings, lists and dictionaries with string keys. A finite float is the
rational number its printed form denotes, so arithmetic on finite floats is
exact; rounding is whatever function a caller applies afterwards. NaN and the
two infinities keep their usual absorbing and unordered behaviour.
-/

import Mathlib.Algebra.Order.Ring.Rat
import Mathlib.Algebra.Order.Field.Basic
import Mathlib.Data.List.Induction
import Algotradify.Py.Assoc

namespace Algotradify.Py

inductive PyFloat where
  | finite (value : ℚ)
  | nan
  | posInf
  | negInf
deriving DecidableEq, Repr

namespace PyFloat

def sign? : PyFloat → Option Int
  | .finite value => some (if value < 0 then -1 else if value = 0 then 0 else 1)
  | .nan => none
  | .posInf => some 1
  | .negInf => some (-1)

def infinityOfSign : Option Int → PyFloat
  | none => .nan
  | some sign => if sign = 0 then .nan else if sign < 0 then .negInf else .posInf

def neg : PyFloat → PyFloat
  | .finite value => .finite (-value)
  | .nan => .nan
  | .posInf => .negInf
  | .negInf => .posInf

def add : PyFloat → PyFloat → PyFloat
  | .finite left, .finite right => .finite (left + right)
  | .nan, _ => .nan
  | _, .nan => .nan
  | .posInf, .negInf => .nan
  | .negInf, .posInf => .nan
  | .posInf, _ => .posInf
  | _, .posInf => .posInf
  | .negInf, _ => .negInf
  | _, .negInf => .negInf

def sub (left right : PyFloat) : PyFloat :=
  left.add right.neg

private def signProduct (left right : PyFloat) : Option Int := do
  let leftSign ← left.sign?
  let rightSign ← right.sign?
  pure (leftSign * rightSign)

def mul : PyFloat → PyFloat → PyFloat
  | .finite left, .finite right => .finite (left * right)
  | left, right => infinityOfSign (signProduct left right)

/-- Division by a nonzero divisor. Division by zero raises in the language, so
callers test the divisor first. -/
def div : PyFloat → PyFloat → PyFloat
  | .finite left, .finite right => .finite (left / right)
  | .nan, _ => .nan
  | _, .nan => .nan
  | .finite _, _ => .finite 0
  | left, .finite right => infinityOfSign (signProduct left (.finite right))
  | _, _ => .nan

def abs : PyFloat → PyFloat
  | .finite value => .finite |value|
  | .nan => .nan
  | _ => .posInf

def lt : PyFloat → PyFloat → Bool
  | .finite left, .finite right => decide (left < right)
  | .nan, _ => false
  | _, .nan => false
  | .negInf, .negInf => false
  | .negInf, _ => true
  | _, .negInf => false
  | .posInf, _ => false
  | _, .posInf => true

def eq : PyFloat → PyFloat → Bool
  | .finite left, .finite right => decide (left = right)
  | .posInf, .posInf => true
  | .negInf, .negInf => true
  | _, _ => false

def le (left right : PyFloat) : Bool :=
  left.lt right || left.eq right

def truthy : PyFloat → Bool
  | .finite value => decide (value ≠ 0)
  | _ => true

def ofInt (value : Int) : PyFloat :=
  .finite value

/-- Round a finite number by the given function; NaN and the infinities stay. -/
def roundWith (rounding : ℚ → ℚ) : PyFloat → PyFloat
  | .finite value => .finite (rounding value)
  | other => other

attribute [local simp] lt eq le

instance : Neg PyFloat := ⟨neg⟩
instance : Add PyFloat := ⟨add⟩
instance : Sub PyFloat := ⟨sub⟩
instance : Mul PyFloat := ⟨mul⟩
instance : Div PyFloat := ⟨div⟩

@[simp] theorem finite_add (left right : ℚ) :
    finite left + finite right = finite (left + right) := rfl

@[simp] theorem neg_finite (value : ℚ) : -finite value = finite (-value) := rfl

@[simp] theorem finite_sub (left right : ℚ) :
    finite left - finite right = finite (left - right) := by
  change finite (left + -right) = finite (left - right)
  rw [sub_eq_add_neg]

@[simp] theorem finite_mul (left right : ℚ) :
    finite left * finite right = finite (left * right) := rfl

@[simp] theorem finite_div (left right : ℚ) :
    finite left / finite right = finite (left / right) := rfl

@[simp] theorem finite_le (left right : ℚ) :
    (finite left).le (finite right) = true ↔ left ≤ right := by
  simp only [le, lt, eq, Bool.or_eq_true, decide_eq_true_eq]
  exact le_iff_lt_or_eq.symm

@[simp] theorem finite_lt (left right : ℚ) :
    (finite left).lt (finite right) = true ↔ left < right := by
  simp only [lt, decide_eq_true_eq]

theorem le_refl {value : PyFloat} (number : value ≠ .nan) : value.le value = true := by
  cases value <;> simp_all

theorem le_of_lt {left right : PyFloat} (less : left.lt right = true) :
    left.le right = true := by
  unfold le
  rw [less, Bool.true_or]

theorem le_trans {first second third : PyFloat} (left : first.le second = true)
    (right : second.le third = true) : first.le third = true := by
  cases first <;> cases second <;> cases third <;> simp_all
  rw [← le_iff_lt_or_eq] at *
  exact left.trans right

theorem lt_of_lt_of_le {first second third : PyFloat} (left : first.lt second = true)
    (right : second.le third = true) : first.lt third = true := by
  cases first <;> cases second <;> cases third <;> simp_all
  rw [← le_iff_lt_or_eq] at right
  exact left.trans_le right

theorem ne_nan_of_lt {left right : PyFloat} (less : left.lt right = true) : right ≠ .nan := by
  rintro rfl
  cases left <;> cases less

theorem not_lt_of_le {left right : PyFloat} (atMost : left.le right = true) :
    right.lt left = false := by
  cases left <;> cases right <;> simp_all
  rw [← le_iff_lt_or_eq] at atMost
  exact atMost

theorem le_of_not_lt {left right : PyFloat} (leftNumber : left ≠ .nan)
    (rightNumber : right ≠ .nan) (notLess : ¬ right.lt left = true) : left.le right = true := by
  cases left <;> cases right <;> simp_all
  exact le_iff_lt_or_eq.mp notLess

@[simp] theorem roundWith_id (value : PyFloat) : value.roundWith id = value := by
  cases value <;> rfl

@[simp] theorem roundWith_finite (rounding : ℚ → ℚ) (value : ℚ) :
    (finite value).roundWith rounding = finite (rounding value) := rfl

end PyFloat

inductive PyValue where
  | none
  | bool (flag : Bool)
  | int (value : Int)
  | float (value : PyFloat)
  | str (text : String)
  | list (items : List PyValue)
  | dict (entries : List (String × PyValue))
deriving Repr

abbrev PyDict := List (String × PyValue)

inductive PyError where
  | typeError (message : String)
  | valueError (message : String)
  | overflowError (message : String)
  | runtimeError (message : String)
deriving DecidableEq, Repr

/-- `str(exc)`. -/
def PyError.text : PyError → String
  | .typeError message => message
  | .valueError message => message
  | .overflowError message => message
  | .runtimeError message => message

namespace PyDict

/-- `d.get(key)`: the stored value, or `None` for an absent key. -/
def get (entries : PyDict) (key : String) : PyValue :=
  (entries.lookup key).getD .none

def contains (entries : PyDict) (key : String) : Bool :=
  (entries.lookup key).isSome

/-- `d[key] = value`: an existing key keeps its place, a new one goes last. -/
def set (entries : PyDict) (key : String) (value : PyValue) : PyDict :=
  Assoc.set entries key value

/-- `d.update(changes)`. -/
def update (entries changes : PyDict) : PyDict :=
  changes.foldl (fun current entry => set current entry.1 entry.2) entries

def keys (entries : PyDict) : List String :=
  entries.map Prod.fst

def values (entries : PyDict) : List PyValue :=
  entries.map Prod.snd

@[simp] theorem get_nil (key : String) : get [] key = .none := rfl

@[simp] theorem get_set_self (entries : PyDict) (key : String) (value : PyValue) :
    get (set entries key value) key = value := by
  simp only [get, set, Assoc.lookup_set_self, Option.getD_some]

theorem get_set_of_ne (entries : PyDict) {key other : String} (value : PyValue)
    (different : other ≠ key) :
    get (set entries key value) other = get entries other := by
  simp only [get, set, Assoc.lookup_set_of_ne _ _ different]

theorem get_update_snoc (entries changes : PyDict) (key : String) (value : PyValue) :
    get (update entries (changes ++ [(key, value)])) key = value := by
  simp only [update, List.foldl_append, List.foldl_cons, List.foldl_nil, get_set_self]

theorem get_update_of_notMem (entries changes : PyDict) {key : String}
    (absent : key ∉ changes.keys) : get (update entries changes) key = get entries key := by
  induction changes using List.reverseRecOn with
  | nil => rfl
  | append_singleton changes change ih =>
      rw [keys, List.map_append, List.mem_append, List.map_singleton, List.mem_singleton] at absent
      obtain ⟨absentBefore, different⟩ := not_or.mp absent
      have step : update entries (changes ++ [change]) =
          set (update entries changes) change.1 change.2 := by
        simp only [update, List.foldl_append, List.foldl_cons, List.foldl_nil]
      rw [step, get_set_of_ne _ _ different, ih absentBefore]

theorem lookup_update (entries : PyDict) {changes : PyDict} (distinct : Assoc.Distinct changes)
    (key : String) :
    (update entries changes).lookup key = (changes.lookup key).or (entries.lookup key) := by
  induction changes generalizing entries with
  | nil => rfl
  | cons change rest ih =>
      obtain ⟨own, value⟩ := change
      obtain ⟨absent, inner⟩ := List.nodup_cons.mp distinct
      change (update (set entries own value) rest).lookup key = _
      rw [ih _ inner]
      by_cases same : key = own
      · subst key
        rw [Assoc.lookup_eq_none_iff.mpr absent, Assoc.lookup_cons_self, set,
          Assoc.lookup_set_self]
        rfl
      · rw [Assoc.lookup_cons_of_ne same, set, Assoc.lookup_set_of_ne _ _ same]

theorem Distinct.update {entries : PyDict} (distinct : Assoc.Distinct entries)
    (changes : PyDict) : Assoc.Distinct (update entries changes) := by
  induction changes generalizing entries with
  | nil => exact distinct
  | cons change rest ih => exact ih (distinct.set change.1 change.2)

@[simp] theorem contains_set_self (entries : PyDict) (key : String) (value : PyValue) :
    contains (set entries key value) key = true := by
  simp only [contains, set, Assoc.lookup_set_self, Option.isSome_some]

end PyDict

namespace PyValue

/-- `isinstance(value, dict)`. -/
def isDict : PyValue → Bool
  | .dict _ => true
  | _ => false

/-- `value if isinstance(value, dict) else {}`. -/
def asDict : PyValue → PyDict
  | .dict entries => entries
  | _ => []

def isList : PyValue → Bool
  | .list _ => true
  | _ => false

/-- `value is True`. -/
def isTrue : PyValue → Bool
  | .bool flag => flag
  | _ => false

/-- `value is False`. -/
def isFalse : PyValue → Bool
  | .bool flag => !flag
  | _ => false

def isNone : PyValue → Bool
  | .none => true
  | _ => false

/-- `value == text` for a string constant. -/
def isStr : PyValue → String → Bool
  | .str own, text => decide (own = text)
  | _, _ => false

/-- `value in (None, "")`. -/
def isNoneOrEmpty : PyValue → Bool
  | .none => true
  | .str text => decide (text = "")
  | _ => false

/-- `bool(value)`. -/
def truthy : PyValue → Bool
  | .none => false
  | .bool flag => flag
  | .int value => decide (value ≠ 0)
  | .float value => value.truthy
  | .str text => decide (text ≠ "")
  | .list items => !items.isEmpty
  | .dict entries => !entries.isEmpty

/-- `left or right`. -/
def or (left right : PyValue) : PyValue :=
  if left.truthy then left else right

@[simp] theorem isDict_dict (entries : PyDict) : (PyValue.dict entries).isDict = true := rfl

@[simp] theorem asDict_dict (entries : PyDict) : (PyValue.dict entries).asDict = entries := rfl

@[simp] theorem isStr_eq_true (value : PyValue) (text : String) :
    value.isStr text = true ↔ value = .str text := by
  cases value <;> simp only [isStr, Bool.false_eq_true, decide_eq_true_eq, reduceCtorEq,
    PyValue.str.injEq]

@[simp] theorem isTrue_eq_true (value : PyValue) : value.isTrue = true ↔ value = .bool true := by
  cases value <;> simp only [isTrue, Bool.false_eq_true, reduceCtorEq, PyValue.bool.injEq]

@[simp] theorem isFalse_eq_true (value : PyValue) :
    value.isFalse = true ↔ value = .bool false := by
  cases value <;> simp only [isFalse, Bool.false_eq_true, reduceCtorEq, PyValue.bool.injEq,
    Bool.not_eq_true']

@[simp] theorem isNoneOrEmpty_eq_true (value : PyValue) :
    value.isNoneOrEmpty = true ↔ value = .none ∨ value = .str "" := by
  cases value <;> simp only [isNoneOrEmpty, Bool.false_eq_true, reduceCtorEq, or_self,
    decide_eq_true_eq, PyValue.str.injEq, false_or, true_or]

end PyValue

end Algotradify.Py
