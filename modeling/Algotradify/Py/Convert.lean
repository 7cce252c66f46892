/-
Conversions of the scripting language and the exceptions they raise.

Integers convert to floats exactly: the overflow of `float` on an integer that
no machine float can hold, and the digit limit of `int` and `str`, are outside
this exact reading of numbers.
-/

import Algotradify.Py.Text

namespace Algotradify.Py

/-- `int(value)`. A finite float is cut towards zero. -/
def toInt : PyValue → Except PyError Int
  | .bool flag => .ok (if flag then 1 else 0)
  | .int value => .ok value
  | .float (.finite value) => .ok (value.num.tdiv value.den)
  | .float .nan => .error (.valueError "cannot convert float NaN to integer")
  | .float _ => .error (.overflowError "cannot convert float infinity to integer")
  | .str text =>
      match parseInt? text with
      | some value => .ok value
      | none => .error (.valueError "invalid literal for int() with base 10")
  | _ => .error (.typeError "int() argument must be a string or a real number")

/-- `float(value)`. -/
def toFloat : PyValue → Except PyError PyFloat
  | .bool flag => .ok (.finite (if flag then 1 else 0))
  | .int value => .ok (.finite value)
  | .float value => .ok value
  | .str text =>
      match parseFloat? text with
      | some value => .ok value
      | none => .error (.valueError "could not convert string to float")
  | _ => .error (.typeError "float() argument must be a string or a real number")

/-- `dict(value)` of a dictionary; no other iterable is a mapping here. -/
def toDict : PyValue → Except PyError PyDict
  | .dict entries => .ok entries
  | _ => .error (.typeError "dict() argument must be a mapping")

/-- The items that `for item in value` visits. -/
def toItems : PyValue → Except PyError (List PyValue)
  | .list items => .ok items
  | .str text => .ok (text.toList.map fun char => .str (String.singleton char))
  | .dict entries => .ok (entries.map fun entry => .str entry.1)
  | _ => .error (.typeError "object is not iterable")

def ofOptionInt : Option Int → PyValue
  | none => .none
  | some value => .int value

def ofOptionFloat : Option PyFloat → PyValue
  | none => .none
  | some value => .float value

def ofOptionString : Option String → PyValue
  | none => .none
  | some text => .str text

def ofStrings (texts : List String) : PyValue :=
  .list (texts.map PyValue.str)

@[simp] theorem toDict_dict (entries : PyDict) : toDict (.dict entries) = .ok entries := rfl

theorem bind_eq_ok {ε α β : Type} {action : Except ε α} {next : α → Except ε β} {result : β} :
    action >>= next = .ok result ↔ ∃ value, action = .ok value ∧ next value = .ok result := by
  cases action with
  | error raised =>
      constructor
      · intro impossible
        cases impossible
      · rintro ⟨value, impossible, _⟩
        cases impossible
  | ok value =>
      constructor
      · intro continued
        exact ⟨value, rfl, continued⟩
      · rintro ⟨other, same, continued⟩
        cases same
        exact continued

theorem exists_bind_ok {ε α β : Type} {action : Except ε α} {next : α → Except ε β} {value : α}
    {motive : β → Prop} (ran : action = .ok value)
    (rest : ∃ result, next value = .ok result ∧ motive result) :
    ∃ result, action >>= next = .ok result ∧ motive result := by
  obtain ⟨result, continued, holds⟩ := rest
  exact ⟨result, bind_eq_ok.mpr ⟨value, ran, continued⟩, holds⟩

theorem exists_ok_bind {ε α β : Type} {action : Except ε α} {next : α → Except ε β} {value : α}
    (ran : action = .ok value) (rest : ∃ result, next value = .ok result) :
    ∃ result, action >>= next = .ok result := by
  obtain ⟨result, continued⟩ := rest
  exact ⟨result, bind_eq_ok.mpr ⟨value, ran, continued⟩⟩

theorem exists_ok {ε α : Type} {action : Except ε α}
    (returned : action.toOption.isSome = true) : ∃ value, action = .ok value := by
  cases action with
  | ok value => exact ⟨value, rfl⟩
  | error _ => cases returned

theorem eq_ok_of_toOption {ε α : Type} {action : Except ε α} {value : α}
    (found : action.toOption = some value) : action = .ok value := by
  cases action with
  | error raised => cases found
  | ok own =>
      cases found
      rfl

/-! ### Early returns

A computation that may stop early with a report is a layer over one that may raise. -/

section EarlyReturn

variable {ε ρ α β : Type}

theorem run_bind_eq_ok {action : ExceptT ρ (Except ε) α} {next : α → ExceptT ρ (Except ε) β}
    {result : β} : (action >>= next).run = .ok (.ok result) ↔
      ∃ value, action.run = .ok (.ok value) ∧ (next value).run = .ok (.ok result) := by
  rw [ExceptT.run_bind]
  constructor
  · intro continued
    obtain ⟨outcome, ran, continued⟩ := bind_eq_ok.mp continued
    cases outcome with
    | error report => cases continued
    | ok value => exact ⟨value, ran, continued⟩
  · rintro ⟨value, ran, continued⟩
    exact bind_eq_ok.mpr ⟨.ok value, ran, continued⟩

theorem run_lift_eq_ok {action : Except ε α} {value : α} :
    (ExceptT.lift action : ExceptT ρ (Except ε) α).run = .ok (.ok value) ↔ action = .ok value := by
  cases action with
  | error raised =>
      constructor
      · intro impossible
        cases impossible
      · intro impossible
        cases impossible
  | ok own =>
      constructor
      · intro same
        cases same
        rfl
      · intro same
        cases same
        rfl

end EarlyReturn

theorem mapM_eq_ok_map {ε α β : Type} {items : List α} {convert : α → Except ε β} {value : α → β}
    (converts : ∀ item ∈ items, convert item = .ok (value item)) :
    items.mapM convert = .ok (items.map value) := by
  induction items with
  | nil => rfl
  | cons head rest ih =>
      have first := converts head List.mem_cons_self
      have later := ih (fun item member => converts item (List.mem_cons_of_mem head member))
      rw [List.mapM_cons, first, later]
      rfl

theorem exists_of_mem_mapM {ε α β : Type} {items : List α} {convert : α → Except ε β}
    {results : List β} (ran : items.mapM convert = .ok results) :
    ∀ result ∈ results, ∃ item ∈ items, convert item = .ok result := by
  induction items generalizing results with
  | nil =>
      cases ran
      exact fun _ member => absurd member List.not_mem_nil
  | cons head rest ih =>
      rw [List.mapM_cons] at ran
      obtain ⟨first, converted, continued⟩ := bind_eq_ok.mp ran
      obtain ⟨others, later, whole⟩ := bind_eq_ok.mp continued
      cases whole
      intro result member
      rcases List.mem_cons.mp member with rfl | elsewhere
      · exact ⟨head, List.mem_cons_self, converted⟩
      · obtain ⟨item, among, same⟩ := ih later result elsewhere
        exact ⟨item, List.mem_cons_of_mem head among, same⟩

end Algotradify.Py
