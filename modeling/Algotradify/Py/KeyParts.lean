/-
The parts of a sort key: numbers and texts, compared with their own kind.

NaN is not the same as any number, and neither before nor after one.
-/

import Algotradify.Py.Value
import Algotradify.Sorting.Extreme
import Mathlib.Data.String.Basic

namespace Algotradify.Py

open Sorting

inductive KeyPart where
  | number (value : PyFloat)
  | text (text : String)
deriving DecidableEq

def KeyPart.same : KeyPart → KeyPart → Bool
  | .number left, .number right => left.eq right
  | .text left, .text right => decide (left = right)
  | _, _ => false

def KeyPart.less : KeyPart → KeyPart → Bool
  | .number left, .number right => left.lt right
  | .text left, .text right => decide (left < right)
  | _, _ => false

/-- `left < right` of two key tuples. -/
def keyLess : List KeyPart → List KeyPart → Bool :=
  tupleLess KeyPart.same KeyPart.less

theorem PyFloat.eq_of_eq {left right : PyFloat} (same : left.eq right = true) : left = right := by
  cases left <;> cases right <;> simp_all [PyFloat.eq]

theorem PyFloat.not_eq_of_lt {left right : PyFloat} (less : left.lt right = true) :
    left.eq right = false := by
  cases left <;> cases right <;> simp_all [PyFloat.eq, PyFloat.lt]
  exact ne_of_lt less

theorem PyFloat.lt_irrefl (value : PyFloat) : value.lt value = false := by
  cases value <;> simp [PyFloat.lt]

theorem keyPartLaws : PartLaws KeyPart.same KeyPart.less where
  eq_of_same := by
    intro left right same
    cases left <;> cases right <;> simp_all [KeyPart.same]
    exact PyFloat.eq_of_eq same
  apart := by
    intro left right less
    cases left with
    | number own =>
        cases right with
        | number other => exact PyFloat.not_eq_of_lt less
        | text other => cases less
    | text own =>
        cases right with
        | number other => cases less
        | text other => exact decide_eq_false (ne_of_lt (of_decide_eq_true less))
  trans := by
    intro first second third left right
    cases first with
    | number one =>
        cases second with
        | text two => cases left
        | number two =>
            cases third with
            | text three => cases right
            | number three => exact PyFloat.lt_of_lt_of_le left (PyFloat.le_of_lt right)
    | text one =>
        cases second with
        | number two => cases left
        | text two =>
            cases third with
            | number three => cases right
            | text three =>
                exact decide_eq_true (lt_trans (of_decide_eq_true left) (of_decide_eq_true right))
  irrefl := by
    intro part
    cases part with
    | number value => exact PyFloat.lt_irrefl value
    | text text => exact decide_eq_false (lt_irrefl text)

def KeyPart.Comparable (left right : KeyPart) : Prop :=
  left.same right = true ∨ left.less right = true ∨ right.less left = true

theorem KeyPart.comparable_number {left right : PyFloat} (leftNumber : left ≠ .nan)
    (rightNumber : right ≠ .nan) : (KeyPart.number left).Comparable (.number right) := by
  unfold KeyPart.Comparable KeyPart.same KeyPart.less
  by_cases more : right.lt left = true
  · exact .inr (.inr more)
  · have atMost := PyFloat.le_of_not_lt leftNumber rightNumber more
    unfold PyFloat.le at atMost
    rcases (Bool.or_eq_true ..).mp atMost with less | same
    · exact .inr (.inl less)
    · exact .inl same

theorem KeyPart.comparable_finite (left right : ℚ) :
    (KeyPart.number (.finite left)).Comparable (.number (.finite right)) :=
  KeyPart.comparable_number PyFloat.noConfusion PyFloat.noConfusion

theorem KeyPart.comparable_text (left right : String) :
    (KeyPart.text left).Comparable (.text right) := by
  unfold KeyPart.Comparable KeyPart.same KeyPart.less
  rcases lt_trichotomy left right with less | same | more
  · exact .inr (.inl (decide_eq_true less))
  · exact .inl (decide_eq_true same)
  · exact .inr (.inr (decide_eq_true more))

end Algotradify.Py
