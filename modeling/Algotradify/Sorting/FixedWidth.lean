/-
Numerals of a fixed width, and the order of texts that are made of them.

Numerals of one width compare as the numbers they stand for. So a text of such blocks, with
the same separators between them, compares as the tuple of its numbers does.
-/

import Mathlib

namespace Algotradify.Sorting

variable {width low high : ℕ}

def fixedWidth : ℕ → ℕ → List Char
  | 0, _ => []
  | width + 1, number => fixedWidth width (number / 10) ++ [Nat.digitChar (number % 10)]

theorem length_fixedWidth (width number : ℕ) : (fixedWidth width number).length = width := by
  induction width generalizing number with
  | zero => rfl
  | succ width ih =>
      rw [fixedWidth, List.length_append, ih]
      rfl

theorem fixedWidth_isDigit {number : ℕ} {char : Char} (member : char ∈ fixedWidth width number) :
    char.isDigit = true := by
  induction width generalizing number with
  | zero => cases member
  | succ width ih =>
      rw [fixedWidth] at member
      rcases List.mem_append.mp member with earlier | last
      · exact ih earlier
      · rw [List.mem_singleton.mp last]
        rw [Nat.isDigit_digitChar]
        exact decide_eq_true (by omega)

/-! ### Order -/

theorem append_lt_append {α : Type*} [LT α] {front other : List α}
    (length : front.length = other.length) (rest left : List α) :
    front ++ rest < other ++ left ↔ front < other ∨ front = other ∧ rest < left := by
  induction front generalizing other with
  | nil =>
      have empty : other = [] := List.length_eq_zero_iff.mp length.symm
      subst empty
      simp
  | cons head tail ih =>
      cases other with
      | nil => cases length
      | cons first later =>
          have both := ih (Nat.succ.inj length)
          simp only [List.cons_append, List.cons_lt_cons_iff, List.cons.injEq, both]
          tauto

theorem digitChar_lt_iff (small : low < 10) (large : high < 10) :
    Nat.digitChar low < Nat.digitChar high ↔ low < high := by
  have digits : ∀ low < 10, ∀ high < 10,
      (Nat.digitChar low < Nat.digitChar high ↔ low < high) := by decide
  exact digits low small high large

theorem eq_iff_of_lt_iff {render : ℕ → List Char} (below : render low < render high ↔ low < high)
    (above : render high < render low ↔ high < low) : render low = render high ↔ low = high := by
  constructor
  · intro equal
    rw [equal] at below above
    have irrefl := List.lt_irrefl (render high)
    have atMost := mt below.mpr irrefl
    have atLeast := mt above.mpr irrefl
    omega
  · intro equal
    rw [equal]

theorem fixedWidth_lt_iff (small : low < 10 ^ width) (large : high < 10 ^ width) :
    fixedWidth width low < fixedWidth width high ↔ low < high := by
  induction width generalizing low high with
  | zero =>
      have nothing : low = 0 := by omega
      have neither : high = 0 := by omega
      simp [fixedWidth, nothing, neither]
  | succ width ih =>
      have lowFront : low / 10 < 10 ^ width := by omega
      have highFront : high / 10 < 10 ^ width := by omega
      have same := eq_iff_of_lt_iff (ih lowFront highFront) (ih highFront lowFront)
      have last : [Nat.digitChar (low % 10)] < [Nat.digitChar (high % 10)] ↔
          low % 10 < high % 10 := by
        rw [List.cons_lt_cons_iff, digitChar_lt_iff (by omega) (by omega)]
        simp
      rw [fixedWidth, fixedWidth, append_lt_append (by rw [length_fixedWidth, length_fixedWidth]),
        ih lowFront highFront, same, last]
      omega

theorem fixedWidth_inj (small : low < 10 ^ width) (large : high < 10 ^ width) :
    fixedWidth width low = fixedWidth width high ↔ low = high :=
  eq_iff_of_lt_iff (fixedWidth_lt_iff small large) (fixedWidth_lt_iff large small)

theorem block_lt_iff (small : low < 10 ^ width) (large : high < 10 ^ width) (rest left : List Char) :
    fixedWidth width low ++ rest < fixedWidth width high ++ left ↔
      low < high ∨ low = high ∧ rest < left := by
  rw [append_lt_append (by rw [length_fixedWidth, length_fixedWidth]),
    fixedWidth_lt_iff small large, fixedWidth_inj small large]

theorem separator_lt_iff (separator : Char) (rest left : List Char) :
    separator :: rest < separator :: left ↔ rest < left := by
  simp

/-! ### Reading -/

def takeNumber (width : ℕ) (chars : List Char) : Option (ℕ × List Char) :=
  if (chars.take width).length = width ∧ (chars.take width).all Char.isDigit then
    some (Nat.ofDigitChars 10 (chars.take width) 0, chars.drop width)
  else none

def takeChar (expected : Char) : List Char → Option (List Char)
  | [] => none
  | char :: rest => if char = expected then some rest else none

theorem takeChar_cons (expected : Char) (rest : List Char) :
    takeChar expected (expected :: rest) = some rest :=
  if_pos rfl

theorem ofDigitChars_fixedWidth {number : ℕ} (small : number < 10 ^ width) :
    Nat.ofDigitChars 10 (fixedWidth width number) 0 = number := by
  induction width generalizing number with
  | zero =>
      have nothing : number = 0 := by omega
      rw [nothing]
      rfl
  | succ width ih =>
      rw [fixedWidth, Nat.ofDigitChars_append, ih (by omega),
        Nat.ofDigitChars_cons_digitChar_of_lt_ten (by omega), Nat.ofDigitChars_nil]
      omega

theorem takeNumber_fixedWidth {number : ℕ} (small : number < 10 ^ width) (rest : List Char) :
    takeNumber width (fixedWidth width number ++ rest) = some (number, rest) := by
  have length := length_fixedWidth width number
  have front : (fixedWidth width number ++ rest).take width = fixedWidth width number :=
    List.take_left' length
  have back : (fixedWidth width number ++ rest).drop width = rest :=
    List.drop_left' length
  have digits : (fixedWidth width number).all Char.isDigit = true :=
    List.all_eq_true.mpr fun char member => fixedWidth_isDigit member
  unfold takeNumber
  rw [front, back, if_pos ⟨length, digits⟩, ofDigitChars_fixedWidth small]

end Algotradify.Sorting
