/-
The characters of printed numbers, and texts that join fields by a separator.

A printed number holds none of the usual separators, so the last separator of a
joined text is found again when the last field is a number.
-/

import Mathlib.Data.List.Basic
import Algotradify.Py.Text

namespace Algotradify.Py

def isNumeralChar (char : Char) : Bool :=
  char.isDigit || "-+./einfa".toList.contains char

theorem numeral_of_isDigit {char : Char} (digit : char.isDigit = true) :
    isNumeralChar char = true := by
  unfold isNumeralChar
  rw [digit, Bool.true_or]

theorem numeral_toDigits {char : Char} {number : Nat} (member : char ∈ Nat.toDigits 10 number) :
    isNumeralChar char = true :=
  numeral_of_isDigit (Nat.isDigit_of_mem_toDigits (by decide) (by decide) member)

theorem numeral_printInt (value : Int) : ∀ char ∈ (printInt value).toList,
    isNumeralChar char = true := by
  intro char member
  unfold printInt at member
  split at member
  · rw [String.toList_append] at member
    rcases List.mem_append.mp member with sign | digits
    · cases List.mem_singleton.mp sign
      decide
    · rw [String.toList_ofList] at digits
      exact numeral_toDigits digits
  · rw [String.toList_ofList] at member
    exact numeral_toDigits member

private theorem numeral_dropTrailingZeros {digits : List Char} {char : Char}
    (member : char ∈ dropTrailingZeros digits) : char ∈ digits := by
  unfold dropTrailingZeros at member
  rw [List.mem_reverse] at member
  exact List.mem_reverse.mp ((List.dropWhile_suffix _).subset member)

theorem numeral_printDecimal {digits : List Char} (places : Nat)
    (numeral : ∀ char ∈ digits, isNumeralChar char = true) :
    ∀ char ∈ (printDecimal digits places).toList, isNumeralChar char = true := by
  intro char member
  unfold printDecimal at member
  dsimp only at member
  split at member
  · rw [String.toList_ofList] at member
    rcases List.mem_append.mp member with mantissa | exponent
    · have kept : ∀ char ∈ dropTrailingZeros digits, isNumeralChar char = true :=
        fun char inner => numeral char (numeral_dropTrailingZeros inner)
      generalize dropTrailingZeros digits = significant at mantissa kept
      rcases significant with _ | ⟨first, _ | ⟨second, rest⟩⟩
      · cases List.mem_singleton.mp mantissa
        decide
      · exact kept char mantissa
      · rcases List.mem_cons.mp mantissa with rfl | mantissa
        · exact kept _ List.mem_cons_self
        rcases List.mem_cons.mp mantissa with rfl | mantissa
        · decide
        · exact kept char (List.mem_cons_of_mem first mantissa)
    · rcases List.mem_cons.mp exponent with rfl | exponent
      · decide
      rcases List.mem_cons.mp exponent with rfl | exponent
      · split <;> decide
      split at exponent
      · rcases List.mem_cons.mp exponent with rfl | exponent
        · decide
        · exact numeral_toDigits exponent
      · exact numeral_toDigits exponent
  · rw [String.toList_ofList] at member
    have padded : ∀ char ∈ List.replicate (places + 1 - digits.length) '0' ++ digits,
        isNumeralChar char = true := by
      intro char inner
      rcases List.mem_append.mp inner with zero | digit
      · cases List.eq_of_mem_replicate zero
        decide
      · exact numeral char digit
    rcases List.mem_append.mp member with whole | fraction
    · exact padded char (List.mem_of_mem_take whole)
    · rcases List.mem_cons.mp fraction with rfl | fraction
      · decide
      split at fraction
      · cases List.mem_singleton.mp fraction
        decide
      · exact padded char (List.mem_of_mem_drop fraction)

theorem numeral_printFloat (value : PyFloat) : ∀ char ∈ (printFloat value).toList,
    isNumeralChar char = true := by
  intro char member
  cases value with
  | nan =>
      revert char
      decide
  | posInf =>
      revert char
      decide
  | negInf =>
      revert char
      decide
  | finite value =>
      have sign : ∀ char ∈ (if value < 0 then "-" else "").toList, isNumeralChar char = true := by
        split <;> decide
      unfold printFloat at member
      dsimp only at member
      split at member
      · simp only [String.toList_append, String.toList_ofList] at member
        rcases List.mem_append.mp member with member | denominator
        · rcases List.mem_append.mp member with member | slash
          · rcases List.mem_append.mp member with signed | numerator
            · exact sign char signed
            · exact numeral_toDigits numerator
          · cases List.mem_singleton.mp slash
            decide
        · exact numeral_toDigits denominator
      · rw [String.toList_append] at member
        rcases List.mem_append.mp member with signed | decimal
        · exact sign char signed
        · exact numeral_printDecimal _ (fun char => numeral_toDigits) char decimal

theorem printInt_injective : Function.Injective printInt := by
  intro left right same
  have readBack : ∀ {first second : Nat},
      Nat.toDigits 10 first = Nat.toDigits 10 second → first = second := by
    intro first second equal
    rw [← Nat.ofDigitChars_ten_toDigits (n := first), equal, Nat.ofDigitChars_ten_toDigits]
  -- A minus sign is no digit, so the signs agree and then the magnitudes do.
  have minus : ∀ {first second : Nat},
      "-".toList ++ Nat.toDigits 10 first ≠ Nat.toDigits 10 second := by
    intro first second equal
    have member : '-' ∈ Nat.toDigits 10 second := by
      rw [← equal]
      exact List.mem_append_left _ (List.mem_singleton.mpr rfl)
    have digit := Nat.isDigit_of_mem_toDigits (by decide) (by decide) member
    revert digit
    decide
  have lists := congrArg String.toList same
  unfold printInt at lists
  split at lists <;> split at lists <;>
    simp only [String.toList_append, String.toList_ofList] at lists
  · have magnitudes := readBack (List.append_cancel_left lists)
    omega
  · exact absurd lists minus
  · exact absurd lists.symm minus
  · have magnitudes := readBack lists
    omega

theorem joined_inj {separator : Char} {left right leftTail rightTail : List Char}
    (leftClean : separator ∉ leftTail) (rightClean : separator ∉ rightTail)
    (same : left ++ separator :: leftTail = right ++ separator :: rightTail) :
    left = right ∧ leftTail = rightTail := by
  induction left generalizing right with
  | nil =>
      cases right with
      | nil => exact ⟨rfl, (List.cons.inj same).2⟩
      | cons head rest =>
          obtain ⟨rfl, tail⟩ := List.cons.inj same
          exact absurd (tail ▸ List.mem_append_right rest List.mem_cons_self) leftClean
  | cons head rest ih =>
      cases right with
      | nil =>
          obtain ⟨rfl, tail⟩ := List.cons.inj same
          exact absurd (tail ▸ List.mem_append_right rest List.mem_cons_self) rightClean
      | cons other others =>
          obtain ⟨rfl, tail⟩ := List.cons.inj same
          obtain ⟨front, back⟩ := ih tail
          exact ⟨congrArg (List.cons head) front, back⟩

theorem joined_inj_first {separator : Char} {leftHead rightHead left right : List Char}
    (leftClean : separator ∉ leftHead) (rightClean : separator ∉ rightHead)
    (same : leftHead ++ separator :: left = rightHead ++ separator :: right) :
    leftHead = rightHead ∧ left = right := by
  have reversed := congrArg List.reverse same
  simp only [List.reverse_append, List.reverse_cons, List.append_assoc, List.singleton_append]
    at reversed
  rw [← List.mem_reverse] at leftClean rightClean
  obtain ⟨tails, heads⟩ := joined_inj leftClean rightClean reversed
  exact ⟨List.reverse_inj.mp heads, List.reverse_inj.mp tails⟩

end Algotradify.Py
