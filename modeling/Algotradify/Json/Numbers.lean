/-
A written number is read back: the scanner takes the whole numeral and no more.
-/

import Algotradify.Json.Scan
import Algotradify.Py.NumeralReading

namespace Algotradify.Json

open Py

variable {rest : List Char} {exponent : Option (Bool × List Char)}

def Ends (rest : List Char) : Prop :=
  ∀ char after, rest = char :: after →
    char.isDigit = false ∧ char ≠ '.' ∧ char ≠ 'e' ∧ char ≠ 'E'

theorem ends_cons {char : Char} {after : List Char}
    (delimiter : char ∈ [',', ']', closeBrace, '\n']) : Ends (char :: after) := by
  intro other tail same
  cases same
  have listed : ∀ char ∈ [',', ']', closeBrace, '\n'],
      char.isDigit = false ∧ char ≠ '.' ∧ char ≠ 'e' ∧ char ≠ 'E' := by decide
  exact listed char delimiter

private theorem takeRun_digits {digits : List Char}
    (allDigits : ∀ char ∈ digits, char.isDigit = true)
    (stops : ∀ char after, rest = char :: after → char.isDigit = false) :
    takeRun (digits ++ rest) = (digits, rest) := by
  unfold takeRun
  rw [List.takeWhile_append_of_pos allDigits, List.dropWhile_append_of_pos allDigits]
  cases rest with
  | nil => rw [List.takeWhile_nil, List.append_nil, List.dropWhile_nil]
  | cons char after =>
      have other := stops char after rfl
      rw [List.takeWhile_cons, List.dropWhile_cons, other]
      simp only [Bool.false_eq_true, if_false, List.append_nil]

private theorem scanSign_signChars (negative : Bool) {char : Char} (after : List Char)
    (digit : char.isDigit = true) :
    scanSign (Numeral.signChars negative ++ char :: after) =
      (Numeral.signChars negative, char :: after) := by
  cases negative with
  | true => rfl
  | false =>
      change scanSign (char :: after) = ([], char :: after)
      unfold scanSign
      split
      · rename_i same
        exact absurd (List.cons.inj same).1 (digit_plain digit).1
      · rfl

private theorem scanWhole_digits {whole : List Char}
    (allDigits : ∀ char ∈ whole, char.isDigit = true) (nonempty : whole ≠ [])
    (leading : whole.head? = some '0' → whole = ['0'])
    (stops : ∀ char after, rest = char :: after → char.isDigit = false) :
    scanWhole (whole ++ rest) = some (whole, rest) := by
  cases whole with
  | nil => exact absurd rfl nonempty
  | cons char digits =>
      rw [List.cons_append]
      unfold scanWhole
      dsimp only
      by_cases zero : char = '0'
      · subst zero
        have single := leading rfl
        rw [if_pos rfl, single, (List.cons.inj single).2, List.nil_append]
      · have digit := (List.forall_mem_cons.mp allDigits).1
        rw [if_neg zero, if_pos digit, ← List.cons_append, takeRun_digits allDigits stops]

private theorem stops_markChars {exponent : Option (Bool × List Char)} {rest : List Char}
    (ends : Ends rest) : ∀ char after, Numeral.markChars exponent ++ rest = char :: after →
      char.isDigit = false := by
  intro char after same
  cases exponent with
  | none => exact (ends char after same).1
  | some mark =>
      cases same
      decide

private theorem stops_pointChars {fraction : List Char} (ends : Ends rest) :
    ∀ char after, Numeral.pointChars fraction ++ (Numeral.markChars exponent ++ rest) =
      char :: after → char.isDigit = false := by
  intro char after same
  unfold Numeral.pointChars at same
  split at same
  · exact stops_markChars ends char after same
  · cases same
    decide

private theorem scanFraction_pointChars {fraction : List Char}
    (allDigits : ∀ char ∈ fraction, char.isDigit = true) (ends : Ends rest) :
    scanFraction (Numeral.pointChars fraction ++ (Numeral.markChars exponent ++ rest)) =
      (Numeral.pointChars fraction, Numeral.markChars exponent ++ rest) := by
  unfold Numeral.pointChars
  by_cases empty : fraction = []
  · rw [if_pos empty, List.nil_append]
    cases exponent with
    | some mark => rfl
    | none =>
        change scanFraction rest = ([], rest)
        unfold scanFraction
        split
        · exact absurd rfl (ends _ _ rfl).2.1
        · rfl
  · rw [if_neg empty]
    have stops := @stops_markChars exponent rest ends
    have run := takeRun_digits allDigits stops
    change (if (takeRun (fraction ++ (Numeral.markChars exponent ++ rest))).1 = [] then _ else
      ('.' :: (takeRun (fraction ++ (Numeral.markChars exponent ++ rest))).1,
        (takeRun (fraction ++ (Numeral.markChars exponent ++ rest))).2)) = _
    rw [run, if_neg empty]

private theorem scanExponent_markChars
    (proper : ∀ negative digits, exponent = some (negative, digits) →
      digits ≠ [] ∧ ∀ char ∈ digits, char.isDigit = true) (ends : Ends rest) :
    scanExponent (Numeral.markChars exponent ++ rest) = (Numeral.markChars exponent, rest) := by
  rcases exponent with _ | ⟨negative, digits⟩
  · change scanExponent rest = ([], rest)
    cases rest with
    | nil => rfl
    | cons char after =>
        have other := ends char after rfl
        unfold scanExponent
        exact if_neg (not_or.mpr ⟨other.2.2.1, other.2.2.2⟩)
  · obtain ⟨nonempty, allDigits⟩ := proper negative digits rfl
    have run := takeRun_digits allDigits (fun char after same => (ends char after same).1)
    have sign : scanExponentSign ((if negative then '-' else '+') :: (digits ++ rest)) =
        ([if negative then '-' else '+'], digits ++ rest) := by
      cases negative <;> rfl
    change scanExponent ('e' :: (if negative then '-' else '+') :: (digits ++ rest)) = _
    unfold scanExponent
    dsimp only
    rw [if_pos (.inl rfl), sign]
    dsimp only
    rw [run, if_neg nonempty]
    rfl

private theorem scanNumber_parts {numeral : Numeral} (proper : numeral.Proper) (ends : Ends rest) :
    scanNumber (numeral.chars ++ rest) =
      if Numeral.pointChars numeral.fraction = [] ∧ Numeral.markChars numeral.exponent = [] then
        (parseInt? (String.ofList (Numeral.signChars numeral.negative ++ numeral.whole))).bind
          fun value => some (.int value, rest)
      else (parseFloat? (String.ofList numeral.chars)).bind
        fun value => some (.float value, rest) := by
  obtain ⟨head, after, whole⟩ := List.exists_cons_of_ne_nil proper.nonempty
  have digit : head.isDigit = true := proper.whole head (by rw [whole]; exact List.mem_cons_self)
  have text : numeral.chars ++ rest = Numeral.signChars numeral.negative ++
      (numeral.whole ++ (Numeral.pointChars numeral.fraction ++
        (Numeral.markChars numeral.exponent ++ rest))) := by
    unfold Numeral.chars
    simp only [List.append_assoc]
  have sign : scanSign (numeral.chars ++ rest) = (Numeral.signChars numeral.negative,
      numeral.whole ++ (Numeral.pointChars numeral.fraction ++
        (Numeral.markChars numeral.exponent ++ rest))) := by
    rw [text, whole, List.cons_append]
    exact scanSign_signChars numeral.negative _ digit
  unfold scanNumber
  rw [sign]
  dsimp only
  rw [scanWhole_digits proper.whole proper.nonempty proper.leading (stops_pointChars ends),
    Option.bind_eq_bind, Option.bind_some]
  dsimp only
  rw [scanFraction_pointChars proper.fraction ends]
  dsimp only
  rw [scanExponent_markChars proper.exponent ends]
  rfl

theorem scanNumber_printInt (value : Int) (ends : Ends rest) :
    scanNumber ((printInt value).toList ++ rest) = some (.int value, rest) := by
  have parts := scanNumber_parts (Numeral.ofInt_proper value) ends
  rw [if_pos ⟨rfl, rfl⟩] at parts
  change _ = (parseInt? (String.ofList (Numeral.signChars (decide (value < 0)) ++
    Nat.toDigits 10 value.natAbs))).bind _ at parts
  rw [← printInt_toList, String.ofList_toList, parseInt?_printInt, Numeral.ofInt_chars] at parts
  exact parts

theorem scanNumber_printFloat {value : ℚ} (decimal : isDecimal value = true) (ends : Ends rest) :
    scanNumber ((printFloat (.finite value)).toList ++ rest) =
      some (.float (.finite value), rest) := by
  obtain ⟨numeral, proper, marked, chars, same⟩ := printFloat_numeral decimal
  have parts := scanNumber_parts proper ends
  have float : ¬(Numeral.pointChars numeral.fraction = [] ∧
      Numeral.markChars numeral.exponent = []) := by
    rintro ⟨noPoint, noMark⟩
    rcases marked with fraction | exponent
    · unfold Numeral.pointChars at noPoint
      rw [if_neg fraction] at noPoint
      cases noPoint
    · cases shape : numeral.exponent with
      | none => exact exponent shape
      | some mark =>
          rw [shape] at noMark
          cases noMark
  rw [if_neg float, chars, String.ofList_toList, parseFloat?_printFloat decimal] at parts
  exact parts

private def spelledOut : List Char → Bool
  | first :: second :: _ => !first.isDigit && !second.isDigit
  | _ => false

theorem scanConstant_number (negative : Bool) {char : Char} (after : List Char)
    (digit : char.isDigit = true) :
    scanConstant (Numeral.signChars negative ++ char :: after) = none := by
  have letters : ∀ constant ∈ constants, spelledOut constant.1 = true := by decide
  unfold scanConstant
  rw [List.findSome?_eq_none_iff]
  intro constant member
  have spelled := letters constant member
  refine if_neg ?_
  rw [List.isPrefixOf_iff_prefix]
  intro starts
  rcases shape : constant.1 with _ | ⟨first, _ | ⟨second, tail⟩⟩
  · rw [shape] at spelled
    cases spelled
  · rw [shape] at spelled
    cases spelled
  · rw [shape] at spelled starts
    obtain ⟨noFirst, noSecond⟩ := Bool.and_eq_true_iff.mp spelled
    rw [Bool.not_eq_true'] at noFirst noSecond
    cases negative with
    | false =>
        rw [(List.cons_prefix_cons.mp starts).1, digit] at noFirst
        cases noFirst
    | true =>
        have later := (List.cons_prefix_cons.mp starts).2
        rw [(List.cons_prefix_cons.mp later).1, digit] at noSecond
        cases noSecond

end Algotradify.Json
