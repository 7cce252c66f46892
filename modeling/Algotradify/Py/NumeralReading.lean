/-
Printed numbers are read back: `int(str(value))` and `float(repr(value))`.

A numeral is a sign, whole digits, digits after the point and an exponent. What is
printed of a number is a numeral of its value, and a numeral reads as its value.
-/

import Mathlib.Data.Nat.Cast.Field
import Mathlib.Data.Nat.Prime.Basic
import Mathlib.Data.Rat.Cast.Order
import Mathlib.Tactic.FieldSimp
import Mathlib.Tactic.Positivity
import Mathlib.Tactic.Ring
import Algotradify.Py.Numerals

namespace Algotradify.Py

/-! ### Digits -/

def digitValues (digits : List Char) : List Nat :=
  digits.map fun char => char.toNat - '0'.toNat

theorem mem_digits {char : Char} (digit : char.isDigit = true) : char ∈ "0123456789".toList := by
  have bounds := Char.isDigit_iff_toNat.mp digit
  have listed : ∀ code, '0'.toNat ≤ code → code ≤ '9'.toNat →
      Char.ofNat code ∈ "0123456789".toList := by decide
  rw [← Char.ofNat_toNat char]
  exact listed _ bounds.1 bounds.2

theorem digit?_of_isDigit {char : Char} (digit : char.isDigit = true) :
    digit? char = some (char.toNat - '0'.toNat) := by
  have listed : ∀ char ∈ "0123456789".toList, digit? char = some (char.toNat - '0'.toNat) := by
    decide
  exact listed char (mem_digits digit)

theorem digitsValue_digitValues (digits : List Char) :
    digitsValue (digitValues digits) = Nat.ofDigitChars 10 digits 0 := by
  unfold digitsValue digitValues
  rw [List.foldl_map, Nat.ofDigitChars_eq_foldl]

def Stops (rest : List Char) : Prop :=
  ∀ char after, rest = char :: after → digit? char = none ∧ char ≠ '_'

theorem takeDigits_append (read : List Nat) {digits rest : List Char}
    (allDigits : ∀ char ∈ digits, char.isDigit = true) (stops : Stops rest) :
    takeDigits read (digits ++ rest) = (read ++ digitValues digits, rest) := by
  induction digits generalizing read with
  | nil =>
      rw [List.nil_append, digitValues, List.map_nil, List.append_nil]
      cases rest with
      | nil => rfl
      | cons char after =>
          obtain ⟨noDigit, noUnderscore⟩ := stops char after rfl
          unfold takeDigits
          rw [noDigit]
          exact if_neg (fun both => noUnderscore both.1)
  | cons char digits ih =>
      obtain ⟨head, tail⟩ := List.forall_mem_cons.mp allDigits
      rw [List.cons_append]
      unfold takeDigits
      rw [digit?_of_isDigit head]
      refine (ih _ tail).trans ?_
      rw [List.append_assoc]
      rfl

theorem takeDigits_digits {digits : List Char}
    (allDigits : ∀ char ∈ digits, char.isDigit = true) :
    takeDigits [] digits = (digitValues digits, []) := by
  have stops : Stops [] := fun _ _ impossible => by cases impossible
  have taken := takeDigits_append [] allDigits stops
  rw [List.append_nil] at taken
  exact taken

/-! ### Numerals -/

structure Numeral where
  negative : Bool
  whole : List Char
  fraction : List Char
  /-- The sign of the exponent and its digits. -/
  exponent : Option (Bool × List Char)

namespace Numeral

def signChars (negative : Bool) : List Char :=
  if negative then ['-'] else []

def pointChars (fraction : List Char) : List Char :=
  if fraction = [] then [] else '.' :: fraction

def markChars : Option (Bool × List Char) → List Char
  | none => []
  | some (negative, digits) => 'e' :: (if negative then '-' else '+') :: digits

def chars (numeral : Numeral) : List Char :=
  signChars numeral.negative ++ (numeral.whole ++ (pointChars numeral.fraction ++
    markChars numeral.exponent))

def exponentValue : Option (Bool × List Char) → Int
  | none => 0
  | some (negative, digits) =>
      if negative then -(Nat.ofDigitChars 10 digits 0 : Int) else Nat.ofDigitChars 10 digits 0

def magnitude (numeral : Numeral) : ℚ :=
  Nat.ofDigitChars 10 (numeral.whole ++ numeral.fraction) 0 *
    (10 : ℚ) ^ (exponentValue numeral.exponent - numeral.fraction.length)

def value (numeral : Numeral) : ℚ :=
  if numeral.negative then -numeral.magnitude else numeral.magnitude

/-- A numeral as numbers are printed: no superfluous zero starts the whole digits. -/
structure Proper (numeral : Numeral) : Prop where
  whole : ∀ char ∈ numeral.whole, char.isDigit = true
  nonempty : numeral.whole ≠ []
  leading : numeral.whole.head? = some '0' → numeral.whole = ['0']
  fraction : ∀ char ∈ numeral.fraction, char.isDigit = true
  exponent : ∀ negative digits, numeral.exponent = some (negative, digits) →
    digits ≠ [] ∧ ∀ char ∈ digits, char.isDigit = true

end Numeral

theorem scaleByTen_eq (value : ℚ) (exponent : Int) :
    scaleByTen value exponent = value * (10 : ℚ) ^ exponent := by
  unfold scaleByTen
  split
  · rename_i negative
    have magnitude : exponent = -(exponent.natAbs : Int) := by omega
    rw [div_eq_mul_inv]
    nth_rewrite 2 [magnitude]
    rw [zpow_neg, zpow_natCast]
  · rename_i positive
    have magnitude : exponent = (exponent.natAbs : Int) := by omega
    nth_rewrite 2 [magnitude]
    rw [zpow_natCast]

theorem digit_plain {char : Char} (digit : char.isDigit = true) :
    char ≠ '-' ∧ char ≠ '+' ∧ lowerChar char ≠ 'n' ∧ lowerChar char ≠ 'i' := by
  have listed : ∀ char ∈ "0123456789".toList,
      char ≠ '-' ∧ char ≠ '+' ∧ lowerChar char ≠ 'n' ∧ lowerChar char ≠ 'i' := by decide
  exact listed char (mem_digits digit)

theorem isSpace_of_isNumeralChar {char : Char} (numeral : isNumeralChar char = true) :
    isSpace char = false := by
  unfold isNumeralChar at numeral
  have listed : ∀ char ∈ "0123456789".toList ++ "-+./einfa".toList, isSpace char = false := by decide
  apply listed
  rcases Bool.or_eq_true_iff.mp numeral with digit | other
  · exact List.mem_append_left _ (mem_digits digit)
  · exact List.mem_append_right _ (List.contains_iff_mem.mp other)

theorem stripChars_of_solid {chars : List Char} (solid : ∀ char ∈ chars, isSpace char = false) :
    stripChars chars = chars := by
  have whole : strip (String.ofList chars) = String.ofList chars := by
    apply strip_eq_self
    rw [String.toList_ofList]
    exact solid
  have lists := congrArg String.toList whole
  rw [strip, String.toList_ofList, String.toList_ofList] at lists
  exact lists

theorem takeSign_signChars (negative : Bool) {char : Char} (after : List Char)
    (digit : char.isDigit = true) :
    takeSign (Numeral.signChars negative ++ char :: after) =
      (if negative then -1 else 1, char :: after) := by
  obtain ⟨noMinus, noPlus, _⟩ := digit_plain digit
  cases negative with
  | true => rfl
  | false =>
      change takeSign (char :: after) = (1, char :: after)
      unfold takeSign
      split
      · rename_i same
        exact absurd (List.cons.inj same).1 noMinus
      · rename_i same
        exact absurd (List.cons.inj same).1 noPlus
      · rfl

/-! ### Integers -/

private theorem digits_toDigits (number : Nat) :
    ∀ char ∈ Nat.toDigits 10 number, char.isDigit = true :=
  fun _ member => Nat.isDigit_of_mem_toDigits (by decide) (by decide) member

theorem leading_toDigits (number : Nat) (zero : (Nat.toDigits 10 number).head? = some '0') :
    Nat.toDigits 10 number = ['0'] := by
  induction number using Nat.strong_induction_on with
  | _ number ih =>
      rw [Nat.toDigits_eq_if (by decide)] at zero ⊢
      by_cases small : number < 10
      · rw [if_pos small] at zero ⊢
        rw [Option.some.inj zero]
      · rw [if_neg small] at zero
        rw [List.head?_append_of_ne_nil _ Nat.toDigits_ne_nil] at zero
        have front := ih (number / 10) (by omega) zero
        have value := Nat.ofDigitChars_ten_toDigits (n := number / 10)
        rw [front] at value
        have none : number / 10 = 0 := value.symm
        omega

theorem printInt_toList (value : Int) : (printInt value).toList =
    Numeral.signChars (decide (value < 0)) ++ Nat.toDigits 10 value.natAbs := by
  unfold printInt Numeral.signChars
  by_cases negative : value < 0
  · rw [if_pos negative, if_pos (decide_eq_true negative)]
    simp only [String.toList_append, String.toList_ofList]
    rfl
  · rw [if_neg negative, if_neg (by simpa using negative), String.toList_ofList]
    rfl

def Numeral.ofInt (value : Int) : Numeral :=
  { negative := decide (value < 0)
    whole := Nat.toDigits 10 value.natAbs
    fraction := []
    exponent := none }

theorem Numeral.ofInt_proper (value : Int) : (Numeral.ofInt value).Proper :=
  ⟨digits_toDigits _, Nat.toDigits_ne_nil, leading_toDigits _,
    fun _ impossible => absurd impossible List.not_mem_nil,
    fun _ _ impossible => by cases impossible⟩

theorem Numeral.ofInt_chars (value : Int) :
    (Numeral.ofInt value).chars = (printInt value).toList := by
  rw [printInt_toList]
  exact congrArg _ (List.append_nil _)

theorem parseInt?_printInt (value : Int) : parseInt? (printInt value) = some value := by
  have digits := digits_toDigits value.natAbs
  have solid : stripChars (printInt value).toList = (printInt value).toList :=
    stripChars_of_solid fun char member =>
      isSpace_of_isNumeralChar (numeral_printInt value char member)
  cases shape : Nat.toDigits 10 value.natAbs with
  | nil => exact absurd shape Nat.toDigits_ne_nil
  | cons char after =>
      rw [shape] at digits
      have signed := takeSign_signChars (decide (value < 0)) after (digits char List.mem_cons_self)
      unfold parseInt?
      rw [solid, printInt_toList, shape, signed]
      dsimp only
      rw [takeDigits_digits digits]
      change some ((if decide (value < 0) = true then -1 else 1) *
        (digitsValue (digitValues (char :: after)) : Int)) = some value
      rw [digitsValue_digitValues, ← shape, Nat.ofDigitChars_ten_toDigits]
      by_cases negative : value < 0
      · rw [if_pos (decide_eq_true negative)]
        refine congrArg some ?_
        omega
      · rw [if_neg (by simpa using negative)]
        refine congrArg some ?_
        omega

/-! ### Reading a numeral -/

namespace Numeral

variable {numeral : Numeral}

private theorem stops_markChars (exponent : Option (Bool × List Char)) :
    Stops (markChars exponent) := by
  intro char after same
  cases exponent with
  | none => cases same
  | some mark =>
      cases same
      decide

private theorem stops_pointChars (fraction : List Char) (exponent : Option (Bool × List Char)) :
    Stops (pointChars fraction ++ markChars exponent) := by
  unfold pointChars
  split
  · exact stops_markChars exponent
  · intro char after same
    cases same
    decide

private theorem takeExponent_markChars {exponent : Option (Bool × List Char)}
    (proper : ∀ negative digits, exponent = some (negative, digits) →
      digits ≠ [] ∧ ∀ char ∈ digits, char.isDigit = true) :
    takeExponent (markChars exponent) = some (exponentValue exponent) := by
  rcases exponent with _ | ⟨negative, digits⟩
  · rfl
  · obtain ⟨nonempty, allDigits⟩ := proper negative digits rfl
    cases digits with
    | nil => exact absurd rfl nonempty
    | cons char after =>
        have taken := takeDigits_digits allDigits
        have value := digitsValue_digitValues (char :: after)
        cases negative with
        | true =>
            have sign : takeSign ('-' :: char :: after) = (-1, char :: after) := rfl
            change takeExponent ('e' :: '-' :: char :: after) = _
            unfold takeExponent
            dsimp only
            rw [if_pos (Or.inl rfl), sign]
            dsimp only
            rw [taken]
            change some ((-1 : Int) * digitsValue (digitValues (char :: after))) = _
            rw [value, neg_one_mul]
            rfl
        | false =>
            have sign : takeSign ('+' :: char :: after) = (1, char :: after) := rfl
            change takeExponent ('e' :: '+' :: char :: after) = _
            unfold takeExponent
            dsimp only
            rw [if_pos (Or.inl rfl), sign]
            dsimp only
            rw [taken]
            change some ((1 : Int) * digitsValue (digitValues (char :: after))) = _
            rw [value, one_mul]
            rfl

theorem Proper.numeralChars (proper : numeral.Proper) :
    ∀ char ∈ numeral.chars, isNumeralChar char = true := by
  intro char member
  unfold chars at member
  rcases List.mem_append.mp member with sign | member
  · unfold signChars at sign
    split at sign
    · cases List.mem_singleton.mp sign
      decide
    · cases sign
  rcases List.mem_append.mp member with whole | member
  · exact numeral_of_isDigit (proper.whole char whole)
  rcases List.mem_append.mp member with fraction | mark
  · unfold pointChars at fraction
    split at fraction
    · cases fraction
    · rcases List.mem_cons.mp fraction with rfl | fraction
      · decide
      · exact numeral_of_isDigit (proper.fraction char fraction)
  · cases shape : numeral.exponent with
    | none =>
        rw [shape] at mark
        cases mark
    | some both =>
        obtain ⟨negative, digits⟩ := both
        rw [shape] at mark
        rcases List.mem_cons.mp mark with rfl | mark
        · decide
        rcases List.mem_cons.mp mark with rfl | mark
        · cases negative <;> decide
        · exact numeral_of_isDigit ((proper.exponent negative digits shape).2 char mark)

theorem Proper.parseFloat? (proper : numeral.Proper) :
    Py.parseFloat? (String.ofList numeral.chars) = some (.finite numeral.value) := by
  obtain ⟨head, after, whole⟩ := List.exists_cons_of_ne_nil proper.nonempty
  have digit : head.isDigit = true := proper.whole head (by rw [whole]; exact List.mem_cons_self)
  have solid : stripChars numeral.chars = numeral.chars := stripChars_of_solid fun char member =>
    isSpace_of_isNumeralChar (proper.numeralChars char member)
  obtain ⟨_, _, noN, noI⟩ := digit_plain digit
  have signed : takeSign numeral.chars =
      (if numeral.negative then -1 else 1, numeral.whole ++
        (pointChars numeral.fraction ++ markChars numeral.exponent)) := by
    unfold chars
    rw [whole, List.cons_append]
    exact takeSign_signChars numeral.negative _ digit
  have name (text : String) (first : Char) (tail : List Char) (spelled : text.toList = first :: tail)
      (apart : lowerChar head ≠ first) (rest : List Char) :
      (numeral.whole ++ rest).map lowerChar ≠ text.toList := by
    rw [spelled, whole, List.cons_append, List.map_cons]
    exact fun same => apart (List.cons.inj same).1
  unfold Py.parseFloat?
  rw [String.toList_ofList, solid, signed]
  dsimp only
  rw [if_neg (name "nan" 'n' _ rfl noN _),
    if_neg (not_or.mpr ⟨name "inf" 'i' _ rfl noI _, name "infinity" 'i' _ rfl noI _⟩),
    takeDigits_append [] proper.whole (stops_pointChars _ _)]
  dsimp only
  have digits : ¬([] ++ digitValues numeral.whole = []) := by
    rw [whole]
    exact List.cons_ne_nil _ _
  have joined : [] ++ digitValues numeral.whole ++ digitValues numeral.fraction =
      digitValues (numeral.whole ++ numeral.fraction) := (List.map_append).symm
  have length : (digitValues numeral.fraction).length = numeral.fraction.length :=
    List.length_map _
  -- The digits after the point, of which there are none without a point.
  have read : ∀ fraction after, (fraction, after) =
      (digitValues numeral.fraction, markChars numeral.exponent) →
      (takeExponent after).map (fun exponent => PyFloat.finite
        (((if numeral.negative = true then -1 else 1 : Int) : ℚ) * scaleByTen
          (digitsValue ([] ++ digitValues numeral.whole ++ fraction) : ℚ)
          (exponent - fraction.length))) = some (.finite numeral.value) := by
    rintro fraction after same
    cases same
    rw [takeExponent_markChars proper.exponent, Option.map_some, joined, digitsValue_digitValues,
      scaleByTen_eq, length]
    refine congrArg (fun number => some (PyFloat.finite number)) ?_
    unfold value magnitude
    cases numeral.negative with
    | true =>
        rw [if_pos rfl, if_pos rfl]
        push_cast
        ring
    | false =>
        rw [if_neg Bool.false_ne_true, if_neg Bool.false_ne_true]
        push_cast
        ring
  rw [if_neg (fun both => digits both.1)]
  refine read _ _ ?_
  rw [Prod.mk.eta]
  unfold pointChars
  by_cases empty : numeral.fraction = []
  · rw [if_pos empty, empty, List.nil_append]
    cases numeral.exponent with
    | none => rfl
    | some mark => rfl
  · rw [if_neg empty]
    exact takeDigits_append [] proper.fraction (stops_markChars _)

end Numeral

/-! ### Printed numbers are numerals -/

theorem dropTrailingZeros_append (digits : List Char) :
    ∃ zeros, digits = dropTrailingZeros digits ++ List.replicate zeros '0' := by
  have allZero : ∀ char ∈ (digits.reverse.takeWhile (· == '0')).reverse, char = '0' := by
    intro char member
    have zero := List.mem_takeWhile_imp (List.mem_reverse.mp member)
    exact eq_of_beq zero
  have cut := List.takeWhile_append_dropWhile (p := (· == '0')) (l := digits.reverse)
  have whole := congrArg List.reverse cut
  rw [List.reverse_append, List.reverse_reverse, List.eq_replicate_of_mem allZero] at whole
  exact ⟨_, whole.symm⟩

private theorem exponent_numeral (exponent : Int) : ∃ size : List Char,
    (if (Nat.toDigits 10 exponent.natAbs).length < 2 then '0' :: Nat.toDigits 10 exponent.natAbs
      else Nat.toDigits 10 exponent.natAbs) = size ∧ size ≠ [] ∧
    (∀ char ∈ size, char.isDigit = true) ∧
    Numeral.exponentValue (some (decide (exponent < 0), size)) = exponent := by
  refine ⟨_, rfl, ?_⟩
  have digits := digits_toDigits exponent.natAbs
  have written : Nat.ofDigitChars 10
      (if (Nat.toDigits 10 exponent.natAbs).length < 2 then '0' :: Nat.toDigits 10 exponent.natAbs
        else Nat.toDigits 10 exponent.natAbs) 0 = exponent.natAbs := by
    split
    · rw [Nat.ofDigitChars_cons]
      exact Nat.ofDigitChars_ten_toDigits
    · exact Nat.ofDigitChars_ten_toDigits
  refine ⟨?_, ?_, ?_⟩
  · split
    · exact List.cons_ne_nil _ _
    · exact Nat.toDigits_ne_nil
  · split
    · exact List.forall_mem_cons.mpr ⟨by decide, digits⟩
    · exact digits
  · unfold Numeral.exponentValue
    dsimp only
    rw [written]
    by_cases negative : exponent < 0
    · rw [if_pos (decide_eq_true negative)]
      omega
    · rw [if_neg (by simpa using negative)]
      omega

private def mantissaChars : List Char → List Char
  | [] => ['0']
  | [first] => [first]
  | first :: rest => first :: '.' :: rest

private theorem scientific_numeral (negative : Bool) {chars significant size : List Char}
    {zeros places : Nat} {exponent : Int} (digits : ∀ char ∈ chars, char.isDigit = true)
    (cut : chars = significant ++ List.replicate zeros '0')
    (exponentEq : exponent = chars.length - 1 - places) (sized : size ≠ [])
    (sizeDigits : ∀ char ∈ size, char.isDigit = true)
    (read : Numeral.exponentValue (some (decide (exponent < 0), size)) = exponent) :
    ∃ numeral : Numeral, numeral.Proper ∧ numeral.negative = negative ∧
      (numeral.fraction ≠ [] ∨ numeral.exponent ≠ none) ∧
      numeral.chars = Numeral.signChars negative ++
        (mantissaChars significant ++ 'e' :: (if exponent < 0 then '-' else '+') :: size) ∧
      numeral.magnitude = Nat.ofDigitChars 10 chars 0 / (10 : ℚ) ^ places := by
  have mark : Numeral.markChars (some (decide (exponent < 0), size)) =
      'e' :: (if exponent < 0 then '-' else '+') :: size := by
    by_cases below : exponent < 0
    · rw [if_pos below, decide_eq_true below]
      rfl
    · rw [if_neg below, decide_eq_false below]
      rfl
  have proper (whole fraction : List Char) (head : Char) (single : whole = [head])
      (headDigit : head.isDigit = true) (rest : ∀ char ∈ fraction, char.isDigit = true) :
      Numeral.Proper { negative, whole, fraction, exponent := some (decide (exponent < 0), size) } := by
    subst single
    refine ⟨List.forall_mem_singleton.mpr headDigit, List.cons_ne_nil _ _, ?_, rest, ?_⟩
    · intro zero
      rw [Option.some.inj zero]
    · rintro _ _ ⟨⟩
      exact ⟨sized, sizeDigits⟩
  have value : (Nat.ofDigitChars 10 chars 0 : ℚ) =
      Nat.ofDigitChars 10 significant 0 * (10 : ℚ) ^ zeros := by
    rw [cut, Nat.ofDigitChars_append, Nat.ofDigitChars_replicate_zero]
    push_cast
    ring
  have length := congrArg List.length cut
  rw [List.length_append, List.length_replicate] at length
  have significantDigits : ∀ char ∈ significant, char.isDigit = true := fun char member =>
    digits char (by rw [cut]; exact List.mem_append_left _ member)
  cases significant with
  | nil =>
      refine ⟨_, proper ['0'] [] '0' rfl (by decide) (fun _ impossible => by cases impossible), rfl,
        .inr (fun impossible => by cases impossible), ?_, ?_⟩
      · unfold Numeral.chars
        rw [mark]
        rfl
      · rw [value]
        have none : Nat.ofDigitChars 10 ['0'] 0 = 0 := rfl
        unfold Numeral.magnitude
        simp [none]
  | cons first rest =>
      obtain ⟨headDigit, restDigits⟩ := List.forall_mem_cons.mp significantDigits
      refine ⟨_, proper [first] rest first rfl headDigit restDigits, rfl,
        .inr (fun impossible => by cases impossible), ?_, ?_⟩
      · unfold Numeral.chars
        rw [mark]
        cases rest with
        | nil => rfl
        | cons second later => rfl
      · rw [value]
        unfold Numeral.magnitude
        dsimp only
        rw [read, exponentEq, length, List.length_cons]
        have power : ((rest.length + 1 + zeros : Nat) : Int) - 1 - places - rest.length =
            (zeros : Int) - places := by
          push_cast
          ring
        rw [power, zpow_sub₀ (by norm_num), zpow_natCast, zpow_natCast, List.singleton_append,
          mul_div_assoc]

private theorem fixed_numeral (negative : Bool) {chars padded : List Char} {places : Nat}
    (digits : ∀ char ∈ chars, char.isDigit = true)
    (leading : chars.head? = some '0' → chars = ['0'])
    (pad : padded = List.replicate (places + 1 - chars.length) '0' ++ chars) :
    ∃ numeral : Numeral, numeral.Proper ∧ numeral.negative = negative ∧
      (numeral.fraction ≠ [] ∨ numeral.exponent ≠ none) ∧
      numeral.chars = Numeral.signChars negative ++
        (padded.take (padded.length - places) ++ '.' ::
          (if (padded.drop (padded.length - places)).isEmpty then ['0']
            else padded.drop (padded.length - places))) ∧
      numeral.magnitude = Nat.ofDigitChars 10 chars 0 / (10 : ℚ) ^ places := by
  have length : padded.length = places + 1 - chars.length + chars.length := by
    rw [pad, List.length_append, List.length_replicate]
  have paddedDigits : ∀ char ∈ padded, char.isDigit = true := by
    intro char member
    rw [pad] at member
    rcases List.mem_append.mp member with zero | own
    · rw [List.eq_of_mem_replicate zero]
      decide
    · exact digits char own
  have value : Nat.ofDigitChars 10 padded 0 = Nat.ofDigitChars 10 chars 0 := by
    rw [pad, Nat.ofDigitChars_append, Nat.ofDigitChars_replicate_zero, Nat.mul_zero]
  have first : (padded.take (padded.length - places)).head? = some '0' →
      padded.take (padded.length - places) = ['0'] := by
    by_cases short : chars.length ≤ places
    · intro _
      have one : padded.length - places = 1 := by omega
      obtain ⟨zeros, count⟩ : ∃ zeros, places + 1 - chars.length = zeros + 1 :=
        ⟨places - chars.length, by omega⟩
      rw [one, pad, count, List.replicate_succ]
      rfl
    · have none : places + 1 - chars.length = 0 := by omega
      rw [none, List.replicate_zero, List.nil_append] at pad
      have kept : padded.length - places ≠ 0 := by omega
      rw [List.head?_take, if_neg kept, pad]
      intro zero
      have single := leading zero
      rw [single, List.length_singleton] at short ⊢
      exact List.take_of_length_le (by
        rw [List.length_singleton]
        omega)
  have whole : padded.take (padded.length - places) ≠ [] := by
    intro empty
    have count := congrArg List.length empty
    rw [List.length_take, List.length_nil] at count
    omega
  have proper (fraction : List Char) (rest : ∀ char ∈ fraction, char.isDigit = true) :
      (Numeral.mk negative (padded.take (padded.length - places)) fraction none).Proper :=
    ⟨fun char member => paddedDigits char (List.mem_of_mem_take member), whole, first, rest,
      fun _ _ impossible => by cases impossible⟩
  have shown (fraction : List Char) (pointed : fraction ≠ []) :
      (Numeral.mk negative (padded.take (padded.length - places)) fraction none).chars =
        Numeral.signChars negative ++
          (padded.take (padded.length - places) ++ '.' :: fraction) := by
    unfold Numeral.chars Numeral.pointChars
    dsimp only
    rw [if_neg pointed]
    change _ ++ (_ ++ ('.' :: fraction ++ [])) = _
    rw [List.append_nil]
  have count : (padded.drop (padded.length - places)).length = places := by
    rw [List.length_drop]
    omega
  by_cases fraction : padded.drop (padded.length - places) = []
  · rw [fraction, List.length_nil] at count
    subst count
    refine ⟨_, proper ['0'] (by decide), rfl, .inl (List.cons_ne_nil _ _), ?_, ?_⟩
    · rw [fraction]
      exact shown ['0'] (List.cons_ne_nil _ _)
    · unfold Numeral.magnitude
      dsimp only
      rw [Nat.sub_zero, List.take_length, Nat.ofDigitChars_append, value]
      change ((Nat.ofDigitChars 10 ['0'] (Nat.ofDigitChars 10 chars 0) : Nat) : ℚ) *
        (10 : ℚ) ^ ((0 : Int) - 1) = _
      rw [Nat.ofDigitChars_cons, Nat.ofDigitChars_nil]
      norm_num
      ring
  · refine ⟨_, proper _ (fun char member => paddedDigits char (List.mem_of_mem_drop member)), rfl,
      .inl fraction, ?_, ?_⟩
    · rw [if_neg (by rwa [List.isEmpty_iff])]
      exact shown _ fraction
    · unfold Numeral.magnitude
      dsimp only
      rw [List.take_append_drop, count, value]
      change _ * (10 : ℚ) ^ ((0 : Int) - places) = _
      rw [zero_sub, zpow_neg, zpow_natCast, div_eq_mul_inv]

theorem printDecimal_numeral (negative : Bool) (number places : Nat) :
    ∃ numeral : Numeral, numeral.Proper ∧ numeral.negative = negative ∧
      (numeral.fraction ≠ [] ∨ numeral.exponent ≠ none) ∧
      numeral.chars = Numeral.signChars negative ++
        (printDecimal (Nat.toDigits 10 number) places).toList ∧
      numeral.magnitude = number / (10 : ℚ) ^ places := by
  have digits := digits_toDigits number
  have nonempty : Nat.toDigits 10 number ≠ [] := Nat.toDigits_ne_nil
  have leading := leading_toDigits number
  have written := Nat.ofDigitChars_ten_toDigits (n := number)
  generalize Nat.toDigits 10 number = chars at digits nonempty leading written ⊢
  unfold printDecimal
  dsimp only
  split
  · obtain ⟨zeros, cut⟩ := dropTrailingZeros_append chars
    obtain ⟨size, sizeEq, sized, sizeDigits, read⟩ :=
      exponent_numeral ((chars.length : Int) - 1 - places)
    rw [sizeEq, String.toList_ofList, ← written]
    exact scientific_numeral negative digits cut rfl sized sizeDigits read
  · rw [String.toList_ofList, ← written]
    exact fixed_numeral negative digits leading rfl

/-! ### Floats with a finite decimal expansion -/

def isDecimal (value : ℚ) : Bool :=
  (decimalPlaces? value.den).isSome

theorem printFloat_numeral {value : ℚ} (decimal : isDecimal value = true) :
    ∃ numeral : Numeral, numeral.Proper ∧ (numeral.fraction ≠ [] ∨ numeral.exponent ≠ none) ∧
      numeral.chars = (printFloat (.finite value)).toList ∧ numeral.value = value := by
  unfold isDecimal at decimal
  obtain ⟨places, found⟩ := Option.isSome_iff_exists.mp decimal
  have exact := List.find?_some found
  have divides : value.den ∣ 10 ^ places := Nat.dvd_of_mod_eq_zero (eq_of_beq exact)
  obtain ⟨numeral, proper, sign, marked, chars, magnitude⟩ :=
    printDecimal_numeral (decide (value < 0)) (value.num.natAbs * (10 ^ places / value.den)) places
  refine ⟨numeral, proper, marked, ?_, ?_⟩
  · rw [chars]
    unfold printFloat
    dsimp only
    rw [found]
    dsimp only
    rw [String.toList_append]
    unfold Numeral.signChars
    by_cases negative : value < 0
    · rw [if_pos negative, decide_eq_true negative]
      rfl
    · rw [if_neg negative, decide_eq_false negative]
      rfl
  · have size : numeral.magnitude = |value| := by
      have denNonzero : (value.den : ℚ) ≠ 0 := Nat.cast_ne_zero.mpr value.den_nz
      have power : (10 : ℚ) ^ places ≠ 0 := by positivity
      have quotient : ((10 ^ places / value.den : Nat) : ℚ) = 10 ^ places / value.den := by
        rw [Nat.cast_div divides denNonzero]
        push_cast
        rfl
      have absolute : ((value.num.natAbs : Nat) : ℚ) = |(value.num : ℚ)| := by
        rw [Nat.cast_natAbs, Int.cast_abs]
      have parts : |value| = |(value.num : ℚ)| / value.den := by
        nth_rewrite 1 [← Rat.num_div_den value]
        rw [abs_div, Nat.abs_cast]
      rw [magnitude, Nat.cast_mul, quotient, absolute, parts]
      field_simp
    unfold Numeral.value
    rw [sign, size]
    by_cases negative : value < 0
    · rw [if_pos (decide_eq_true negative), abs_of_neg negative, neg_neg]
    · rw [if_neg (by simpa using negative), abs_of_nonneg (not_lt.mp negative)]

theorem parseFloat?_printFloat {value : ℚ} (decimal : isDecimal value = true) :
    parseFloat? (printFloat (.finite value)) = some (.finite value) := by
  obtain ⟨numeral, proper, _, chars, same⟩ := printFloat_numeral decimal
  have read := proper.parseFloat?
  rw [chars, String.ofList_toList, same] at read
  exact read

private theorem dvd_ten_pow_log {denominator power : Nat} (divides : denominator ∣ 10 ^ power) :
    denominator ∣ 10 ^ Nat.log2 denominator := by
  have nonzero : denominator ≠ 0 := by
    rintro rfl
    exact absurd (Nat.eq_zero_of_zero_dvd divides) (by positivity)
  have whole (places : Nat) : (10 : Nat) ^ places = 2 ^ places * 5 ^ places :=
    Nat.mul_pow 2 5 places
  rw [whole] at divides
  obtain ⟨twos, fives, twosDvd, fivesDvd, rfl⟩ := (Nat.dvd_mul).mp divides
  obtain ⟨two, _, rfl⟩ := (Nat.dvd_prime_pow Nat.prime_two).mp twosDvd
  obtain ⟨five, _, rfl⟩ := (Nat.dvd_prime_pow Nat.prime_five).mp fivesDvd
  have twoPart : 2 ^ two ≤ 2 ^ two * 5 ^ five := Nat.le_mul_of_pos_right _ (by positivity)
  have fivePart : 2 ^ five ≤ 2 ^ two * 5 ^ five :=
    (Nat.pow_le_pow_left (by decide) five).trans (Nat.le_mul_of_pos_left _ (by positivity))
  have twoLog := (Nat.le_log2 nonzero).mpr twoPart
  have fiveLog := (Nat.le_log2 nonzero).mpr fivePart
  rw [whole]
  exact Nat.mul_dvd_mul (Nat.pow_dvd_pow 2 twoLog) (Nat.pow_dvd_pow 5 fiveLog)

theorem isDecimal_of_dvd {value : ℚ} {power : Nat} (divides : value.den ∣ 10 ^ power) :
    isDecimal value = true := by
  unfold isDecimal decimalPlaces?
  rw [List.find?_isSome]
  refine ⟨Nat.log2 value.den, List.mem_range.mpr (Nat.lt_succ_self _), ?_⟩
  exact beq_iff_eq.mpr (Nat.mod_eq_zero_of_dvd (dvd_ten_pow_log divides))

theorem isDecimal_intCast (value : Int) : isDecimal (value : ℚ) = true := by
  have divides : ((value : ℚ)).den ∣ 10 ^ 0 := by
    rw [Rat.den_intCast]
    exact one_dvd _
  exact isDecimal_of_dvd divides

theorem isDecimal_scaleByTen (digits : Int) (exponent : Int) :
    isDecimal (scaleByTen (digits : ℚ) exponent) = true := by
  unfold scaleByTen
  split
  · have quotient : (digits : ℚ) / 10 ^ exponent.natAbs =
        Rat.divInt digits (10 ^ exponent.natAbs : Nat) := by
      rw [Rat.divInt_eq_div]
      push_cast
      rfl
    have divides := Rat.den_dvd digits (10 ^ exponent.natAbs : Nat)
    rw [← quotient] at divides
    exact isDecimal_of_dvd (Int.natCast_dvd_natCast.mp divides)
  · have whole : (digits : ℚ) * 10 ^ exponent.natAbs = ((digits * 10 ^ exponent.natAbs : Int) : ℚ) := by
      push_cast
      rfl
    rw [whole]
    exact isDecimal_intCast _

theorem isDecimal_of_parseFloat? {text : String} {value : ℚ}
    (read : parseFloat? text = some (.finite value)) : isDecimal value = true := by
  have scaled (sign : Int) (whole fraction : List Nat) (after : List Char)
      (same : (if whole = [] ∧ fraction = [] then none
        else (takeExponent after).map fun exponent => PyFloat.finite (sign * scaleByTen
          (digitsValue (whole ++ fraction)) (exponent - fraction.length))) =
        some (.finite value)) : isDecimal value = true := by
    split at same
    · cases same
    · obtain ⟨exponent, _, same⟩ := Option.map_eq_some_iff.mp same
      have joined : (sign : ℚ) * scaleByTen (digitsValue (whole ++ fraction))
          (exponent - fraction.length) = scaleByTen
            ((sign * digitsValue (whole ++ fraction) : Int) : ℚ) (exponent - fraction.length) := by
        rw [scaleByTen_eq, scaleByTen_eq]
        push_cast
        ring
      rw [joined] at same
      rw [← PyFloat.finite.inj same]
      exact isDecimal_scaleByTen _ _
  unfold parseFloat? at read
  split at read
  rename_i sign chars _
  dsimp only at read
  split at read
  · cases read
  split at read
  · split at read <;> cases read
  exact scaled _ _ _ _ read

end Algotradify.Py
