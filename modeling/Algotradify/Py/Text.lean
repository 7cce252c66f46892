/-
Strings of the scripting language: case conversion, stripping, printing and
the parsing behind `int(...)` and `float(...)`.

Case conversion keeps every character whose upper case form is not ASCII. The
few other characters with an ASCII form are converted, so that a comparison of
a converted text with an ASCII constant has the answer it has in the language.
-/

import Mathlib.Data.List.DropRight
import Algotradify.Py.Value

namespace Algotradify.Py

/-- A condition on the characters of a text is decided along the text. -/
instance decidableForallMem (chars : List Char) (condition : Char → Prop)
    [DecidablePred condition] : Decidable (∀ char ∈ chars, condition char) :=
  List.decidableBAll condition chars

/-! ### Stripping and case conversion -/

/-- The characters `str.strip` removes. -/
def isSpace (char : Char) : Bool :=
  let code := char.toNat
  (9 ≤ code && code ≤ 13) || (28 ≤ code && code ≤ 32) || code == 0x85 || code == 0xa0 ||
    code == 0x1680 || (0x2000 ≤ code && code ≤ 0x200a) || code == 0x2028 || code == 0x2029 ||
    code == 0x202f || code == 0x205f || code == 0x3000

def stripChars (chars : List Char) : List Char :=
  ((chars.dropWhile isSpace).reverse.dropWhile isSpace).reverse

/-- `text.strip()`. -/
def strip (text : String) : String :=
  String.ofList (stripChars text.toList)

def upperChar (char : Char) : List Char :=
  match char.toNat with
  | 0xdf => ['S', 'S']
  | 0x131 => ['I']
  | 0x17f => ['S']
  | 0xfb00 => ['F', 'F']
  | 0xfb01 => ['F', 'I']
  | 0xfb02 => ['F', 'L']
  | 0xfb03 => ['F', 'F', 'I']
  | 0xfb04 => ['F', 'F', 'L']
  | 0xfb05 => ['S', 'T']
  | 0xfb06 => ['S', 'T']
  | _ => [char.toUpper]

/-- `text.upper()`. -/
def upper (text : String) : String :=
  String.ofList (text.toList.flatMap upperChar)

/-- The Kelvin sign is the only character outside ASCII with an ASCII lower case form. -/
def lowerChar (char : Char) : Char :=
  if char.toNat = 0x212a then 'k' else char.toLower

/-- `text.lower()`. -/
def lower (text : String) : String :=
  String.ofList (text.toList.map lowerChar)

/-- `text.startswith(start)`. -/
def startsWith (text start : String) : Bool :=
  start.toList.isPrefixOf text.toList

theorem append_ne_of_startsWith {start target : String} (text : String)
    (other : startsWith target start = false) : start ++ text ≠ target := by
  rintro rfl
  unfold startsWith at other
  rw [String.toList_append, List.isPrefixOf_iff_prefix.mpr (List.prefix_append _ _)] at other
  cases other

theorem strip_eq_empty (text : String) :
    strip text = "" ↔ ∀ char ∈ text.toList, isSpace char = true := by
  rw [strip, ← String.toList_inj, String.toList_ofList, String.toList_empty, stripChars,
    List.reverse_eq_nil_iff, List.dropWhile_eq_nil_iff]
  constructor
  · intro spaces
    by_contra inked
    have rest : text.toList.dropWhile isSpace ≠ [] :=
      fun empty => inked (List.dropWhile_eq_nil_iff.mp empty)
    have headSpace := spaces _ (List.mem_reverse.mpr (List.head_mem rest))
    rw [List.head_dropWhile_not isSpace rest] at headSpace
    cases headSpace
  · intro spaces char member
    rw [List.dropWhile_eq_nil_iff.mpr spaces] at member
    cases member

theorem strip_append_ne_empty {first : String} (second : String) (visible : strip first ≠ "") :
    strip (first ++ second) ≠ "" := by
  intro blank
  rw [strip_eq_empty, String.toList_append] at blank
  apply visible
  rw [strip_eq_empty]
  intro char member
  exact blank char (List.mem_append_left _ member)

private theorem stripChars_eq (chars : List Char) :
    stripChars chars = (chars.dropWhile isSpace).rdropWhile isSpace := rfl

theorem strip_strip (text : String) : strip (strip text) = strip text := by
  rw [strip, strip, String.toList_ofList, stripChars_eq, stripChars_eq]
  have front : ((text.toList.dropWhile isSpace).rdropWhile isSpace).dropWhile isSpace =
      (text.toList.dropWhile isSpace).rdropWhile isSpace := by
    cases kept : (text.toList.dropWhile isSpace).rdropWhile isSpace with
    | nil => rfl
    | cons head rest =>
        have leads : head :: rest <+: text.toList.dropWhile isSpace :=
          kept ▸ List.rdropWhile_prefix isSpace _
        obtain ⟨tail, whole⟩ := leads
        have nonempty : text.toList.dropWhile isSpace ≠ [] := by
          rw [← whole]
          exact List.cons_ne_nil _ _
        have inked := List.head_dropWhile_not isSpace nonempty
        have sameHead : (text.toList.dropWhile isSpace).head nonempty = head := by
          simp only [← whole, List.cons_append, List.head_cons]
        rw [sameHead] at inked
        rw [List.dropWhile_cons, inked]
        rfl
  rw [front, List.rdropWhile_idempotent]

theorem strip_eq_self {text : String} (solid : ∀ char ∈ text.toList, isSpace char = false) :
    strip text = text := by
  have solidDrop : ∀ chars : List Char, (∀ char ∈ chars, isSpace char = false) →
      chars.dropWhile isSpace = chars := by
    intro chars inked
    cases chars with
    | nil => rfl
    | cons head rest =>
        rw [List.dropWhile_cons, inked head List.mem_cons_self]
        rfl
  rw [strip, stripChars, solidDrop _ solid, solidDrop _ (fun char member =>
    solid char (List.mem_reverse.mp member)), List.reverse_reverse, String.ofList_toList]

/-! ### Printing -/

/-- `str(value)` of an integer. -/
def printInt (value : Int) : String :=
  if value < 0 then "-" ++ String.ofList (Nat.toDigits 10 value.natAbs)
  else String.ofList (Nat.toDigits 10 value.natAbs)

/-- The least number of decimals that writes a fraction with this denominator
exactly, when there is one. -/
def decimalPlaces? (denominator : Nat) : Option Nat :=
  (List.range (Nat.log2 denominator + 1)).find? fun places => 10 ^ places % denominator == 0

def dropTrailingZeros (digits : List Char) : List Char :=
  (digits.reverse.dropWhile (· == '0')).reverse

/-- Decimal notation of `digits * 10 ^ (-places)`: fixed between `1e-4` and
`1e16`, with an exponent outside that range. -/
def printDecimal (digits : List Char) (places : Nat) : String :=
  let exponent : Int := digits.length - 1 - places
  if exponent < -4 ∨ 16 ≤ exponent then
    let significant := dropTrailingZeros digits
    let mantissa :=
      match significant with
      | [] => ['0']
      | [first] => [first]
      | first :: rest => first :: '.' :: rest
    let size := Nat.toDigits 10 exponent.natAbs
    let padded := if size.length < 2 then '0' :: size else size
    String.ofList (mantissa ++ 'e' :: (if exponent < 0 then '-' else '+') :: padded)
  else
    let padded := List.replicate (places + 1 - digits.length) '0' ++ digits
    let whole := padded.take (padded.length - places)
    let fraction := padded.drop (padded.length - places)
    String.ofList (whole ++ '.' :: (if fraction.isEmpty then ['0'] else fraction))

/-- `repr(value)` of a float. A rational without a finite decimal expansion is
no value that a program prints; it is written as a fraction. -/
def printFloat : PyFloat → String
  | .nan => "nan"
  | .posInf => "inf"
  | .negInf => "-inf"
  | .finite value =>
      let sign := if value < 0 then "-" else ""
      match decimalPlaces? value.den with
      | none => sign ++ String.ofList (Nat.toDigits 10 value.num.natAbs) ++ "/" ++
          String.ofList (Nat.toDigits 10 value.den)
      | some places =>
          let scaled := value.num.natAbs * (10 ^ places / value.den)
          sign ++ printDecimal (Nat.toDigits 10 scaled) places

private def hexDigit (value : Nat) : Char :=
  (Nat.toDigits 16 value).headD '0'

private def singleQuote : Char := Char.ofNat 39
private def doubleQuote : Char := Char.ofNat 34
private def backslash : Char := Char.ofNat 92

private def escapeChar (quote char : Char) : List Char :=
  if char = backslash ∨ char = quote then [backslash, char]
  else if char.toNat = 10 then [backslash, 'n']
  else if char.toNat = 13 then [backslash, 'r']
  else if char.toNat = 9 then [backslash, 't']
  else if char.toNat < 32 ∨ char.toNat = 127 then
    [backslash, 'x', hexDigit (char.toNat / 16), hexDigit (char.toNat % 16)]
  else [char]

/-- `repr(text)`: single quotes unless the text holds some and no double quote. -/
def printQuoted (text : String) : String :=
  let chars := text.toList
  let quote :=
    if chars.contains singleQuote && !chars.contains doubleQuote then doubleQuote else singleQuote
  String.ofList (quote :: chars.flatMap (escapeChar quote) ++ [quote])

mutual

/-- `repr(value)`. -/
def printRepr : PyValue → String
  | .none => "None"
  | .bool flag => if flag then "True" else "False"
  | .int value => printInt value
  | .float value => printFloat value
  | .str text => printQuoted text
  | .list items => "[" ++ printItems items ++ "]"
  | .dict entries => "\x7b" ++ printEntries entries ++ "\x7d"

def printItems : List PyValue → String
  | [] => ""
  | [item] => printRepr item
  | item :: rest => printRepr item ++ ", " ++ printItems rest

def printEntries : List (String × PyValue) → String
  | [] => ""
  | [(key, value)] => printQuoted key ++ ": " ++ printRepr value
  | (key, value) :: rest => printQuoted key ++ ": " ++ printRepr value ++ ", " ++ printEntries rest

end

/-- `str(value)`: a string is itself, everything else prints its `repr`. -/
def printValue : PyValue → String
  | .str text => text
  | other => printRepr other

@[simp] theorem printValue_str (text : String) : printValue (.str text) = text := rfl

private theorem printInt_ne_empty (value : Int) : printInt value ≠ "" := by
  intro empty
  have lists := congrArg String.toList empty
  unfold printInt at lists
  split at lists
  · rw [String.toList_append, String.toList_empty, List.append_eq_nil_iff] at lists
    exact absurd lists.1 (by decide)
  · rw [String.toList_ofList, String.toList_empty] at lists
    exact Nat.toDigits_ne_nil lists

private theorem printFloat_ne_empty (value : PyFloat) : printFloat value ≠ "" := by
  intro empty
  have lists := congrArg String.toList empty
  cases value with
  | nan | posInf | negInf => exact absurd lists (by decide)
  | finite value =>
      unfold printFloat at lists
      dsimp only at lists
      split at lists
      · simp only [String.toList_append, String.toList_ofList, String.toList_empty,
          List.append_eq_nil_iff] at lists
        exact Nat.toDigits_ne_nil lists.2
      · unfold printDecimal at lists
        dsimp only at lists
        rw [String.toList_append, String.toList_empty, List.append_eq_nil_iff] at lists
        have digits := lists.2
        split at digits
        · rw [String.toList_ofList] at digits
          exact List.append_ne_nil_of_right_ne_nil _ (List.cons_ne_nil _ _) digits
        · rw [String.toList_ofList] at digits
          exact List.append_ne_nil_of_right_ne_nil _ (List.cons_ne_nil _ _) digits

theorem printValue_eq_empty_iff (value : PyValue) : printValue value = "" ↔ value = .str "" := by
  constructor
  · intro empty
    cases value with
    | none => exact absurd empty (by decide)
    | bool flag => cases flag <;> exact absurd empty (by decide)
    | int value => exact absurd empty (printInt_ne_empty value)
    | float value => exact absurd empty (printFloat_ne_empty value)
    | str text => exact congrArg PyValue.str empty
    | list items | dict items =>
        have lists := congrArg String.toList empty
        simp only [printValue, printRepr, String.toList_append, String.toList_empty,
          List.append_eq_nil_iff] at lists
        exact absurd lists.1.1 (by decide)
  · intro same
    rw [same]
    rfl

theorem printValue_ne_empty {value : PyValue} (truthy : value.truthy = true) :
    printValue value ≠ "" := by
  intro empty
  rw [(printValue_eq_empty_iff value).mp empty] at truthy
  exact absurd truthy (by decide)

/-! ### Parsing numbers -/

def digitZeros : List Nat :=
  [0x30, 0x660, 0x6f0, 0x7c0, 0x966, 0x9e6, 0xa66, 0xae6, 0xb66, 0xbe6, 0xc66, 0xce6, 0xd66,
    0xde6, 0xe50, 0xed0, 0xf20, 0x1040, 0x1090, 0x17e0, 0x1810, 0x1946, 0x19d0, 0x1a80, 0x1a90,
    0x1b50, 0x1bb0, 0x1c40, 0x1c50, 0xa620, 0xa8d0, 0xa900, 0xa9d0, 0xa9f0, 0xaa50, 0xabf0,
    0xff10, 0x104a0, 0x10d30, 0x11066, 0x110f0, 0x11136, 0x111d0, 0x112f0, 0x11450, 0x114d0,
    0x11650, 0x116c0, 0x11730, 0x118e0, 0x11950, 0x11c50, 0x11d50, 0x11da0, 0x11f50, 0x16a60,
    0x16ac0, 0x16b50, 0x1d7ce, 0x1d7d8, 0x1d7e2, 0x1d7ec, 0x1d7f6, 0x1e140, 0x1e2f0, 0x1e4f0,
    0x1e950, 0x1fbf0]

def digit? (char : Char) : Option Nat :=
  (digitZeros.find? fun first => first ≤ char.toNat && char.toNat < first + 10).map
    fun first => char.toNat - first

/-- The longest run of digits, a single underscore allowed between two of them. -/
def takeDigits (digits : List Nat) : List Char → List Nat × List Char
  | [] => (digits, [])
  | char :: rest =>
      match digit? char with
      | some digit => takeDigits (digits ++ [digit]) rest
      | none =>
          if char = '_' ∧ digits ≠ [] then
            match rest with
            | [] => (digits, char :: rest)
            | next :: after =>
                match digit? next with
                | some digit => takeDigits (digits ++ [digit]) after
                | none => (digits, char :: rest)
          else (digits, char :: rest)

def digitsValue (digits : List Nat) : Nat :=
  digits.foldl (fun value digit => 10 * value + digit) 0

def takeSign : List Char → Int × List Char
  | '-' :: rest => (-1, rest)
  | '+' :: rest => (1, rest)
  | chars => (1, chars)

def parseInt? (text : String) : Option Int :=
  let (sign, chars) := takeSign (stripChars text.toList)
  match takeDigits [] chars with
  | ([], _) => none
  | (digits, []) => some (sign * digitsValue digits)
  | (_, _ :: _) => none

def takeExponent : List Char → Option Int
  | [] => some 0
  | mark :: chars =>
      if mark = 'e' ∨ mark = 'E' then
        let (sign, rest) := takeSign chars
        match takeDigits [] rest with
        | ([], _) => none
        | (digits, []) => some (sign * digitsValue digits)
        | (_, _ :: _) => none
      else none

def scaleByTen (value : ℚ) (exponent : Int) : ℚ :=
  if exponent < 0 then value / 10 ^ exponent.natAbs else value * 10 ^ exponent.natAbs

def parseFloat? (text : String) : Option PyFloat :=
  let (sign, chars) := takeSign (stripChars text.toList)
  let name := chars.map lowerChar
  if name = "nan".toList then some .nan
  else if name = "inf".toList ∨ name = "infinity".toList then
    some (if sign < 0 then .negInf else .posInf)
  else
    let (whole, afterWhole) := takeDigits [] chars
    let (fraction, afterFraction) :=
      match afterWhole with
      | '.' :: rest => takeDigits [] rest
      | rest => ([], rest)
    if whole = [] ∧ fraction = [] then none
    else (takeExponent afterFraction).map fun exponent =>
      .finite (sign * scaleByTen (digitsValue (whole ++ fraction)) (exponent - fraction.length))

example : parseFloat? " 1_00.5e-1 " = some (.finite (201 / 20)) := by decide +kernel

example : printFloat (.finite (201 / 20)) = "10.05" := by decide +kernel

end Algotradify.Py
