/-
A written string is read back, whichever characters the layout escapes.
-/

import Algotradify.Json.Scan

namespace Algotradify.Json

open Py

variable {char : Char}

/-! ### Escapes -/

private theorem hexValue?_hexDigit {value : Nat} (small : value < 16) :
    hexValue? (hexDigit value) = some value := by
  have listed : ∀ value < 16, hexValue? (hexDigit value) = some value := by decide
  exact listed value small

private theorem scanHexFour_digits {code : Nat} (small : code < 65536) (rest : List Char) :
    scanHexFour (hexDigit (code / 4096 % 16) :: hexDigit (code / 256 % 16) ::
      hexDigit (code / 16 % 16) :: hexDigit (code % 16) :: rest) = some (code, rest) := by
  have whole : code / 4096 % 16 * 4096 + code / 256 % 16 * 256 + code / 16 % 16 * 16 + code % 16 =
      code := by omega
  unfold scanHexFour
  dsimp only
  rw [hexValue?_hexDigit (Nat.mod_lt _ (by decide)), hexValue?_hexDigit (Nat.mod_lt _ (by decide)),
    hexValue?_hexDigit (Nat.mod_lt _ (by decide)), hexValue?_hexDigit (Nat.mod_lt _ (by decide))]
  change some (code / 4096 % 16 * 4096 + code / 256 % 16 * 256 + code / 16 % 16 * 16 + code % 16,
    rest) = some (code, rest)
  rw [whole]

private theorem charOfCode?_toNat (char : Char) : charOfCode? char.toNat = some char := by
  have valid : char.toNat.isValidChar := char.valid
  unfold charOfCode?
  rw [if_pos valid, Char.ofNat_toNat]

private theorem not_surrogate (char : Char) : char.toNat < 0xd800 ∨ 0xdfff < char.toNat := by
  have valid : char.toNat.isValidChar := char.valid
  unfold Nat.isValidChar at valid
  omega

private theorem scanUnicode_single {chars rest : List Char}
    (digits : scanHexFour chars = some (char.toNat, rest)) :
    scanUnicode chars = some (char, rest) := by
  have single : ¬(0xd800 ≤ char.toNat ∧ char.toNat ≤ 0xdbff) := by
    have apart := not_surrogate char
    omega
  unfold scanUnicode
  rw [digits, Option.bind_eq_bind, Option.bind_some]
  dsimp only
  rw [if_neg single, charOfCode?_toNat]
  rfl

private theorem scanUnicode_pair {chars after rest : List Char} {high low : Nat}
    (first : scanHexFour chars = some (high, backslash :: 'u' :: after))
    (second : scanHexFour after = some (low, rest)) (highBounds : 0xd800 ≤ high ∧ high ≤ 0xdbff)
    (lowBounds : 0xdc00 ≤ low ∧ low ≤ 0xdfff)
    (whole : 0x10000 + (high - 0xd800) * 1024 + (low - 0xdc00) = char.toNat) :
    scanUnicode chars = some (char, rest) := by
  unfold scanUnicode
  rw [first, Option.bind_eq_bind, Option.bind_some]
  dsimp only
  rw [if_pos highBounds, if_pos ⟨rfl, rfl⟩, second, Option.bind_eq_bind, Option.bind_some]
  dsimp only
  rw [if_pos lowBounds, whole, charOfCode?_toNat]
  rfl

private theorem scanChar_unicodeEscape (small : char.toNat < 0x10000) (rest : List Char) :
    scanChar (unicodeEscape char.toNat ++ rest) = some (char, rest) :=
  scanUnicode_single (scanHexFour_digits small rest)

private theorem scanChar_surrogates (large : 0x10000 ≤ char.toNat) (rest : List Char) :
    scanChar (unicodeEscape (0xd800 + (char.toNat - 0x10000) / 1024) ++
      unicodeEscape (0xdc00 + (char.toNat - 0x10000) % 1024) ++ rest) = some (char, rest) := by
  have valid : char.toNat.isValidChar := char.valid
  have bound : char.toNat < 0x110000 := by
    unfold Nat.isValidChar at valid
    omega
  have second : (char.toNat - 0x10000) % 1024 < 1024 := Nat.mod_lt _ (by decide)
  have highBounds : 0xd800 ≤ 0xd800 + (char.toNat - 0x10000) / 1024 ∧
      0xd800 + (char.toNat - 0x10000) / 1024 ≤ 0xdbff := by omega
  have lowBounds : 0xdc00 ≤ 0xdc00 + (char.toNat - 0x10000) % 1024 ∧
      0xdc00 + (char.toNat - 0x10000) % 1024 ≤ 0xdfff := by omega
  have whole : 0x10000 + (0xd800 + (char.toNat - 0x10000) / 1024 - 0xd800) * 1024 +
      (0xdc00 + (char.toNat - 0x10000) % 1024 - 0xdc00) = char.toNat := by omega
  rw [List.append_assoc]
  exact scanUnicode_pair (scanHexFour_digits (by omega) _) (scanHexFour_digits (by omega) rest)
    highBounds lowBounds whole

private theorem scanChar_escapeLetter {code : Nat} {letter : Char} (rest : List Char)
    (found : shortEscapes.lookup code = some letter) :
    scanChar (backslash :: letter :: rest) = some (Char.ofNat code, rest) := by
  have listed : ∀ entry ∈ shortEscapes, entry.2 ≠ 'u' ∧
      escapeLetters.lookup entry.2 = some (Char.ofNat entry.1) := by decide
  obtain ⟨notUnicode, spelled⟩ := listed _ (Assoc.mem_of_lookup found)
  unfold scanChar
  dsimp only at notUnicode spelled ⊢
  rw [if_pos rfl]
  rw [if_neg notUnicode, spelled]
  rfl

private theorem not_special (plain : shortEscapes.lookup char.toNat = none) :
    char ≠ quoteMark ∧ char ≠ backslash := by
  constructor
  · rintro rfl
    exact absurd plain (by decide)
  · rintro rfl
    exact absurd plain (by decide)

theorem scanChar_escapeChar (ensureAscii : Bool) (char : Char) (rest : List Char) :
    scanChar (escapeChar ensureAscii char ++ rest) = some (char, rest) := by
  unfold escapeChar
  cases special : shortEscapes.lookup char.toNat with
  | some letter =>
      have read := scanChar_escapeLetter rest special
      rw [Char.ofNat_toNat] at read
      exact read
  | none =>
      dsimp only
      split
      · exact scanChar_unicodeEscape (by omega) rest
      · rename_i visible
        split
        · split
          · rename_i small
            exact scanChar_unicodeEscape small rest
          · rename_i large
            exact scanChar_surrogates (by omega) rest
        · change scanChar (char :: rest) = _
          unfold scanChar
          dsimp only
          rw [if_neg (not_special special).2, if_neg visible]

theorem escapeChar_cons (ensureAscii : Bool) (char : Char) :
    ∃ head tail, escapeChar ensureAscii char = head :: tail ∧ head ≠ quoteMark := by
  unfold escapeChar
  cases special : shortEscapes.lookup char.toNat with
  | some letter => exact ⟨_, _, rfl, by decide⟩
  | none =>
      dsimp only
      split
      · exact ⟨_, _, rfl, by decide⟩
      · split
        · split
          · exact ⟨_, _, rfl, by decide⟩
          · exact ⟨_, _, rfl, by decide⟩
        · exact ⟨_, _, rfl, (not_special special).1⟩

/-! ### Strings -/

private theorem scanString_escaped (ensureAscii : Bool) (read chars rest : List Char) {fuel : Nat}
    (enough : chars.length < fuel) :
    scanString fuel read (chars.flatMap (escapeChar ensureAscii) ++ quoteMark :: rest) =
      some (String.ofList (read ++ chars), rest) := by
  induction chars generalizing read fuel with
  | nil =>
      obtain ⟨more, rfl⟩ := Nat.exists_eq_succ_of_ne_zero (Nat.ne_of_gt enough)
      rw [List.append_nil, List.flatMap_nil, List.nil_append]
      unfold scanString
      exact if_pos rfl
  | cons char chars ih =>
      obtain ⟨more, rfl⟩ := Nat.exists_eq_succ_of_ne_zero (Nat.ne_zero_of_lt enough)
      obtain ⟨head, tail, shape, apart⟩ := escapeChar_cons ensureAscii char
      have first := scanChar_escapeChar ensureAscii char
        (chars.flatMap (escapeChar ensureAscii) ++ quoteMark :: rest)
      rw [List.flatMap_cons, List.append_assoc]
      rw [shape, List.cons_append] at first ⊢
      unfold scanString
      dsimp only
      rw [if_neg apart, first]
      change scanString more (read ++ [char]) _ = _
      rw [ih (read ++ [char]) (by rw [List.length_cons] at enough; omega), List.append_assoc]
      rfl

theorem length_writeString (ensureAscii : Bool) (text : String) :
    text.toList.length + 2 ≤ (writeString ensureAscii text).length := by
  have each (chars : List Char) :
      chars.length ≤ (chars.flatMap (escapeChar ensureAscii)).length := by
    induction chars with
    | nil => exact Nat.le_refl 0
    | cons char chars ih =>
        obtain ⟨head, tail, shape, _⟩ := escapeChar_cons ensureAscii char
        rw [List.flatMap_cons, List.length_append, shape, List.length_cons, List.length_cons]
        omega
  have inner := each text.toList
  unfold writeString
  rw [List.length_cons, List.length_append, List.length_singleton]
  omega

theorem scanString_writeString (ensureAscii : Bool) (text : String) (rest : List Char) {fuel : Nat}
    (enough : text.toList.length < fuel) :
    scanString fuel [] (text.toList.flatMap (escapeChar ensureAscii) ++ quoteMark :: rest) =
      some (text, rest) := by
  rw [scanString_escaped ensureAscii [] text.toList rest enough, List.nil_append,
    String.ofList_toList]

end Algotradify.Json
