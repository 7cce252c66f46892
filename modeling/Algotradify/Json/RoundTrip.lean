/-
A written value is read back, whatever the layout and whatever follows it.
-/

import Algotradify.Json.Numbers
import Algotradify.Json.Strings

namespace Algotradify.Json

open Py

/-! ### Well-formed values -/

mutual

/-- What holds of every value of the language: no dictionary has a key twice, and a
float is the number that its printed form denotes. -/
def wellFormed : PyValue → Bool
  | .none => true
  | .bool _ => true
  | .int _ => true
  | .float (.finite value) => isDecimal value
  | .float _ => true
  | .str _ => true
  | .list items => wellFormedItems items
  | .dict entries => decide (entries.map Prod.fst).Nodup && wellFormedEntries entries

def wellFormedItems : List PyValue → Bool
  | [] => true
  | item :: rest => wellFormed item && wellFormedItems rest

def wellFormedEntries : List (String × PyValue) → Bool
  | [] => true
  | (_, value) :: rest => wellFormed value && wellFormedEntries rest

end

theorem wellFormed_dict {entries : PyDict} :
    wellFormed (.dict entries) = true ↔
      Assoc.Distinct entries ∧ wellFormedEntries entries = true := by
  unfold wellFormed
  rw [Bool.and_eq_true, decide_eq_true_eq]
  rfl

structure JsonValue where
  value : PyValue
  formed : wellFormed value = true

theorem wellFormed_none : wellFormed .none = true := rfl

def JsonValue.missing : JsonValue :=
  { value := .none, formed := wellFormed_none }

/-! ### White space of the layout -/

theorem skipSpace_solid {char : Char} (after : List Char) (solid : isJsonSpace char = false) :
    skipSpace (char :: after) = char :: after := by
  unfold skipSpace
  rw [List.dropWhile_cons, solid]
  rfl

private theorem skipSpace_append {spaces : List Char} (rest : List Char)
    (allSpace : ∀ char ∈ spaces, isJsonSpace char = true) :
    skipSpace (spaces ++ rest) = skipSpace rest := by
  unfold skipSpace
  exact List.dropWhile_append_of_pos allSpace

theorem skipSpace_newline (layout : Layout) (level : Nat) (rest : List Char) :
    skipSpace (layout.newline level ++ rest) = skipSpace rest := by
  apply skipSpace_append
  intro char member
  unfold Layout.newline at member
  split at member
  · cases member
  · rcases List.mem_cons.mp member with rfl | member
    · decide
    · rw [List.eq_of_mem_replicate member]
      decide

theorem skipSpace_replicate (count : Nat) (rest : List Char) :
    skipSpace (List.replicate count ' ' ++ rest) = skipSpace rest := by
  apply skipSpace_append
  intro char member
  rw [List.eq_of_mem_replicate member]
  decide

private theorem ends_newline (layout : Layout) (level : Nat) {char : Char} (after : List Char)
    (delimiter : char ∈ [',', ']', closeBrace, '\n']) :
    Ends (layout.newline level ++ char :: after) := by
  unfold Layout.newline
  split
  · exact ends_cons delimiter
  · exact ends_cons (by decide)

theorem ends_writeItems (layout : Layout) (level : Nat) (items : List PyValue)
    (rest : List Char) : Ends (writeItems layout level items ++ rest) := by
  cases items with
  | nil =>
      unfold writeItems
      rw [List.append_assoc]
      exact ends_newline layout level rest (by decide)
  | cons item items =>
      unfold writeItems
      exact ends_cons (by decide)

theorem ends_writeEntries (layout : Layout) (level : Nat) (entries : List (String × PyValue))
    (rest : List Char) : Ends (writeEntries layout level entries ++ rest) := by
  cases entries with
  | nil =>
      unfold writeEntries
      rw [List.append_assoc]
      exact ends_newline layout level rest (by decide)
  | cons entry entries =>
      unfold writeEntries
      exact ends_cons (by decide)

/-! ### The first character of a value -/

/-- A character that may start a value: no space and no closing bracket. -/
def opens (char : Char) : Bool :=
  !isJsonSpace char && char != ']' && char != closeBrace

private theorem numeral_head (numeral : Numeral) (proper : numeral.Proper) :
    ∃ char after, numeral.chars = Numeral.signChars numeral.negative ++ char :: after ∧
      char.isDigit = true := by
  obtain ⟨char, after, whole⟩ := List.exists_cons_of_ne_nil proper.nonempty
  refine ⟨char, after ++ (Numeral.pointChars numeral.fraction ++
    Numeral.markChars numeral.exponent), ?_, ?_⟩
  · unfold Numeral.chars
    rw [whole]
    rfl
  · exact proper.whole char (by rw [whole]; exact List.mem_cons_self)

private theorem digit_opens {char : Char} (digit : char.isDigit = true) :
    opens char = true ∧ char ≠ quoteMark ∧ char ≠ openBrace ∧ char ≠ '[' := by
  have listed : ∀ char ∈ "0123456789".toList,
      opens char = true ∧ char ≠ quoteMark ∧ char ≠ openBrace ∧ char ≠ '[' := by decide
  exact listed char (mem_digits digit)

private theorem number_head {numeral : Numeral} (proper : numeral.Proper) :
    ∃ head tail, numeral.chars = head :: tail ∧ opens head = true ∧ head ≠ quoteMark ∧
      head ≠ openBrace ∧ head ≠ '[' := by
  obtain ⟨char, after, chars, digit⟩ := numeral_head numeral proper
  rw [chars]
  unfold Numeral.signChars
  split
  · exact ⟨_, _, rfl, by decide, by decide, by decide, by decide⟩
  · exact ⟨_, _, rfl, digit_opens digit⟩

theorem write_head (layout : Layout) (level : Nat) {value : PyValue}
    (formed : wellFormed value = true) :
    ∃ head tail, write layout level value = head :: tail ∧ opens head = true := by
  cases value with
  | none =>
      unfold write
      exact ⟨_, _, rfl, by decide⟩
  | bool flag =>
      unfold write
      cases flag with
      | false => exact ⟨_, _, rfl, by decide⟩
      | true => exact ⟨_, _, rfl, by decide⟩
  | int value =>
      obtain ⟨head, tail, shape, starts, _⟩ := number_head (Numeral.ofInt_proper value)
      unfold write
      rw [← Numeral.ofInt_chars, shape]
      exact ⟨head, tail, rfl, starts⟩
  | float value =>
      unfold write
      cases value with
      | nan | posInf | negInf =>
          unfold writeFloat
          exact ⟨_, _, rfl, by decide⟩
      | finite value =>
          unfold wellFormed at formed
          obtain ⟨numeral, proper, _, chars, _⟩ := printFloat_numeral formed
          obtain ⟨head, tail, shape, starts, _⟩ := number_head proper
          unfold writeFloat
          dsimp only
          rw [← chars, shape]
          exact ⟨head, tail, rfl, starts⟩
  | str text =>
      unfold write writeString
      exact ⟨_, _, rfl, by decide⟩
  | list items =>
      cases items with
      | nil =>
          unfold write
          exact ⟨_, _, rfl, by decide⟩
      | cons item items =>
          unfold write
          exact ⟨_, _, rfl, by decide⟩
  | dict entries =>
      cases entries with
      | nil =>
          unfold write
          exact ⟨_, _, rfl, by decide⟩
      | cons entry entries =>
          unfold write
          exact ⟨_, _, rfl, by decide⟩

/-! ### Reading what is written -/

private theorem scanValue_constant {head : Char} {tail rest : List Char} {value : PyValue}
    (fuel : Nat) (plain : head ≠ quoteMark ∧ head ≠ openBrace ∧ head ≠ '[')
    (found : scanConstant (head :: tail ++ rest) = some (value, rest)) :
    scanValue (fuel + 1) (head :: tail ++ rest) = some (value, rest) := by
  rw [List.cons_append] at found ⊢
  unfold scanValue
  rw [if_neg plain.1, if_neg plain.2.1, if_neg plain.2.2, found]

private theorem scanValue_number {numeral : Numeral} (proper : numeral.Proper) (fuel : Nat)
    (rest : List Char) : scanValue (fuel + 1) (numeral.chars ++ rest) =
      scanNumber (numeral.chars ++ rest) := by
  obtain ⟨char, after, chars, digit⟩ := numeral_head numeral proper
  obtain ⟨head, tail, shape, _, noQuote, noBrace, noBracket⟩ := number_head proper
  have constant := scanConstant_number numeral.negative (after ++ rest) digit
  have text : numeral.chars ++ rest =
      Numeral.signChars numeral.negative ++ char :: (after ++ rest) := by
    rw [chars, List.append_assoc, List.cons_append]
  rw [← text] at constant
  rw [shape, List.cons_append] at constant ⊢
  unfold scanValue
  rw [if_neg noQuote, if_neg noBrace, if_neg noBracket, constant]

private def closeItems (fuel : Nat) (read : List PyValue) (chars : List Char) :
    Option (PyValue × List Char) :=
  match skipSpace chars with
  | [] => none
  | next :: rest =>
      if next = ']' then some (.list read, rest)
      else if next = ',' then scanItems fuel read (skipSpace rest)
      else none

private theorem scanItems_of_value {fuel : Nat} {read : List PyValue} {item : PyValue}
    {chars after : List Char} (found : scanValue fuel chars = some (item, after)) :
    scanItems (fuel + 1) read chars = closeItems fuel (read ++ [item]) after := by
  unfold scanItems
  rw [found]
  rfl

private def closeMembers (fuel : Nat) (read : PyDict) (chars : List Char) :
    Option (PyValue × List Char) :=
  match skipSpace chars with
  | [] => none
  | next :: rest =>
      if next = closeBrace then some (.dict read, rest)
      else if next = ',' then scanMembers fuel read (skipSpace rest)
      else none

private theorem scanMembers_of_member (layout : Layout) {fuel : Nat} {read : PyDict} {key : String}
    {value : PyValue} {text after : List Char}
    (enough : (writeString layout.ensureAscii key).length ≤ fuel + 1)
    (found : scanValue fuel text = some (value, after))
    (solid : skipSpace text = text) :
    scanMembers (fuel + 1) read (writeString layout.ensureAscii key ++
      ':' :: (List.replicate layout.afterColon ' ' ++ text)) =
      closeMembers fuel (PyDict.set read key value) after := by
  have length := length_writeString layout.ensureAscii key
  have fits : key.toList.length < fuel := by omega
  have scanned := scanString_writeString layout.ensureAscii key
    (':' :: (List.replicate layout.afterColon ' ' ++ text)) fits
  unfold writeString
  rw [List.cons_append, List.append_assoc, List.singleton_append]
  unfold scanMembers
  rw [if_pos rfl, scanned]
  dsimp only
  rw [skipSpace_solid _ (by decide)]
  dsimp only
  rw [if_pos rfl, skipSpace_replicate, solid, found]
  rfl

theorem skipSpace_write (layout : Layout) (level : Nat) {value : PyValue}
    (formed : wellFormed value = true) (rest : List Char) :
    skipSpace (write layout level value ++ rest) = write layout level value ++ rest := by
  obtain ⟨head, tail, shape, starts⟩ := write_head layout level formed
  unfold opens at starts
  rw [shape, List.cons_append]
  apply skipSpace_solid
  simp only [Bool.and_eq_true, Bool.not_eq_true'] at starts
  exact starts.1.1

private theorem scanValue_list (layout : Layout) (level : Nat) {item : PyValue}
    (formed : wellFormed item = true) (fuel : Nat) (rest : List Char) :
    scanValue (fuel + 1) ('[' :: (layout.newline (level + 1) ++
      (write layout (level + 1) item ++ rest))) =
      scanItems fuel [] (write layout (level + 1) item ++ rest) := by
  obtain ⟨head, tail, shape, starts⟩ := write_head layout (level + 1) formed
  have solid := skipSpace_write layout (level + 1) formed rest
  unfold opens at starts
  simp only [Bool.and_eq_true, bne_iff_ne] at starts
  unfold scanValue
  rw [if_neg (by decide), if_neg (by decide), if_pos rfl, skipSpace_newline, solid, shape,
    List.cons_append]
  exact if_neg starts.1.2

private theorem skipSpace_writeString (ensureAscii : Bool) (text : String) (rest : List Char) :
    skipSpace (writeString ensureAscii text ++ rest) = writeString ensureAscii text ++ rest :=
  skipSpace_solid _ (by decide)

private theorem scanValue_dict (layout : Layout) (level fuel : Nat) (key : String)
    (rest : List Char) :
    scanValue (fuel + 1) (openBrace :: (layout.newline (level + 1) ++
      (writeString layout.ensureAscii key ++ rest))) =
      scanMembers fuel [] (writeString layout.ensureAscii key ++ rest) := by
  unfold scanValue
  rw [if_neg (by decide), if_pos rfl, skipSpace_newline, skipSpace_writeString]
  unfold writeString
  rw [List.cons_append]
  exact if_neg (by decide)

private theorem closeItems_comma (fuel : Nat) (read : List PyValue) (rest : List Char) :
    closeItems fuel read (',' :: rest) = scanItems fuel read (skipSpace rest) := by
  unfold closeItems
  rw [skipSpace_solid _ (by decide)]
  rfl

private theorem closeMembers_comma (fuel : Nat) (read : PyDict) (rest : List Char) :
    closeMembers fuel read (',' :: rest) = scanMembers fuel read (skipSpace rest) := by
  unfold closeMembers
  rw [skipSpace_solid _ (by decide)]
  rfl

private theorem length_writeItems (layout : Layout) (level : Nat) (items : List PyValue) :
    1 ≤ (writeItems layout level items).length := by
  cases items with
  | nil =>
      unfold writeItems
      rw [List.length_append, List.length_singleton]
      omega
  | cons item items =>
      unfold writeItems
      exact Nat.succ_le_succ (Nat.zero_le _)

private theorem length_writeEntries (layout : Layout) (level : Nat)
    (entries : List (String × PyValue)) : 1 ≤ (writeEntries layout level entries).length := by
  cases entries with
  | nil =>
      unfold writeEntries
      rw [List.length_append, List.length_singleton]
      omega
  | cons entry entries =>
      unfold writeEntries
      exact Nat.succ_le_succ (Nat.zero_le _)

mutual

theorem scanValue_write (layout : Layout) : ∀ (value : PyValue) (level : Nat) (rest : List Char)
    (fuel : Nat), wellFormed value = true → Ends rest →
    (write layout level value).length ≤ fuel →
    scanValue fuel (write layout level value ++ rest) = some (value, rest)
  | value, level, rest, 0, formed, _, enough => by
      obtain ⟨head, tail, shape, _⟩ := write_head layout level formed
      rw [shape, List.length_cons] at enough
      omega
  | .none, level, rest, fuel + 1, _, _, _ => by
      unfold write
      exact scanValue_constant fuel (by decide) rfl
  | .bool false, level, rest, fuel + 1, _, _, _ => by
      unfold write
      exact scanValue_constant fuel (by decide) rfl
  | .bool true, level, rest, fuel + 1, _, _, _ => by
      unfold write
      exact scanValue_constant fuel (by decide) rfl
  | .int value, level, rest, fuel + 1, _, ends, _ => by
      unfold write
      rw [← Numeral.ofInt_chars, scanValue_number (Numeral.ofInt_proper value) fuel,
        Numeral.ofInt_chars]
      exact scanNumber_printInt value ends
  | .float .nan, level, rest, fuel + 1, _, _, _ => by
      unfold write writeFloat
      exact scanValue_constant fuel (by decide) rfl
  | .float .posInf, level, rest, fuel + 1, _, _, _ => by
      unfold write writeFloat
      exact scanValue_constant fuel (by decide) rfl
  | .float .negInf, level, rest, fuel + 1, _, _, _ => by
      unfold write writeFloat
      exact scanValue_constant fuel (by decide) rfl
  | .float (.finite value), level, rest, fuel + 1, formed, ends, _ => by
      unfold wellFormed at formed
      obtain ⟨numeral, proper, _, chars, _⟩ := printFloat_numeral formed
      unfold write writeFloat
      dsimp only
      rw [← chars, scanValue_number proper fuel, chars]
      exact scanNumber_printFloat formed ends
  | .str text, level, rest, fuel + 1, _, _, enough => by
      have length := length_writeString layout.ensureAscii text
      unfold write at enough ⊢
      have fits : text.toList.length < fuel := by omega
      have scanned := scanString_writeString layout.ensureAscii text rest fits
      unfold writeString
      rw [List.cons_append, List.append_assoc, List.singleton_append]
      unfold scanValue
      rw [if_pos rfl, scanned]
      rfl
  | .list [], level, rest, fuel + 1, _, _, _ => by
      unfold write
      rfl
  | .list (item :: items), level, rest, fuel + 1, formed, _, enough => by
      unfold wellFormed wellFormedItems at formed
      obtain ⟨ofItem, ofItems⟩ := Bool.and_eq_true_iff.mp formed
      unfold write at enough ⊢
      simp only [List.length_cons, List.length_append] at enough
      have close := length_writeItems layout level items
      obtain ⟨more, rfl⟩ : ∃ more, fuel = more + 1 := ⟨fuel - 1, by omega⟩
      have first := scanValue_write layout item (level + 1) (writeItems layout level items ++ rest)
        more ofItem (ends_writeItems layout level items rest) (by omega)
      have others := closeItems_write layout items [item] level rest more ofItems (by omega)
      rw [List.cons_append, List.append_assoc, List.append_assoc]
      rw [scanValue_list layout level ofItem, scanItems_of_value first]
      exact others
  | .dict [], level, rest, fuel + 1, _, _, _ => by
      unfold write
      rfl
  | .dict ((key, value) :: entries), level, rest, fuel + 1, formed, _, enough => by
      obtain ⟨distinct, formed⟩ := wellFormed_dict.mp formed
      unfold wellFormedEntries at formed
      obtain ⟨ofValue, ofEntries⟩ := Bool.and_eq_true_iff.mp formed
      unfold write at enough ⊢
      simp only [List.length_cons, List.length_append] at enough
      have close := length_writeEntries layout level entries
      have quoted := length_writeString layout.ensureAscii key
      obtain ⟨more, rfl⟩ : ∃ more, fuel = more + 1 := ⟨fuel - 1, by omega⟩
      have first := scanValue_write layout value (level + 1)
        (writeEntries layout level entries ++ rest) more ofValue
        (ends_writeEntries layout level entries rest) (by omega)
      have others := closeMembers_write layout entries [(key, value)] level rest more distinct
        ofEntries (by omega)
      simp only [List.cons_append, List.append_assoc]
      rw [scanValue_dict layout level, scanMembers_of_member layout (by omega) first
        (skipSpace_write layout (level + 1) ofValue _)]
      exact others

theorem closeItems_write (layout : Layout) : ∀ (items read : List PyValue) (level : Nat)
    (rest : List Char) (fuel : Nat), wellFormedItems items = true →
    (writeItems layout level items).length ≤ fuel + 1 →
    closeItems fuel read (writeItems layout level items ++ rest) =
      some (.list (read ++ items), rest)
  | [], read, level, rest, fuel, _, _ => by
      unfold writeItems closeItems
      rw [List.append_assoc, skipSpace_newline, List.append_nil]
      rfl
  | item :: items, read, level, rest, fuel, formed, enough => by
      unfold wellFormedItems at formed
      obtain ⟨ofItem, ofItems⟩ := Bool.and_eq_true_iff.mp formed
      unfold writeItems at enough ⊢
      simp only [List.length_cons, List.length_append] at enough
      have close := length_writeItems layout level items
      obtain ⟨more, rfl⟩ : ∃ more, fuel = more + 1 := ⟨fuel - 1, by omega⟩
      have first := scanValue_write layout item (level + 1) (writeItems layout level items ++ rest)
        more ofItem (ends_writeItems layout level items rest) (by omega)
      have others := closeItems_write layout items (read ++ [item]) level rest more ofItems
        (by omega)
      simp only [List.cons_append, List.append_assoc]
      rw [closeItems_comma, skipSpace_replicate, skipSpace_newline,
        skipSpace_write layout (level + 1) ofItem, scanItems_of_value first, others,
        List.append_assoc, List.singleton_append]

theorem closeMembers_write (layout : Layout) : ∀ (entries : List (String × PyValue))
    (read : PyDict) (level : Nat) (rest : List Char) (fuel : Nat),
    Assoc.Distinct (read ++ entries) → wellFormedEntries entries = true →
    (writeEntries layout level entries).length ≤ fuel + 1 →
    closeMembers fuel read (writeEntries layout level entries ++ rest) =
      some (.dict (read ++ entries), rest)
  | [], read, level, rest, fuel, _, _, _ => by
      unfold writeEntries closeMembers
      rw [List.append_assoc, skipSpace_newline, List.append_nil]
      rfl
  | (key, value) :: entries, read, level, rest, fuel, distinct, formed, enough => by
      unfold wellFormedEntries at formed
      obtain ⟨ofValue, ofEntries⟩ := Bool.and_eq_true_iff.mp formed
      unfold writeEntries at enough ⊢
      simp only [List.length_cons, List.length_append] at enough
      have close := length_writeEntries layout level entries
      have quoted := length_writeString layout.ensureAscii key
      obtain ⟨more, rfl⟩ : ∃ more, fuel = more + 1 := ⟨fuel - 1, by omega⟩
      have first := scanValue_write layout value (level + 1)
        (writeEntries layout level entries ++ rest) more ofValue
        (ends_writeEntries layout level entries rest) (by omega)
      have appended : PyDict.set read key value = read ++ [(key, value)] :=
        Assoc.set_of_notMem (Assoc.Distinct.notMem distinct)
      have others := closeMembers_write layout entries (read ++ [(key, value)]) level rest more
        (by rwa [List.append_assoc]) ofEntries (by omega)
      simp only [List.cons_append, List.append_assoc]
      rw [closeMembers_comma, skipSpace_replicate, skipSpace_newline, skipSpace_writeString,
        scanMembers_of_member layout (by omega) first (skipSpace_write layout (level + 1) ofValue _),
        appended, others, List.append_assoc, List.singleton_append]

end

end Algotradify.Json
