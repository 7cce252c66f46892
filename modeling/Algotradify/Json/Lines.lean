/-
JSON lines: the rows of a text file, one object a line.

A file is read with universal newlines. A row that was written without line breaks is
read back as one line, and stripping it takes nothing away.

What follows the last line break of a text, and what becomes of it when a line is appended.
-/

import Algotradify.Json.SortKeys

namespace Algotradify.Json

open Py

variable {line chars : List Char} {char : Char} {text row : String}

/-! ### Lines of a text -/

def linesFrom (current : List Char) : List Char → List (List Char)
  | [] => if current = [] then [] else [current]
  | '\r' :: '\n' :: rest => current :: linesFrom [] rest
  | char :: rest =>
      if char = '\n' ∨ char = '\r' then current :: linesFrom [] rest
      else linesFrom (current ++ [char]) rest

/-- `for raw_line in handle`. -/
def textLines (text : String) : List String :=
  (linesFrom [] text.toList).map String.ofList

def joinRows (rows : List String) : String :=
  String.ofList (rows.flatMap fun row => row.toList ++ ['\n'])

theorem joinRows_snoc (rows : List String) (row : String) :
    joinRows (rows ++ [row]) = joinRows rows ++ (row ++ "\n") := by
  unfold joinRows
  rw [← String.toList_inj]
  simp only [List.flatMap_append, List.flatMap_cons, List.flatMap_nil, List.append_nil,
    String.toList_append, String.toList_ofList]
  rfl

def Unbroken (chars : List Char) : Prop :=
  ∀ char ∈ chars, char ≠ '\n' ∧ char ≠ '\r'

private theorem linesFrom_line (unbroken : Unbroken line) (current rest : List Char) :
    linesFrom current (line ++ '\n' :: rest) = (current ++ line) :: linesFrom [] rest := by
  induction line generalizing current with
  | nil =>
      rw [List.nil_append, List.append_nil]
      rfl
  | cons char line ih =>
      obtain ⟨here, later⟩ := List.forall_mem_cons.mp unbroken
      have step : linesFrom current (char :: (line ++ '\n' :: rest)) =
          linesFrom (current ++ [char]) (line ++ '\n' :: rest) := by
        rw [linesFrom]
        · exact if_neg (not_or.mpr here)
        · intro after same
          exact absurd same here.2
      rw [List.cons_append, step, ih later, List.append_assoc, List.singleton_append]

theorem textLines_joinRows {rows : List String} (unbroken : ∀ row ∈ rows, Unbroken row.toList) :
    textLines (joinRows rows) = rows := by
  unfold textLines joinRows
  rw [String.toList_ofList]
  induction rows with
  | nil => rfl
  | cons row rest ih =>
      obtain ⟨here, later⟩ := List.forall_mem_cons.mp unbroken
      rw [List.flatMap_cons, List.append_assoc, List.singleton_append, linesFrom_line here,
        List.nil_append, List.map_cons, String.ofList_toList, ih later]

/-! ### Universal newlines -/

def translateNewlines : List Char → List Char
  | [] => []
  | '\r' :: '\n' :: rest => '\n' :: translateNewlines rest
  | char :: rest => (if char = '\r' then '\n' else char) :: translateNewlines rest

/-- What `read_text` returns of a file with this text. -/
def universalNewlines (text : String) : String :=
  String.ofList (translateNewlines text.toList)

def Ended (text : String) : Prop :=
  text.toList = [] ∨ text.toList.getLast? = some '\n'

private theorem linesFrom_step {rest : List Char} (current : List Char)
    (apart : ∀ after, char = '\r' → rest = '\n' :: after → False) :
    linesFrom current (char :: rest) =
      if char = '\n' ∨ char = '\r' then current :: linesFrom [] rest
      else linesFrom (current ++ [char]) rest := by
  rw [linesFrom]
  exact apart

private theorem linesFrom_pair (current rest : List Char) :
    linesFrom current ('\r' :: '\n' :: rest) = current :: linesFrom [] rest := by
  rw [linesFrom]

private theorem linesFrom_newline (current rest : List Char) :
    linesFrom current ('\n' :: rest) = current :: linesFrom [] rest := by
  rw [linesFrom_step current fun _ same => absurd same (by decide), if_pos (.inl rfl)]

private theorem translateNewlines_step {rest : List Char}
    (apart : ∀ after, char = '\r' → rest = '\n' :: after → False) :
    translateNewlines (char :: rest) =
      (if char = '\r' then '\n' else char) :: translateNewlines rest := by
  rw [translateNewlines]
  exact apart

private theorem linesFrom_translate (current chars : List Char) :
    linesFrom current (translateNewlines chars) = linesFrom current chars := by
  induction chars using translateNewlines.induct generalizing current with
  | case1 => rfl
  | case2 rest ih =>
      rw [linesFrom_pair, translateNewlines, linesFrom_newline, ih]
  | case3 char rest apart ih =>
      rw [translateNewlines_step apart, linesFrom_step current apart]
      by_cases carriage : char = '\r'
      · rw [if_pos carriage, if_pos (.inr carriage), linesFrom_newline, ih]
      · rw [if_neg carriage, linesFrom_step current fun _ same => absurd same carriage, ih, ih]

theorem textLines_universalNewlines (text : String) :
    textLines (universalNewlines text) = textLines text := by
  unfold textLines universalNewlines
  rw [String.toList_ofList, linesFrom_translate]

theorem carriage_notMem_translate (chars : List Char) : '\r' ∉ translateNewlines chars := by
  induction chars using translateNewlines.induct with
  | case1 => exact List.not_mem_nil
  | case2 rest ih =>
      rw [translateNewlines]
      exact List.not_mem_cons_of_ne_of_not_mem (by decide) ih
  | case3 char rest apart ih =>
      rw [translateNewlines_step apart]
      refine List.not_mem_cons_of_ne_of_not_mem ?_ ih
      by_cases carriage : char = '\r'
      · rw [if_pos carriage]
        decide
      · rw [if_neg carriage]
        exact fun same => carriage same.symm

theorem translateNewlines_eq_self (plain : '\r' ∉ chars) :
    translateNewlines chars = chars := by
  induction chars with
  | nil => rfl
  | cons char rest ih =>
      have here : char ≠ '\r' := fun same => plain (same ▸ List.mem_cons_self)
      have later := ih fun member => plain (List.mem_cons_of_mem _ member)
      rw [translateNewlines_step fun _ same => absurd same here, if_neg here, later]

theorem linesFrom_append (chars current rest : List Char) :
    linesFrom current (chars ++ '\n' :: rest) =
      linesFrom current (chars ++ ['\n']) ++ linesFrom [] rest := by
  induction chars using translateNewlines.induct generalizing current with
  | case1 => rfl
  | case2 chars ih =>
      simp only [List.cons_append, linesFrom_pair, ih]
  | case3 char chars apart ih =>
      cases chars with
      | nil =>
          by_cases carriage : char = '\r'
          · rw [carriage]
            exact linesFrom_pair current rest
          · simp only [List.cons_append, List.nil_append,
              linesFrom_step current fun _ same => absurd same carriage]
            split <;> rfl
      | cons next chars =>
          have still : ∀ more after, char = '\r' → next :: chars ++ more = '\n' :: after → False :=
            fun _ _ same start => apart chars same (by rw [(List.cons.inj start).1])
          change linesFrom current (char :: (next :: chars ++ _)) =
            linesFrom current (char :: (next :: chars ++ _)) ++ _
          rw [linesFrom_step current (still _), linesFrom_step current (still _), ih, ih]
          split <;> rfl

theorem length_linesFrom_unended (plain : '\r' ∉ chars) (unbroken : Unbroken line)
    (current rest : List Char) (started : current ≠ [] ∨ chars ≠ [])
    (unended : chars.getLast? ≠ some '\n') :
    (linesFrom current (chars ++ (line ++ '\n' :: rest))).length =
      (linesFrom current chars).length + (linesFrom [] rest).length := by
  induction chars generalizing current with
  | nil =>
      have inside := started.resolve_right (not_not.mpr rfl)
      rw [List.nil_append, linesFrom_line unbroken, linesFrom, if_neg inside, List.length_cons,
        List.length_singleton, Nat.add_comm]
  | cons char chars ih =>
      have here : char ≠ '\r' := fun same => plain (same ▸ List.mem_cons_self)
      have later := @ih fun member => plain (List.mem_cons_of_mem _ member)
      rw [List.cons_append, linesFrom_step current fun _ same => absurd same here,
        linesFrom_step current fun _ same => absurd same here]
      by_cases newline : char = '\n' ∨ char = '\r'
      · have isNewline := newline.resolve_right here
        have more : chars ≠ [] := by
          rintro rfl
          exact unended (congrArg Option.some isNewline)
        rw [if_pos newline, if_pos newline, List.length_cons, List.length_cons,
          later [] (.inr more) fun last => unended (by
            rw [List.getLast?_cons_of_ne_nil more]
            exact last)]
        omega
      · rw [if_neg newline, if_neg newline]
        refine later _ (.inl (List.append_ne_nil_of_right_ne_nil _ (List.cons_ne_nil _ _))) ?_
        intro last
        cases chars with
        | nil => cases last
        | cons second rest => exact unended last

def appendRow (text row : String) : String :=
  text ++ (row ++ "\n")

theorem toList_appendRow (text row : String) :
    (appendRow text row).toList = text.toList ++ (row.toList ++ ['\n']) := by
  unfold appendRow
  rw [String.toList_append, String.toList_append]
  rfl

theorem ended_appendRow (text row : String) : Ended (appendRow text row) := by
  refine .inr ?_
  rw [toList_appendRow, ← List.append_assoc]
  exact List.getLast?_concat

theorem carriage_notMem_appendRow (plain : '\r' ∉ text.toList) (unbroken : Unbroken row.toList) :
    '\r' ∉ (appendRow text row).toList := by
  intro member
  rw [toList_appendRow] at member
  rcases List.mem_append.mp member with member | member
  · exact plain member
  rcases List.mem_append.mp member with member | member
  · exact (unbroken _ member).2 rfl
  · exact absurd (List.mem_singleton.mp member) (by decide)

theorem universalNewlines_eq_self (plain : '\r' ∉ text.toList) :
    universalNewlines text = text := by
  unfold universalNewlines
  rw [translateNewlines_eq_self plain, String.ofList_toList]

theorem linesFrom_append_line (unbroken : Unbroken line)
    (ended : chars = [] ∨ chars.getLast? = some '\n') :
    linesFrom [] (chars ++ (line ++ ['\n'])) = linesFrom [] chars ++ [line] := by
  have alone : linesFrom [] (line ++ ['\n']) = [line] := by
    rw [linesFrom_line unbroken, List.nil_append]
    rfl
  rcases ended with empty | last
  · rw [empty, List.nil_append, alone]
    rfl
  · obtain ⟨front, shape⟩ := List.getLast?_eq_some_iff.mp last
    rw [shape, List.append_assoc, List.singleton_append, linesFrom_append, alone]

theorem textLines_appendRow (unbroken : Unbroken row.toList) (ended : Ended text) :
    textLines (appendRow text row) = textLines text ++ [row] := by
  unfold textLines
  rw [toList_appendRow, linesFrom_append_line unbroken ended, List.map_append,
    List.map_singleton, String.ofList_toList]

theorem length_textLines_appendRow (plain : '\r' ∉ text.toList) (unbroken : Unbroken row.toList)
    (unended : ¬Ended text) :
    (textLines (appendRow text row)).length = (textLines text).length := by
  obtain ⟨some, last⟩ := not_or.mp unended
  unfold textLines
  rw [toList_appendRow, List.length_map, List.length_map,
    length_linesFrom_unended plain unbroken [] [] (.inr some) last]
  rfl

/-! ### Rows without line breaks -/

private theorem visible_unbroken (visible : 32 ≤ char.toNat) :
    char ≠ '\n' ∧ char ≠ '\r' := by
  constructor
  · rintro rfl
    exact absurd visible (by decide)
  · rintro rfl
    exact absurd visible (by decide)

private theorem visible_numeral (numeral : isNumeralChar char = true) :
    32 ≤ char.toNat := by
  have listed : ∀ char ∈ "0123456789".toList ++ "-+./einfa".toList, 32 ≤ char.toNat := by decide
  apply listed
  rcases Bool.or_eq_true_iff.mp numeral with digit | other
  · exact List.mem_append_left _ (mem_digits digit)
  · exact List.mem_append_right _ (List.contains_iff_mem.mp other)

private theorem visible_hexDigit {value : Nat} (small : value < 16) :
    32 ≤ (hexDigit value).toNat := by
  have listed : ∀ value < 16, 32 ≤ (hexDigit value).toNat := by decide
  exact listed value small

private theorem visible_unicodeEscape (code : Nat) : ∀ char ∈ unicodeEscape code, 32 ≤ char.toNat := by
  intro char member
  unfold unicodeEscape at member
  simp only [List.mem_cons, List.not_mem_nil, or_false] at member
  rcases member with rfl | rfl | rfl | rfl | rfl | rfl
  · decide
  · decide
  · exact visible_hexDigit (Nat.mod_lt _ (by decide))
  · exact visible_hexDigit (Nat.mod_lt _ (by decide))
  · exact visible_hexDigit (Nat.mod_lt _ (by decide))
  · exact visible_hexDigit (Nat.mod_lt _ (by decide))

private theorem visible_escapeChar (ensureAscii : Bool) (char : Char) :
    ∀ written ∈ escapeChar ensureAscii char, 32 ≤ written.toNat := by
  intro written member
  unfold escapeChar at member
  cases special : shortEscapes.lookup char.toNat with
  | some letter =>
      rw [special] at member
      have listed : ∀ entry ∈ shortEscapes, 32 ≤ entry.2.toNat := by decide
      rcases List.mem_cons.mp member with rfl | member
      · decide
      · rw [List.mem_singleton.mp member]
        exact listed _ (Assoc.mem_of_lookup special)
  | none =>
      rw [special] at member
      dsimp only at member
      split at member
      · exact visible_unicodeEscape _ written member
      · rename_i visible
        split at member
        · split at member
          · exact visible_unicodeEscape _ written member
          · exact (List.mem_append.mp member).elim (visible_unicodeEscape _ written)
              (visible_unicodeEscape _ written)
        · rw [List.mem_singleton.mp member]
          omega

private theorem visible_writeString (ensureAscii : Bool) (text : String) :
    ∀ char ∈ writeString ensureAscii text, 32 ≤ char.toNat := by
  intro char member
  unfold writeString at member
  rcases List.mem_cons.mp member with rfl | member
  · decide
  rcases List.mem_append.mp member with inner | last
  · obtain ⟨original, _, inner⟩ := List.mem_flatMap.mp inner
    exact visible_escapeChar ensureAscii original char inner
  · rw [List.mem_singleton.mp last]
    decide

private theorem visible_writeFloat (value : PyFloat) :
    ∀ char ∈ writeFloat value, 32 ≤ char.toNat := by
  cases value with
  | nan | posInf | negInf =>
      unfold writeFloat
      decide
  | finite value =>
      intro char member
      exact visible_numeral (numeral_printFloat (.finite value) char member)

private theorem visible_spaces {count : Nat} : ∀ char ∈ List.replicate count ' ',
    32 ≤ char.toNat := by
  intro char member
  rw [List.eq_of_mem_replicate member]
  decide

private theorem visible_entry (layout : Layout) (key : String) {text after : List Char}
    (ofText : ∀ char ∈ text, 32 ≤ char.toNat) (ofAfter : ∀ char ∈ after, 32 ≤ char.toNat) :
    ∀ char ∈ writeString layout.ensureAscii key ++
      ':' :: (List.replicate layout.afterColon ' ' ++ (text ++ after)), 32 ≤ char.toNat := by
  intro char member
  rcases List.mem_append.mp member with member | member
  · exact visible_writeString layout.ensureAscii key char member
  rcases List.mem_cons.mp member with rfl | member
  · decide
  rcases List.mem_append.mp member with member | member
  · exact visible_spaces char member
  · exact (List.mem_append.mp member).elim (ofText char) (ofAfter char)

section Flat

variable {layout : Layout} (flat : layout.indent = none)

include flat

private theorem newline_flat (level : Nat) : layout.newline level = [] := by
  unfold Layout.newline
  rw [flat]

mutual

theorem visible_write : ∀ (value : PyValue) (level : Nat),
    ∀ char ∈ write layout level value, 32 ≤ char.toNat
  | .none, level => by
      unfold write
      decide
  | .bool false, level | .bool true, level => by
      unfold write
      decide
  | .int value, level => by
      unfold write
      exact fun char member => visible_numeral (numeral_printInt value char member)
  | .float value, level => by
      unfold write
      exact visible_writeFloat value
  | .str text, level => by
      unfold write
      exact visible_writeString layout.ensureAscii text
  | .list [], level => by
      unfold write
      decide
  | .list (item :: rest), level => by
      unfold write
      rw [newline_flat flat, List.nil_append]
      intro char member
      rcases List.mem_cons.mp member with rfl | member
      · decide
      rcases List.mem_append.mp member with member | member
      · exact visible_write item (level + 1) char member
      · exact visible_writeItems rest level char member
  | .dict [], level => by
      unfold write
      decide
  | .dict ((key, value) :: rest), level => by
      unfold write
      rw [newline_flat flat, List.nil_append]
      intro char member
      rcases List.mem_cons.mp member with rfl | member
      · decide
      · exact visible_entry layout key (visible_write value (level + 1))
          (visible_writeEntries rest level) char member

theorem visible_writeItems : ∀ (items : List PyValue) (level : Nat),
    ∀ char ∈ writeItems layout level items, 32 ≤ char.toNat
  | [], level => by
      unfold writeItems
      rw [newline_flat flat]
      decide
  | item :: rest, level => by
      unfold writeItems
      rw [newline_flat flat, List.nil_append]
      intro char member
      rcases List.mem_cons.mp member with rfl | member
      · decide
      rcases List.mem_append.mp member with member | member
      · exact visible_spaces char member
      rcases List.mem_append.mp member with member | member
      · exact visible_write item (level + 1) char member
      · exact visible_writeItems rest level char member

theorem visible_writeEntries : ∀ (entries : List (String × PyValue)) (level : Nat),
    ∀ char ∈ writeEntries layout level entries, 32 ≤ char.toNat
  | [], level => by
      unfold writeEntries
      rw [newline_flat flat]
      decide
  | (key, value) :: rest, level => by
      unfold writeEntries
      rw [newline_flat flat, List.nil_append]
      intro char member
      rcases List.mem_cons.mp member with rfl | member
      · decide
      rcases List.mem_append.mp member with member | member
      · exact visible_spaces char member
      · exact visible_entry layout key (visible_write value (level + 1))
          (visible_writeEntries rest level) char member

end

theorem unbroken_write (value : PyValue) :
    Unbroken (String.ofList (write layout 0 value)).toList := by
  intro char member
  rw [String.toList_ofList] at member
  exact visible_unbroken (visible_write flat value 0 char member)

end Flat

/-! ### Rows of objects -/

theorem stripChars_between {first last : Char} {middle : List Char} (front : isSpace first = false)
    (back : isSpace last = false) :
    stripChars (first :: (middle ++ [last])) = first :: (middle ++ [last]) := by
  have solid : (first :: (middle ++ [last])).dropWhile isSpace = first :: (middle ++ [last]) := by
    rw [List.dropWhile_cons, front]
    rfl
  have reversed : (first :: (middle ++ [last])).reverse = last :: (middle.reverse ++ [first]) := by
    rw [List.reverse_cons, List.reverse_append]
    rfl
  unfold stripChars
  rw [solid, reversed, List.dropWhile_cons, back]
  change (last :: (middle.reverse ++ [first])).reverse = _
  rw [← reversed, List.reverse_reverse]

private theorem writeEntries_close (layout : Layout) (level : Nat) (entries : PyDict) :
    ∃ front, writeEntries layout level entries = front ++ [closeBrace] := by
  induction entries with
  | nil =>
      unfold writeEntries
      exact ⟨_, rfl⟩
  | cons entry rest ih =>
      obtain ⟨front, shape⟩ := ih
      obtain ⟨key, value⟩ := entry
      unfold writeEntries
      rw [shape]
      refine ⟨',' :: (List.replicate layout.afterComma ' ' ++ (layout.newline (level + 1) ++
        (writeString layout.ensureAscii key ++ ':' :: (List.replicate layout.afterColon ' ' ++
          (write layout (level + 1) value ++ front))))), ?_⟩
      simp only [List.cons_append, List.append_assoc]

theorem write_dict_braces (layout : Layout) (level : Nat) (entries : PyDict) :
    ∃ middle, write layout level (.dict entries) = openBrace :: (middle ++ [closeBrace]) := by
  cases entries with
  | nil =>
      unfold write
      exact ⟨[], rfl⟩
  | cons entry rest =>
      obtain ⟨key, value⟩ := entry
      obtain ⟨front, shape⟩ := writeEntries_close layout level rest
      unfold write
      rw [shape]
      refine ⟨layout.newline (level + 1) ++ (writeString layout.ensureAscii key ++
        ':' :: (List.replicate layout.afterColon ' ' ++
          (write layout (level + 1) value ++ front))), ?_⟩
      simp only [List.cons_append, List.append_assoc]

theorem strip_write_dict (layout : Layout) (entries : PyDict) :
    strip (String.ofList (write layout 0 (.dict entries))) =
        String.ofList (write layout 0 (.dict entries)) ∧
      String.ofList (write layout 0 (.dict entries)) ≠ "" := by
  obtain ⟨middle, shape⟩ := write_dict_braces layout 0 entries
  rw [shape]
  constructor
  · unfold strip
    rw [String.toList_ofList, stripChars_between (by decide) (by decide)]
  · intro empty
    have lists := congrArg String.toList empty
    rw [String.toList_ofList] at lists
    cases lists

end Algotradify.Json
