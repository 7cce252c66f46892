/-
Upper case texts: converting one again, stripped or not, changes nothing.
-/

import Algotradify.Py.Text

namespace Algotradify.Py

/-! ### Characters -/

theorem of_isLower {motive : Char → Prop} {char : Char} (lower : char.isLower = true)
    (letters : ∀ code, 97 ≤ code → code ≤ 122 → motive (Char.ofNat code)) : motive char := by
  have bounds : 97 ≤ char.toNat ∧ char.toNat ≤ 122 := by
    unfold Char.isLower at lower
    simp only [ge_iff_le, Bool.and_eq_true, decide_eq_true_eq, UInt32.le_iff_toNat_le] at lower
    exact lower
  have letter := letters char.toNat bounds.1 bounds.2
  rw [Char.ofNat_toNat] at letter
  exact letter

theorem toUpper_of_not_isLower {char : Char} (notLower : ¬ char.isLower = true) :
    char.toUpper = char := by
  unfold Char.isLower at notLower
  unfold Char.toUpper
  rw [dif_neg]
  rintro ⟨above, below⟩
  apply notLower
  simp only [ge_iff_le, Bool.and_eq_true, decide_eq_true_eq]
  exact ⟨above, below⟩

def specialLetters : List Char := ['S', 'I', 'F', 'L', 'T']

theorem upperChar_cases (char : Char) :
    upperChar char = [char.toUpper] ∨ ∀ other ∈ upperChar char, other ∈ specialLetters := by
  unfold upperChar
  split <;> first | exact .inl rfl | exact .inr (by decide)

theorem upperChar_lower {char : Char} (lower : char.isLower = true) :
    upperChar char = [char.toUpper] ∧ upperChar char.toUpper = [char.toUpper] ∧
      isSpace char.toUpper = false := by
  apply of_isLower lower
  intro code above below
  have each : ∀ code ≤ 122, 97 ≤ code →
      upperChar (Char.ofNat code) = [(Char.ofNat code).toUpper] ∧
      upperChar (Char.ofNat code).toUpper = [(Char.ofNat code).toUpper] ∧
      isSpace (Char.ofNat code).toUpper = false := by
    decide
  exact each code below above

theorem upperChar_of_mem {char other : Char} (member : other ∈ upperChar char) :
    upperChar other = [other] := by
  by_cases lower : char.isLower = true
  · obtain ⟨converted, again, _solid⟩ := upperChar_lower lower
    rw [converted] at member
    rw [List.mem_singleton.mp member, again]
  · rcases upperChar_cases char with plain | special
    · rw [plain, toUpper_of_not_isLower lower] at member
      rw [List.mem_singleton.mp member, plain, toUpper_of_not_isLower lower]
    · have letters : ∀ other ∈ specialLetters, upperChar other = [other] := by decide
      exact letters other (special other member)

/-! ### Texts -/

theorem mem_of_mem_stripChars {chars : List Char} {char : Char} (member : char ∈ stripChars chars) :
    char ∈ chars := by
  have front := List.mem_reverse.mp member
  have back := List.mem_reverse.mp ((List.dropWhile_suffix isSpace).subset front)
  exact (List.dropWhile_suffix isSpace).subset back

theorem upper_strip_upper (text : String) : upper (strip (upper text)) = strip (upper text) := by
  have each : ∀ char ∈ (strip (upper text)).toList, upperChar char = [char] := by
    intro char member
    unfold strip at member
    rw [String.toList_ofList] at member
    have converted := mem_of_mem_stripChars member
    unfold upper at converted
    rw [String.toList_ofList] at converted
    obtain ⟨own, _, among⟩ := List.mem_flatMap.mp converted
    exact upperChar_of_mem among
  rw [upper, List.flatMap_congr each, List.flatMap_singleton', String.ofList_toList]

end Algotradify.Py
