/-
Sorting the keys of every dictionary changes the order of entries and nothing else, and
the text of a sorted value determines it.
-/

import Algotradify.Json.RoundTrip

namespace Algotradify.Json

open Py

/-! ### The same value -/

mutual

inductive SameValue : PyValue → PyValue → Prop
  | refl (value : PyValue) : SameValue value value
  | list {left right : List PyValue} (items : SameItems left right) :
      SameValue (.list left) (.list right)
  | dict {left middle right : PyDict} (order : left.Perm middle)
      (entries : SameEntries middle right) : SameValue (.dict left) (.dict right)

inductive SameItems : List PyValue → List PyValue → Prop
  | nil : SameItems [] []
  | cons {left right : PyValue} {lefts rights : List PyValue} (head : SameValue left right)
      (tail : SameItems lefts rights) : SameItems (left :: lefts) (right :: rights)

inductive SameEntries : PyDict → PyDict → Prop
  | nil : SameEntries [] []
  | cons {key : String} {left right : PyValue} {lefts rights : PyDict}
      (head : SameValue left right) (tail : SameEntries lefts rights) :
      SameEntries ((key, left) :: lefts) ((key, right) :: rights)

end

/-! ### Sorting -/

def mapEntries (entries : PyDict) : PyDict :=
  Assoc.mapValues sortKeys entries

theorem sortEntries_eq (entries : PyDict) :
    sortEntries entries = List.insertionSort keyLe (mapEntries entries) := by
  induction entries with
  | nil => rfl
  | cons entry rest ih =>
      obtain ⟨key, value⟩ := entry
      unfold sortEntries
      rw [ih]
      rfl

theorem sortItems_eq (items : List PyValue) : sortItems items = items.map sortKeys := by
  induction items with
  | nil => rfl
  | cons item rest ih =>
      unfold sortItems
      rw [ih]
      rfl

theorem sortEntries_perm (entries : PyDict) :
    (sortEntries entries).Perm (mapEntries entries) := by
  rw [sortEntries_eq]
  exact List.perm_insertionSort keyLe _

instance : Std.Total keyLe :=
  ⟨fun first second => String.le_total first.1 second.1⟩

instance : IsTrans (String × PyValue) keyLe :=
  ⟨fun _ _ _ left right => String.le_trans left right⟩

theorem sortEntries_sorted (entries : PyDict) : (sortEntries entries).Pairwise keyLe := by
  rw [sortEntries_eq]
  exact List.pairwise_insertionSort keyLe _

theorem keys_mapEntries (entries : PyDict) :
    (mapEntries entries).map Prod.fst = entries.map Prod.fst := by
  unfold mapEntries Assoc.mapValues
  rw [List.map_map]
  rfl

theorem sortEntries_distinct {entries : PyDict} (distinct : Assoc.Distinct entries) :
    Assoc.Distinct (sortEntries entries) := by
  unfold Assoc.Distinct at distinct ⊢
  rw [((sortEntries_perm entries).map Prod.fst).nodup_iff, keys_mapEntries]
  exact distinct

theorem lookup_sortEntries {entries : PyDict} (distinct : Assoc.Distinct entries) (key : String) :
    (sortEntries entries).lookup key = (entries.lookup key).map sortKeys := by
  rw [Assoc.lookup_perm (sortEntries_distinct distinct) (sortEntries_perm entries)]
  unfold mapEntries
  exact Assoc.lookup_mapValues sortKeys entries key

theorem get_sortEntries {entries : PyDict} (distinct : Assoc.Distinct entries) (key : String) :
    PyDict.get (sortEntries entries) key = sortKeys (PyDict.get entries key) := by
  unfold PyDict.get
  rw [lookup_sortEntries distinct]
  cases entries.lookup key <;> rfl

theorem sortEntries_eq_of_lookup {first second : PyDict} (left : Assoc.Distinct first)
    (right : Assoc.Distinct second)
    (same : ∀ key, (first.lookup key).map sortKeys = (second.lookup key).map sortKeys) :
    sortEntries first = sortEntries second := by
  have ofLeft := sortEntries_distinct left
  have ofRight := sortEntries_distinct right
  have entries : (sortEntries first).Perm (sortEntries second) := by
    apply ofLeft.perm ofRight
    intro key
    rw [lookup_sortEntries left, lookup_sortEntries right, same key]
  refine entries.eq_of_pairwise ?_ (sortEntries_sorted first) (sortEntries_sorted second)
  intro entry other member also below above
  have key : entry.1 = other.1 := String.le_antisymm below above
  have value := (Assoc.lookup_eq_some_iff ofLeft entry.1 entry.2).mpr member
  have again := (Assoc.lookup_eq_some_iff ofLeft other.1 other.2).mpr (entries.mem_iff.mpr also)
  rw [← key, value] at again
  exact Prod.ext key (Option.some.inj again)

/-! ### What sorting keeps -/

theorem wellFormedEntries_iff (entries : PyDict) :
    wellFormedEntries entries = true ↔ ∀ entry ∈ entries, wellFormed entry.2 = true := by
  induction entries with
  | nil =>
      unfold wellFormedEntries
      simp
  | cons entry rest ih =>
      obtain ⟨key, value⟩ := entry
      unfold wellFormedEntries
      rw [Bool.and_eq_true, ih, List.forall_mem_cons]

mutual

theorem wellFormed_sortKeys : ∀ value : PyValue, wellFormed value = true →
    wellFormed (sortKeys value) = true
  | .none, formed | .bool _, formed | .int _, formed | .float _, formed | .str _, formed => by
      unfold sortKeys
      exact formed
  | .list items, formed => by
      unfold wellFormed at formed
      unfold sortKeys wellFormed
      rw [sortItems_eq]
      exact wellFormedItems_sorted items formed
  | .dict entries, formed => by
      obtain ⟨distinct, formed⟩ := wellFormed_dict.mp formed
      unfold sortKeys
      refine wellFormed_dict.mpr ⟨sortEntries_distinct distinct, ?_⟩
      rw [wellFormedEntries_iff]
      intro entry member
      have mapped := (sortEntries_perm entries).mem_iff.mp member
      exact (wellFormedEntries_iff _).mp (wellFormedEntries_mapped entries formed) entry mapped

theorem wellFormedItems_sorted : ∀ items : List PyValue, wellFormedItems items = true →
    wellFormedItems (items.map sortKeys) = true
  | [], _ => rfl
  | item :: rest, formed => by
      unfold wellFormedItems at formed
      obtain ⟨ofItem, ofRest⟩ := Bool.and_eq_true_iff.mp formed
      rw [List.map_cons]
      unfold wellFormedItems
      rw [Bool.and_eq_true]
      exact ⟨wellFormed_sortKeys item ofItem, wellFormedItems_sorted rest ofRest⟩

theorem wellFormedEntries_mapped : ∀ entries : PyDict, wellFormedEntries entries = true →
    wellFormedEntries (mapEntries entries) = true
  | [], _ => rfl
  | (key, value) :: rest, formed => by
      unfold wellFormedEntries at formed
      obtain ⟨ofValue, ofRest⟩ := Bool.and_eq_true_iff.mp formed
      change wellFormedEntries ((key, sortKeys value) :: mapEntries rest) = true
      unfold wellFormedEntries
      rw [Bool.and_eq_true]
      exact ⟨wellFormed_sortKeys value ofValue, wellFormedEntries_mapped rest ofRest⟩

end

mutual

theorem sortKeys_sortKeys : ∀ value : PyValue, sortKeys (sortKeys value) = sortKeys value
  | .none | .bool _ | .int _ | .float _ | .str _ => by
      unfold sortKeys
      rfl
  | .list items => by
      change PyValue.list (sortItems (sortItems items)) = .list (sortItems items)
      rw [sortItems_eq, sortItems_eq, map_sortKeys items]
  | .dict entries => by
      change PyValue.dict (sortEntries (sortEntries entries)) = .dict (sortEntries entries)
      have fixed : mapEntries (sortEntries entries) = sortEntries entries := by
        have mapped := (mapEntries_mapEntries entries).trans (List.map_id _).symm
        refine (List.map_congr_left ?_).trans (List.map_id _)
        intro entry member
        exact List.map_inj_left.mp mapped entry ((sortEntries_perm entries).mem_iff.mp member)
      rw [sortEntries_eq (sortEntries entries), fixed,
        (sortEntries_sorted entries).insertionSort_eq]

theorem map_sortKeys : ∀ items : List PyValue,
    (items.map sortKeys).map sortKeys = items.map sortKeys
  | [] => rfl
  | item :: rest => by
      rw [List.map_cons, List.map_cons, sortKeys_sortKeys item, map_sortKeys rest]

theorem mapEntries_mapEntries : ∀ entries : PyDict,
    mapEntries (mapEntries entries) = mapEntries entries
  | [] => rfl
  | (key, value) :: rest => by
      change (key, sortKeys (sortKeys value)) :: mapEntries (mapEntries rest) =
        (key, sortKeys value) :: mapEntries rest
      rw [sortKeys_sortKeys value, mapEntries_mapEntries rest]

end

/-! ### Sorting changes no value -/

private theorem sameEntries_mapEntries : ∀ entries : PyDict,
    (∀ entry ∈ entries, SameValue entry.2 (sortKeys entry.2)) →
    SameEntries entries (mapEntries entries)
  | [], _ => .nil
  | (_, _) :: rest, each =>
      .cons (each _ List.mem_cons_self)
        (sameEntries_mapEntries rest fun entry member => each entry (List.mem_cons_of_mem _ member))

private theorem sortEntries_eq_map (entries : PyDict) :
    sortEntries entries = mapEntries (List.insertionSort keyLe entries) := by
  rw [sortEntries_eq]
  unfold mapEntries Assoc.mapValues
  have keysOnly : ∀ left ∈ entries, ∀ right ∈ entries, keyLe left right ↔
      keyLe (left.1, sortKeys left.2) (right.1, sortKeys right.2) := fun _ _ _ _ => Iff.rfl
  exact (List.map_insertionSort keyLe keyLe _ entries keysOnly).symm

mutual

theorem sameValue_sortKeys : ∀ value : PyValue, SameValue value (sortKeys value)
  | .none | .bool _ | .int _ | .float _ | .str _ => by
      unfold sortKeys
      exact .refl _
  | .list items => by
      unfold sortKeys
      rw [sortItems_eq]
      exact .list (sameItems_map items)
  | .dict entries => by
      unfold sortKeys
      rw [sortEntries_eq_map]
      refine .dict (List.perm_insertionSort keyLe entries).symm (sameEntries_mapEntries _ ?_)
      intro entry member
      exact sameEntries_values entries entry ((List.mem_insertionSort keyLe).mp member)

theorem sameItems_map : ∀ items : List PyValue, SameItems items (items.map sortKeys)
  | [] => .nil
  | item :: rest => .cons (sameValue_sortKeys item) (sameItems_map rest)

theorem sameEntries_values : ∀ entries : PyDict,
    ∀ entry ∈ entries, SameValue entry.2 (sortKeys entry.2)
  | [], _, member => absurd member List.not_mem_nil
  | (_, value) :: rest, entry, member => by
      rcases List.mem_cons.mp member with rfl | later
      · exact sameValue_sortKeys value
      · exact sameEntries_values rest entry later

end

theorem sameValue_mapEntries (entries : PyDict) :
    SameValue (.dict entries) (.dict (mapEntries entries)) :=
  .dict (List.Perm.refl _) (sameEntries_mapEntries entries (sameEntries_values entries))

/-! ### Texts -/

private theorem ends_of_space {spaces : List Char}
    (allSpace : ∀ char ∈ spaces, isJsonSpace char = true) : Ends spaces := by
  rintro char after rfl
  have listed : ∀ char ∈ [' ', '\t', '\n', '\r'],
      char.isDigit = false ∧ char ≠ '.' ∧ char ≠ 'e' ∧ char ≠ 'E' := by decide
  exact listed char (List.contains_iff_mem.mp (allSpace char List.mem_cons_self))

theorem jsonLoads_write (layout : Layout) {value : PyValue} (formed : wellFormed value = true)
    {spaces : List Char} (allSpace : ∀ char ∈ spaces, isJsonSpace char = true) :
    jsonLoads (String.ofList (write layout 0 value ++ spaces)) = some value := by
  have read := scanValue_write layout value 0 spaces
    ((write layout 0 value ++ spaces).length + 1) formed (ends_of_space allSpace)
    (by rw [List.length_append]; omega)
  have blank : skipSpace spaces = [] := List.dropWhile_eq_nil_iff.mpr allSpace
  unfold jsonLoads
  rw [String.toList_ofList, skipSpace_write layout 0 formed]
  dsimp only
  rw [read]
  exact if_pos blank

theorem jsonLoads_jsonDumps (layout : Layout) {value : PyValue}
    (formed : wellFormed value = true) :
    jsonLoads (jsonDumps layout value) = some (sortKeys value) := by
  have blank : ∀ char ∈ ([] : List Char), isJsonSpace char = true :=
    fun _ impossible => absurd impossible List.not_mem_nil
  have read := jsonLoads_write layout (wellFormed_sortKeys value formed) blank
  rw [List.append_nil] at read
  exact read

end Algotradify.Json
