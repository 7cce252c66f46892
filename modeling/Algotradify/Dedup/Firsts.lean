/-
Deduplication by a key: of the items with one key the first is kept.

An index by several keys of each item, where the first item of a key stays.

Looking up a key finds the first item that has it. So a search for the first of some keys
finds an item that has one of them, and items that have none of them do not show.

Lists of messages: the messages of the checks that fail, and a list without repetitions.

`_dedupe` keeps of every text that is not empty the first occurrence. Deduplicating again, or
with a message that is there already, changes nothing.
-/

import Algotradify.Py.Assoc
import Mathlib.Data.List.Basic
import Mathlib.Data.List.Induction

namespace Algotradify.Dedup

section Firsts

variable {Item Key : Type*} [DecidableEq Key]

def firsts (key : Item → Key) (items : List Item) : List Item :=
  items.foldl (fun kept item => if key item ∈ kept.map key then kept else kept ++ [item]) []

variable {key : Item → Key} {items : List Item} {item : Item}

theorem firsts_nil : firsts key [] = [] := rfl

theorem firsts_concat (key : Item → Key) (items : List Item) (item : Item) :
    firsts key (items ++ [item]) =
      if key item ∈ (firsts key items).map key then firsts key items
      else firsts key items ++ [item] := by
  unfold firsts
  rw [List.foldl_append, List.foldl_cons, List.foldl_nil]

theorem mem_keys_firsts (key : Item → Key) (items : List Item) (found : Key) :
    found ∈ (firsts key items).map key ↔ found ∈ items.map key := by
  induction items using List.reverseRecOn generalizing found with
  | nil => rfl
  | append_singleton items item ih =>
      rw [firsts_concat, List.map_append, List.mem_append, List.map_singleton,
        List.mem_singleton]
      by_cases seen : key item ∈ (firsts key items).map key
      · rw [if_pos seen, ih]
        constructor
        · exact .inl
        · intro either
          rcases either with earlier | here
          · exact earlier
          · rw [here]
            exact (ih (key item)).mp seen
      · rw [if_neg seen, List.map_append, List.mem_append, ih, List.map_singleton,
          List.mem_singleton]

theorem firsts_concat_of_mem (seen : key item ∈ items.map key) :
    firsts key (items ++ [item]) = firsts key items := by
  rw [firsts_concat, if_pos ((mem_keys_firsts key items (key item)).mpr seen)]

theorem firsts_concat_of_not_mem (fresh : key item ∉ items.map key) :
    firsts key (items ++ [item]) = firsts key items ++ [item] := by
  rw [firsts_concat, if_neg fun seen => fresh ((mem_keys_firsts key items (key item)).mp seen)]

theorem mem_firsts_iff (distinct : items.Nodup) :
    item ∈ firsts key items ↔
      ∃ earlier later, items = earlier ++ item :: later ∧ key item ∉ earlier.map key := by
  induction items using List.reverseRecOn with
  | nil => simp [firsts_nil]
  | append_singleton items last ih =>
      obtain ⟨front, -, apart⟩ := List.nodup_append.mp distinct
      have split : (∃ earlier later, items ++ [last] = earlier ++ item :: later ∧
          key item ∉ earlier.map key) ↔
          (∃ earlier later, items = earlier ++ item :: later ∧ key item ∉ earlier.map key) ∨
            (item = last ∧ key last ∉ items.map key) := by
        constructor
        · intro found
          obtain ⟨earlier, later, shape, fresh⟩ := found
          rcases List.eq_nil_or_concat later with rfl | ⟨inner, final, rfl⟩
          · obtain ⟨rfl, same⟩ := List.append_inj' shape rfl
            cases same
            exact .inr ⟨rfl, fresh⟩
          · rw [List.concat_eq_append, ← List.cons_append, ← List.append_assoc] at shape
            obtain ⟨rfl, -⟩ := List.append_inj' shape rfl
            exact .inl ⟨earlier, inner, rfl, fresh⟩
        · intro either
          rcases either with found | last
          · obtain ⟨earlier, later, rfl, fresh⟩ := found
            exact ⟨earlier, later ++ [last], by simp, fresh⟩
          · obtain ⟨rfl, fresh⟩ := last
            exact ⟨items, [], rfl, fresh⟩
      rw [split, ← ih front]
      by_cases seen : key last ∈ items.map key
      · simp [firsts_concat_of_mem seen, seen]
      · simp [firsts_concat_of_not_mem seen, seen]

end Firsts

section Index

open Py

variable {Item Key : Type*} [DecidableEq Key]

/-- `index.setdefault(key, item)`. -/
def setFirst (item : Item) (index : List (Key × Item)) (key : Key) : List (Key × Item) :=
  if (index.lookup key).isSome then index else Assoc.set index key item

def indexBy (keys : Item → List Key) (items : List Item) : List (Key × Item) :=
  items.foldl (fun index item => (keys item).foldl (setFirst item) index) []

def firstHit (index : List (Key × Item)) (wanted : List Key) : Option Item :=
  wanted.findSome? fun key => index.lookup key

variable {keys : Item → List Key} {items : List Item} {item : Item} {key : Key}
  {wanted : List Key}

theorem lookup_setFirst (item : Item) (index : List (Key × Item)) (key other : Key) :
    (setFirst item index key).lookup other =
      (index.lookup other).or (if other = key then some item else none) := by
  unfold setFirst
  split
  · rename_i present
    by_cases same : other = key
    · obtain ⟨kept, found⟩ := Option.isSome_iff_exists.mp present
      rw [same, found]
      rfl
    · rw [if_neg same, Option.or_none]
  · rename_i absent
    rw [Assoc.lookup_set]
    by_cases same : other = key
    · have missing : index.lookup key = none := Option.not_isSome_iff_eq_none.mp absent
      rw [if_pos same, if_pos same, same, missing]
      rfl
    · rw [if_neg same, if_neg same, Option.or_none]

theorem lookup_setFirsts (item : Item) (index : List (Key × Item)) (fresh : List Key)
    (other : Key) :
    (fresh.foldl (setFirst item) index).lookup other =
      (index.lookup other).or (if other ∈ fresh then some item else none) := by
  induction fresh generalizing index with
  | nil => simp
  | cons key rest ih =>
      rw [List.foldl_cons, ih, lookup_setFirst, Option.or_assoc]
      apply congrArg
      by_cases same : other = key
      · simp [same]
      · simp [same]

theorem lookup_indexBy (keys : Item → List Key) (items : List Item) (key : Key) :
    (indexBy keys items).lookup key = items.find? fun item => key ∈ keys item := by
  induction items using List.reverseRecOn with
  | nil => rfl
  | append_singleton items item ih =>
      unfold indexBy at ih ⊢
      rw [List.foldl_append, List.foldl_cons, List.foldl_nil, lookup_setFirsts, ih,
        List.find?_append]
      by_cases has : key ∈ keys item
      · simp [has]
      · simp [has]

theorem mem_of_firstHit (found : firstHit (indexBy keys items) wanted = some item) :
    item ∈ items ∧ ∃ key ∈ wanted, key ∈ keys item := by
  obtain ⟨key, listed, hit⟩ := List.exists_of_findSome?_eq_some found
  rw [lookup_indexBy] at hit
  have has := List.find?_some hit
  exact ⟨List.mem_of_find?_eq_some hit, key, listed, of_decide_eq_true has⟩

theorem firstHit_filter {kept : Item → Bool}
    (keeps : ∀ item, (∃ key ∈ wanted, key ∈ keys item) → kept item = true) :
    firstHit (indexBy keys (items.filter kept)) wanted = firstHit (indexBy keys items) wanted := by
  unfold firstHit
  induction wanted with
  | nil => rfl
  | cons key rest ih =>
      have later := ih fun item found => keeps item (by
        obtain ⟨other, listed, has⟩ := found
        exact ⟨other, List.mem_cons_of_mem key listed, has⟩)
      rw [List.findSome?_cons, List.findSome?_cons, later, lookup_indexBy, lookup_indexBy,
        List.find?_filter]
      have same : (fun item => decide (kept item = true ∧ decide (key ∈ keys item) = true)) =
          fun item => decide (key ∈ keys item) := by
        funext item
        by_cases has : key ∈ keys item
        · simp [has, keeps item ⟨key, List.mem_cons_self, has⟩]
        · simp [has]
      rw [same]

theorem firstHit_congr {others : List Item} {kept : Item → Bool}
    (keeps : ∀ item, (∃ key ∈ wanted, key ∈ keys item) → kept item = true)
    (same : items.filter kept = others.filter kept) :
    firstHit (indexBy keys items) wanted = firstHit (indexBy keys others) wanted := by
  rw [← firstHit_filter keeps, same, firstHit_filter keeps]

end Index

/-! ### Messages -/

/-- A conditional `append`. -/
def messageIf (condition : Bool) (message : String) : List String :=
  if condition then [message] else []

@[simp] theorem messageIf_eq_nil (condition : Bool) (message : String) :
    messageIf condition message = [] ↔ condition = false := by
  cases condition <;> simp [messageIf]

def messagesOf (checks : List (Bool × String)) : List String :=
  (checks.filter Prod.fst).map Prod.snd

theorem messagesOf_eq_nil_iff (checks : List (Bool × String)) :
    messagesOf checks = [] ↔ ∀ check ∈ checks, check.1 = false := by
  unfold messagesOf
  rw [List.map_eq_nil_iff, List.filter_eq_nil_iff]
  simp

theorem messagesOf_written {checks : List (Bool × String)}
    (written : ∀ check ∈ checks, check.2 ≠ "") : ∀ message ∈ messagesOf checks, message ≠ "" := by
  intro message member
  obtain ⟨check, kept, rfl⟩ := List.mem_map.mp member
  exact written check (List.mem_of_mem_filter kept)

/-- `_dedupe`. -/
def dedupe (items : List String) : List String :=
  firsts id (items.filter fun item => item ≠ "")

theorem mem_dedupe {items : List String} {item : String} :
    item ∈ dedupe items ↔ item ∈ items ∧ item ≠ "" := by
  have keys := mem_keys_firsts id (items.filter fun item => item ≠ "") item
  rw [List.map_id, List.map_id] at keys
  unfold dedupe
  rw [keys, List.mem_filter, decide_eq_true_eq]

theorem dedupe_eq_nil_iff {items : List String} :
    dedupe items = [] ↔ ∀ item ∈ items, item = "" := by
  rw [List.eq_nil_iff_forall_not_mem]
  constructor
  · intro none item member
    by_contra written
    exact none item (mem_dedupe.mpr ⟨member, written⟩)
  · intro empty item member
    obtain ⟨member, written⟩ := mem_dedupe.mp member
    exact written (empty item member)

theorem dedupe_eq_nil_of_written {items : List String} (written : ∀ item ∈ items, item ≠ "") :
    dedupe items = [] ↔ items = [] := by
  rw [dedupe_eq_nil_iff, List.eq_nil_iff_forall_not_mem]
  constructor
  · intro empty item member
    exact written item member (empty item member)
  · intro none item member
    exact absurd member (none item)

/-! ### Repeated messages -/

theorem dedupe_snoc (items : List String) (item : String) :
    dedupe (items ++ [item]) =
      if item = "" ∨ item ∈ dedupe items then dedupe items else dedupe items ++ [item] := by
  unfold dedupe
  rw [List.filter_append]
  by_cases empty : item = ""
  · have none : [item].filter (fun item => decide (item ≠ "")) = [] := by
      rw [empty]
      rfl
    rw [if_pos (.inl empty), none, List.append_nil]
  · have whole : [item].filter (fun item => decide (item ≠ "")) = [item] :=
      List.filter_cons_of_pos (decide_eq_true empty)
    rw [whole, firsts_concat, List.map_id, id_eq]
    by_cases seen : item ∈ firsts id (items.filter fun item => decide (item ≠ ""))
    · rw [if_pos seen, if_pos (.inr seen)]
    · rw [if_neg seen, if_neg (not_or.mpr ⟨empty, seen⟩)]

theorem nodup_dedupe (items : List String) : (dedupe items).Nodup := by
  induction items using List.reverseRecOn with
  | nil => exact List.nodup_nil
  | append_singleton items item ih =>
      rw [dedupe_snoc]
      by_cases seen : item = "" ∨ item ∈ dedupe items
      · rw [if_pos seen]
        exact ih
      · rw [if_neg seen]
        apply List.nodup_append.mpr
        refine ⟨ih, List.nodup_singleton item, ?_⟩
        intro first inFirst second inSecond same
        rw [List.mem_singleton.mp inSecond] at same
        rw [same] at inFirst
        exact seen (.inr inFirst)

theorem dedupe_eq_self {items : List String} (distinct : items.Nodup)
    (written : ∀ item ∈ items, item ≠ "") : dedupe items = items := by
  induction items using List.reverseRecOn with
  | nil => rfl
  | append_singleton items item ih =>
      obtain ⟨before, -, apart⟩ := List.nodup_append.mp distinct
      have kept := ih before fun other member => written other (List.mem_append_left _ member)
      have own : item ≠ "" := written item (List.mem_append_right _ (List.mem_singleton_self item))
      rw [dedupe_snoc, kept, if_neg]
      rintro (empty | seen)
      · exact own empty
      · exact apart item seen item (List.mem_singleton_self item) rfl

theorem dedupe_dedupe (items : List String) : dedupe (dedupe items) = dedupe items :=
  dedupe_eq_self (nodup_dedupe items) fun _ member => (mem_dedupe.mp member).2

theorem dedupe_eq_self_iff {items : List String} (written : ∀ item ∈ items, item ≠ "") :
    dedupe items = items ↔ items.Nodup := by
  constructor
  · intro same
    rw [← same]
    exact nodup_dedupe items
  · intro distinct
    exact dedupe_eq_self distinct written

theorem dedupe_append_of_mem {items : List String} {message : String}
    (present : message ∈ dedupe items) : dedupe (dedupe items ++ [message]) = dedupe items := by
  rw [dedupe_snoc, dedupe_dedupe, if_pos (.inr present)]

theorem filter_dedupe (kind : String → Bool) (items : List String) :
    (dedupe items).filter kind = dedupe (items.filter kind) := by
  induction items using List.reverseRecOn with
  | nil => rfl
  | append_singleton items item ih =>
      have single : [item].filter kind = if kind item then [item] else [] := by
        simp [List.filter_cons]
      rw [dedupe_snoc, List.filter_append, single]
      by_cases ofKind : kind item = true
      · rw [if_pos ofKind, dedupe_snoc, ← ih]
        by_cases seen : item = "" ∨ item ∈ dedupe items
        · have kept := seen.imp_right fun member => List.mem_filter.mpr ⟨member, ofKind⟩
          rw [if_pos seen, if_pos kept]
        · have new : ¬(item = "" ∨ item ∈ (dedupe items).filter kind) := fun both =>
            seen (both.imp_right fun member => (List.mem_filter.mp member).1)
          rw [if_neg seen, if_neg new, List.filter_append, single, if_pos ofKind]
      · rw [if_neg ofKind, List.append_nil, ← ih]
        by_cases seen : item = "" ∨ item ∈ dedupe items
        · rw [if_pos seen]
        · rw [if_neg seen, List.filter_append, single, if_neg ofKind, List.append_nil]

end Algotradify.Dedup
