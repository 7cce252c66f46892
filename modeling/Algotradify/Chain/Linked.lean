/-
Chains of records, each of which names the mark of the one before it. Where a mark tells
what it was made of, the last one tells the whole chain.
-/

import Mathlib.Data.List.Basic

namespace Algotradify.Chain

variable {Record Link Content : Type*}

inductive Linked (named mark : Record → Link) (root : Link) : List Record → Link → Prop where
  | nil : Linked named mark root [] root
  | snoc {records : List Record} {record : Record}
      (earlier : Linked named mark root records (named record)) :
      Linked named mark root (records ++ [record]) (mark record)

/-- Equal marks of good records are made of equal contents, and the contents of a record say
which mark it names. -/
structure Tells (named mark : Record → Link) (content : Record → Content)
    (good : Record → Prop) : Prop where
  contents : ∀ x y, good x → good y → mark x = mark y → content x = content y
  names : ∀ x y, good x → good y → content x = content y → named x = named y

namespace Linked

variable {named mark : Record → Link} {root last : Link} {first second : List Record}
variable {good : Record → Prop} {content : Record → Content}

theorem eq_root (linked : Linked named mark root [] last) : last = root := by
  generalize empty : ([] : List Record) = records at linked
  cases linked with
  | nil => rfl
  | snoc _earlier => exact absurd empty.symm (by simp)

theorem eq_mark {record : Record} (linked : Linked named mark root (first ++ [record]) last) :
    last = mark record := by
  generalize whole : first ++ [record] = records at linked
  cases linked with
  | nil => exact absurd whole (by simp)
  | snoc _earlier =>
      obtain ⟨-, same⟩ := List.append_inj' whole rfl
      rw [List.singleton_inj.mp same]

theorem length_eq (left : Linked named mark root first last)
    (right : Linked named mark root second last)
    (tells : Tells named mark content good)
    (goodLeft : ∀ record ∈ first, good record) (goodRight : ∀ record ∈ second, good record)
    (rooted : ∀ record, mark record ≠ root) : first.length = second.length := by
  induction left generalizing second with
  | nil =>
      generalize same : root = link at right
      cases right with
      | nil => rfl
      | snoc before => exact absurd same.symm (rooted _)
  | @snoc records record earlier ih =>
      generalize same : mark record = link at right
      cases right with
      | nil => exact absurd same (rooted record)
      | @snoc others other before =>
          have ofRecord := goodLeft record (List.mem_append_right _ (List.mem_singleton_self _))
          have ofOther := goodRight other (List.mem_append_right _ (List.mem_singleton_self _))
          have contents := tells.contents record other ofRecord ofOther same
          rw [← tells.names record other ofRecord ofOther contents] at before
          have shorter := ih before
            (fun item member => goodLeft item (List.mem_append_left _ member))
            (fun item member => goodRight item (List.mem_append_left _ member))
          rw [List.length_append, List.length_append, shorter, List.length_singleton,
            List.length_singleton]

end Linked

end Algotradify.Chain
