/-
Takers that are served in turn from a list of slots, each with the first slot left that
fits it: what is handed out, what is left, and what can happen in one order or another.

Whatever slots can be given to some of the takers, one each, are given to them in some
order. So what holds in every order is what holds of every such assignment.
-/

import Mathlib.Data.List.Basic
import Mathlib.Data.List.Forall2
import Mathlib.Data.List.Perm.Basic

namespace Algotradify.Matching

variable {Taker Slot : Type*}

def takeFirst (passes : Slot → Bool) : List Slot → Option (Slot × List Slot)
  | [] => none
  | slot :: rest =>
      if passes slot then some (slot, rest)
      else (takeFirst passes rest).map fun found => (found.1, slot :: found.2)

/-- The takers with the slots they get, and the slots that are left. -/
def serve (fits : Taker → Slot → Bool) : List Taker → List Slot →
    List (Taker × Option Slot) × List Slot
  | [], slots => ([], slots)
  | taker :: rest, slots =>
      match takeFirst (fits taker) slots with
      | some (slot, others) =>
          let later := serve fits rest others
          ((taker, some slot) :: later.1, later.2)
      | none =>
          let later := serve fits rest slots
          ((taker, none) :: later.1, later.2)

theorem takeFirst_eq_none {passes : Slot → Bool} {slots : List Slot} :
    takeFirst passes slots = none ↔ ∀ slot ∈ slots, passes slot = false := by
  induction slots with
  | nil => simp [takeFirst]
  | cons slot rest ih =>
      by_cases own : passes slot = true
      · simp [takeFirst, own]
      · simp [takeFirst, own, ih]

theorem takeFirst_eq_some {passes : Slot → Bool} {slots others : List Slot} {slot : Slot}
    (found : takeFirst passes slots = some (slot, others)) :
    passes slot = true ∧ ∃ front back, slots = front ++ slot :: back ∧ others = front ++ back := by
  induction slots generalizing others with
  | nil => cases found
  | cons head rest ih =>
      rw [takeFirst] at found
      by_cases own : passes head = true
      · rw [if_pos own] at found
        cases found
        exact ⟨own, [], rest, rfl, rfl⟩
      · rw [if_neg own] at found
        obtain ⟨⟨first, remaining⟩, later, same⟩ := Option.map_eq_some_iff.mp found
        cases same
        obtain ⟨passed, front, back, rfl, rfl⟩ := ih later
        exact ⟨passed, head :: front, back, rfl, rfl⟩

theorem takeFirst_find (passes : Slot → Bool) (slots : List Slot) :
    (takeFirst passes slots).map Prod.fst = slots.find? passes := by
  induction slots with
  | nil => rfl
  | cons slot rest ih =>
      by_cases own : passes slot = true
      · simp [takeFirst, own]
      · rw [takeFirst, if_neg own, List.find?_cons_of_neg own, ← ih, Option.map_map]
        rfl

section Serve

variable {fits : Taker → Slot → Bool} {takers : List Taker} {slots : List Slot}

theorem serve_some {taker : Taker} {slot : Slot} {others : List Slot}
    (found : takeFirst (fits taker) slots = some (slot, others)) (takers : List Taker) :
    serve fits (taker :: takers) slots =
      ((taker, some slot) :: (serve fits takers others).1, (serve fits takers others).2) := by
  rw [serve, found]

theorem serve_none {taker : Taker} (missing : takeFirst (fits taker) slots = none)
    (takers : List Taker) :
    serve fits (taker :: takers) slots =
      ((taker, none) :: (serve fits takers slots).1, (serve fits takers slots).2) := by
  rw [serve, missing]

theorem serve_takers (fits : Taker → Slot → Bool) (takers : List Taker) (slots : List Slot) :
    (serve fits takers slots).1.map Prod.fst = takers := by
  induction takers generalizing slots with
  | nil => rfl
  | cons taker rest ih =>
      cases found : takeFirst (fits taker) slots with
      | none => rw [serve_none found, List.map_cons, ih]
      | some pair => rw [serve_some found, List.map_cons, ih]

theorem serve_slots (fits : Taker → Slot → Bool) (takers : List Taker) (slots : List Slot) :
    ((serve fits takers slots).1.filterMap Prod.snd ++ (serve fits takers slots).2).Perm slots := by
  induction takers generalizing slots with
  | nil => exact List.Perm.refl _
  | cons taker rest ih =>
      cases found : takeFirst (fits taker) slots with
      | none =>
          rw [serve_none found]
          exact ih slots
      | some pair =>
          obtain ⟨_, front, back, rfl, others⟩ := takeFirst_eq_some found
          rw [serve_some found]
          have later := ih pair.2
          rw [others] at later ⊢
          exact (later.cons pair.1).trans List.perm_middle.symm

theorem serve_fits {taker : Taker} {slot : Slot}
    (served : (taker, some slot) ∈ (serve fits takers slots).1) : fits taker slot = true := by
  induction takers generalizing slots with
  | nil => cases served
  | cons head rest ih =>
      cases found : takeFirst (fits head) slots with
      | none =>
          rw [serve_none found, List.mem_cons] at served
          rcases served with same | later
          · cases same
          · exact ih later
      | some pair =>
          rw [serve_some found, List.mem_cons] at served
          rcases served with same | later
          · cases same
            exact (takeFirst_eq_some found).1
          · exact ih later

theorem serve_left {taker : Taker} (unserved : (taker, none) ∈ (serve fits takers slots).1) :
    ∀ slot ∈ (serve fits takers slots).2, fits taker slot = false := by
  induction takers generalizing slots with
  | nil => cases unserved
  | cons head rest ih =>
      cases found : takeFirst (fits head) slots with
      | none =>
          rw [serve_none found] at unserved ⊢
          rcases List.mem_cons.mp unserved with same | later
          · cases same
            intro slot member
            apply takeFirst_eq_none.mp found
            exact (serve_slots fits rest slots).subset (List.mem_append_right _ member)
          · exact ih later
      | some pair =>
          rw [serve_some found] at unserved ⊢
          rcases List.mem_cons.mp unserved with same | later
          · cases same
          · exact ih later

theorem serve_assigned {firsts : List Taker} {taken : List Slot}
    (fitting : List.Forall₂ (fun taker slot => fits taker slot = true) firsts taken)
    (others : List Taker) (left : List Slot) :
    serve fits (firsts ++ others) (taken ++ left) =
      (firsts.zip (taken.map some) ++ (serve fits others left).1, (serve fits others left).2) := by
  induction fitting with
  | nil => rfl
  | @cons taker slot firsts taken own _ ih =>
      have found : takeFirst (fits taker) (slot :: taken ++ left) = some (slot, taken ++ left) := by
        rw [List.cons_append, takeFirst, if_pos own]
      rw [List.cons_append, serve_some found, ih]
      rfl

theorem serve_map {Tagged : Type*} (fits : Taker → Slot → Bool) (untag : Tagged → Slot)
    (takers : List Taker) (slots : List Tagged) :
    serve fits takers (slots.map untag) =
      ((serve (fun taker slot => fits taker (untag slot)) takers slots).1.map
          fun entry => (entry.1, entry.2.map untag),
        (serve (fun taker slot => fits taker (untag slot)) takers slots).2.map untag) := by
  have first (passes : Slot → Bool) (slots : List Tagged) :
      takeFirst passes (slots.map untag) = (takeFirst (fun slot => passes (untag slot)) slots).map
        fun found => (untag found.1, found.2.map untag) := by
    induction slots with
    | nil => rfl
    | cons slot rest ih =>
        by_cases own : passes (untag slot) = true
        · simp [takeFirst, own]
        · simp [takeFirst, own, ih, Function.comp_def]
  induction takers generalizing slots with
  | nil => rfl
  | cons taker rest ih =>
      have found := first (fits taker) slots
      cases taken : takeFirst (fun slot => fits taker (untag slot)) slots with
      | none =>
          rw [taken, Option.map_none] at found
          rw [serve_none found, serve_none taken, ih]
          rfl
      | some pair =>
          rw [taken, Option.map_some] at found
          rw [serve_some found, serve_some taken, ih]
          rfl

theorem zip_given {firsts : List Taker} {taken : List Slot}
    (fitting : List.Forall₂ (fun taker slot => fits taker slot = true) firsts taken) :
    (firsts.zip (taken.map some)).filterMap Prod.snd = taken := by
  induction fitting with
  | nil => rfl
  | cons _ _ ih => simpa using ih

end Serve

/-! ### Orders -/

/-- Some takers are given a slot each that fits; the others and the slots left over. -/
structure Assignment (fits : Taker → Slot → Bool) (takers : List Taker) (slots : List Slot)
    (firsts others : List Taker) (taken left : List Slot) : Prop where
  takers : (firsts ++ others).Perm takers
  slots : (taken ++ left).Perm slots
  fitting : List.Forall₂ (fun taker slot => fits taker slot = true) firsts taken

section Orders

variable {fits : Taker → Slot → Bool} {takers : List Taker} {slots : List Slot}

theorem serve_assignment (fits : Taker → Slot → Bool) (takers : List Taker) (slots : List Slot) :
    ∃ firsts others, Assignment fits takers slots firsts others
        ((serve fits takers slots).1.filterMap Prod.snd) (serve fits takers slots).2 ∧
      (∀ taker, (taker, none) ∈ (serve fits takers slots).1 ↔ taker ∈ others) := by
  have cut (entries : List (Taker × Option Slot))
      (each : ∀ taker slot, (taker, some slot) ∈ entries → fits taker slot = true) :
      ∃ firsts others, (firsts ++ others).Perm (entries.map Prod.fst) ∧
        List.Forall₂ (fun taker slot => fits taker slot = true) firsts
          (entries.filterMap Prod.snd) ∧ ∀ taker, (taker, none) ∈ entries ↔ taker ∈ others := by
    induction entries with
    | nil => exact ⟨[], [], List.Perm.refl _, .nil, by simp⟩
    | cons entry rest ih =>
        obtain ⟨firsts, others, same, fitting, without⟩ :=
          ih fun taker slot member => each taker slot (List.mem_cons_of_mem entry member)
        obtain ⟨taker, given⟩ := entry
        cases given with
        | none =>
            refine ⟨firsts, taker :: others, ?_, fitting, ?_⟩
            · exact List.perm_middle.trans (same.cons taker)
            · intro other
              simp [without]
        | some slot =>
            refine ⟨taker :: firsts, others, same.cons taker, ?_, ?_⟩
            · exact .cons (each taker slot List.mem_cons_self) fitting
            · intro other
              simp [without]
  obtain ⟨firsts, others, same, fitting, without⟩ :=
    cut (serve fits takers slots).1 fun taker slot member => serve_fits member
  rw [serve_takers] at same
  exact ⟨firsts, others, ⟨same, serve_slots fits takers slots, fitting⟩, without⟩

variable (owns : Taker → Slot → Prop) (clash : Slot → Slot → Prop)

/-- No slot that is handed out clashes with one that is left, and every taker with a slot of
its own gets one of its own. -/
structure Sound (slots : List Slot) (entries : List (Taker × Option Slot)) (left : List Slot) :
    Prop where
  apart : ∀ slot ∈ entries.filterMap Prod.snd, ∀ other ∈ left, ¬ clash slot other
  own : ∀ taker given, (taker, given) ∈ entries → (∃ slot ∈ slots, owns taker slot) →
    ∃ slot, given = some slot ∧ owns taker slot

/-- A taker may get a slot that is not its own, or none of its own, or two slots that clash
may be parted. -/
inductive Faulty (fits : Taker → Slot → Bool) (takers : List Taker) (slots : List Slot) : Prop where
  | strayed (taker : Taker) (slot foreign : Slot) (among : taker ∈ takers) (listed : slot ∈ slots)
      (given : foreign ∈ slots) (own : owns taker slot) (fit : fits taker foreign = true)
      (stranger : ¬ owns taker foreign)
  | crowded (firsts others : List Taker) (taken left : List Slot)
      (assigned : Assignment fits takers slots firsts others taken left) (taker : Taker)
      (slot : Slot) (waits : taker ∈ others) (listed : slot ∈ slots) (own : owns taker slot)
      (gone : ∀ other ∈ left, ¬ owns taker other)
  | parted (firsts others : List Taker) (taken left : List Slot)
      (assigned : Assignment fits takers slots firsts others taken left) (slot other : Slot)
      (handed : slot ∈ taken) (stays : other ∈ left) (clashes : clash slot other)
      (unwanted : ∀ taker ∈ others, fits taker other = false)

theorem Faulty.perm {takers' : List Taker} {slots' : List Slot}
    (sameTakers : takers'.Perm takers) (sameSlots : slots'.Perm slots)
    (faulty : Faulty owns clash fits takers' slots') : Faulty owns clash fits takers slots := by
  have moved {firsts others : List Taker} {taken left : List Slot}
      (assigned : Assignment fits takers' slots' firsts others taken left) :
      Assignment fits takers slots firsts others taken left :=
    ⟨assigned.takers.trans sameTakers, assigned.slots.trans sameSlots, assigned.fitting⟩
  cases faulty with
  | strayed taker slot foreign among listed given own fit stranger =>
      exact .strayed taker slot foreign (sameTakers.subset among) (sameSlots.subset listed)
        (sameSlots.subset given) own fit stranger
  | crowded firsts others taken left assigned taker slot waits listed own gone =>
      exact .crowded firsts others taken left (moved assigned) taker slot waits
        (sameSlots.subset listed) own gone
  | parted firsts others taken left assigned slot other handed stays clashes unwanted =>
      exact .parted firsts others taken left (moved assigned) slot other handed stays clashes
        unwanted

theorem sound_of_faultless (owned : ∀ taker slot, owns taker slot → fits taker slot = true)
    (faultless : ¬ Faulty owns clash fits takers slots) :
    Sound owns clash slots (serve fits takers slots).1 (serve fits takers slots).2 := by
  obtain ⟨firsts, others, assigned, without⟩ := serve_assignment fits takers slots
  refine ⟨?_, ?_⟩
  · intro slot handed other stays clashes
    apply faultless
    refine .parted firsts others _ _ assigned slot other handed stays clashes ?_
    intro taker waits
    exact serve_left ((without taker).mpr waits) other stays
  · rintro taker given member ⟨slot, listed, own⟩
    cases given with
    | none =>
        exfalso
        apply faultless
        refine .crowded firsts others _ _ assigned taker slot ((without taker).mp member) listed own ?_
        intro other stays otherOwn
        have refused := serve_left member other stays
        rw [owned taker other otherOwn] at refused
        cases refused
    | some foreign =>
        refine ⟨foreign, rfl, ?_⟩
        by_contra stranger
        apply faultless
        refine .strayed taker slot foreign ?_ listed ?_ own (serve_fits member) stranger
        · have among := List.mem_map_of_mem (f := Prod.fst) member
          rw [serve_takers] at among
          exact among
        · have handed : foreign ∈ (serve fits takers slots).1.filterMap Prod.snd :=
            List.mem_filterMap.mpr ⟨_, member, rfl⟩
          exact (serve_slots fits takers slots).subset (List.mem_append_left _ handed)

theorem Faulty.exists_order (faulty : Faulty owns clash fits takers slots) :
    ∃ takers' slots', takers'.Perm takers ∧ slots'.Perm slots ∧
      ¬ Sound owns clash slots' (serve fits takers' slots').1 (serve fits takers' slots').2 := by
  cases faulty with
  | strayed taker slot foreign among listed given own fit stranger =>
      obtain ⟨front, back, rfl⟩ := List.append_of_mem among
      obtain ⟨before, after, rfl⟩ := List.append_of_mem given
      refine ⟨taker :: (front ++ back), foreign :: (before ++ after), List.perm_middle.symm,
        List.perm_middle.symm, ?_⟩
      intro sound
      have found : takeFirst (fits taker) (foreign :: (before ++ after)) =
          some (foreign, before ++ after) := if_pos fit
      rw [serve_some found] at sound
      obtain ⟨mine, same, owned⟩ := sound.own taker _ List.mem_cons_self
        ⟨slot, List.perm_middle.subset listed, own⟩
      cases same
      exact stranger owned
  | crowded firsts others taken left assigned taker slot waits listed own gone =>
      refine ⟨_, _, assigned.takers, assigned.slots, ?_⟩
      rw [serve_assigned assigned.fitting]
      intro sound
      have among : taker ∈ (serve fits others left).1.map Prod.fst := by
        rw [serve_takers]
        exact waits
      obtain ⟨⟨_, given⟩, member, rfl⟩ := List.mem_map.mp among
      obtain ⟨mine, same, owned⟩ := sound.own _ given (List.mem_append_right _ member)
        ⟨slot, assigned.slots.symm.subset listed, own⟩
      apply gone mine _ owned
      have handed : mine ∈ (serve fits others left).1.filterMap Prod.snd :=
        List.mem_filterMap.mpr ⟨_, member, same⟩
      exact (serve_slots fits others left).subset (List.mem_append_left _ handed)
  | parted firsts others taken left assigned slot other handed stays clashes unwanted =>
      refine ⟨_, _, assigned.takers, assigned.slots, ?_⟩
      rw [serve_assigned assigned.fitting]
      intro sound
      have out : slot ∈ (firsts.zip (taken.map some) ++ (serve fits others left).1).filterMap
          Prod.snd := by
        rw [List.filterMap_append, zip_given assigned.fitting]
        exact List.mem_append_left _ handed
      refine sound.apart slot out other ?_ clashes
      have either := (serve_slots fits others left).symm.subset stays
      rcases List.mem_append.mp either with taken' | kept
      · obtain ⟨⟨taker, given⟩, member, same⟩ := List.mem_filterMap.mp taken'
        have fit : fits taker other = true := by
          refine serve_fits (?_ : (taker, some other) ∈ (serve fits others left).1)
          rw [← same]
          exact member
        have waits : taker ∈ others := by
          have among := List.mem_map_of_mem (f := Prod.fst) member
          rw [serve_takers] at among
          exact among
        rw [unwanted taker waits] at fit
        cases fit
      · exact kept

end Orders

end Algotradify.Matching
