/-
Runs of the blocker registry: which blockers are reported active, and since when.

The time at which a record was set is that of its first activation. It is the time of the most
recent one exactly in the runs in which no blocker becomes active a second time later on.
-/

import Algotradify.Core.BlockerLifecycle

namespace Algotradify.Core.BlockerLifecycle

open Py

variable {evaluation : Evaluation} {scope : Option String} {operation : Operation}

inductive Operation where
  | evaluate (evaluation : Evaluation)
  | expire (nowTs : ℚ) (scope : Option String)

namespace Operation

def nowTs : Operation → ℚ
  | .evaluate evaluation => evaluation.nowTs
  | .expire nowTs _ => nowTs

def apply (registry : Registry) : Operation → Registry
  | .evaluate evaluation => BlockerLifecycle.evaluate registry evaluation
  | .expire nowTs scope => expireStale registry nowTs scope

end Operation

def afterOperations (operations : List Operation) : Registry :=
  operations.foldl Operation.apply []

theorem afterOperations_snoc (operations : List Operation) (operation : Operation) :
    afterOperations (operations ++ [operation]) =
      operation.apply (afterOperations operations) := by
  unfold afterOperations
  rw [List.foldl_append]
  rfl

/-! ### What a run should say -/

/-- The last evaluation of a blocker with the times of the expiries that came after it. -/
def observe (key : BlockerKey) (seen : Option (Evaluation × List ℚ)) :
    Operation → Option (Evaluation × List ℚ)
  | .evaluate evaluation => if evaluation.key = key then some (evaluation, []) else seen
  | .expire nowTs scope =>
      if passes scope key.scope then seen.map fun last => (last.1, last.2 ++ [nowTs]) else seen

def observed (key : BlockerKey) (operations : List Operation) : Option (Evaluation × List ℚ) :=
  operations.foldl (observe key) none

theorem observed_snoc (key : BlockerKey) (operations : List Operation) (operation : Operation) :
    observed key (operations ++ [operation]) =
      observe key (observed key operations) operation := by
  unfold observed
  rw [List.foldl_append]
  rfl

/-- The last evaluation was active, and at the last expiry it was within its time to live. -/
def Stands (seen : Option (Evaluation × List ℚ)) : Prop :=
  ∃ evaluation expiries, seen = some (evaluation, expiries) ∧
    evaluation.isActive = true ∧ ∀ nowTs, expiries.getLast? = some nowTs →
      withinTtl evaluation.expiryTtlSec (nowTs - evaluation.nowTs) = true

def isActive (registry : Registry) (key : BlockerKey) : Bool :=
  (registry.lookup key).any BlockerRecord.active

/-- The time of the most recent change of a blocker from inactive to active. -/
def activation (key : BlockerKey) (operations : List Operation) : Option ℚ :=
  (operations.foldl (fun state operation =>
    (operation.apply state.1,
      if isActive (operation.apply state.1) key && !isActive state.1 key then
        some operation.nowTs
      else state.2)) (([] : Registry), none)).2

structure TellsTruth (operations : List Operation) : Prop where
  active : ∀ key, (∃ record ∈ getActive (afterOperations operations) none none,
    record.key = key) ↔ Stands (observed key operations)
  set : ∀ key record, (afterOperations operations).lookup key = some record →
    activation key operations = some record.lastSetTs

/-- An operation activates no blocker anew, unless at the time at which it was set, and it
expires a blocker by its last refresh. -/
def Honest (registry : Registry) : Operation → Prop
  | .evaluate evaluation => evaluation.isActive = true →
      ∀ existing, registry.lookup evaluation.key = some existing → existing.active = false →
        evaluation.nowTs = existing.lastSetTs
  | .expire nowTs scope => ∀ key record, registry.lookup key = some record →
      record.active = true → passes scope key.scope = true →
        withinTtl record.expiryTtlSec (nowTs - record.anchor) =
          withinTtl record.expiryTtlSec (nowTs - record.lastRefreshTs)

theorem activation_snoc (key : BlockerKey) (operations : List Operation) (operation : Operation) :
    activation key (operations ++ [operation]) =
      if isActive (afterOperations (operations ++ [operation])) key &&
          !isActive (afterOperations operations) key then some operation.nowTs
      else activation key operations := by
  have orders (operations : List Operation) : (operations.foldl (fun state operation =>
      (operation.apply state.1,
        if isActive (operation.apply state.1) key && !isActive state.1 key then
          some operation.nowTs
        else state.2)) (([] : Registry), (none : Option ℚ))).1 = afterOperations operations := by
    induction operations using List.reverseRecOn with
    | nil => rfl
    | append_singleton operations operation ih =>
        rw [List.foldl_append, afterOperations_snoc, ← ih]
        rfl
  rw [afterOperations_snoc, ← orders operations]
  unfold activation
  rw [List.foldl_append]
  rfl

/-! ### Records -/

section Step

variable {registry : Registry} {key : BlockerKey} {record : BlockerRecord}

theorem lookup_evaluate_of_ne (other : key ≠ evaluation.key) :
    (evaluate registry evaluation).lookup key = registry.lookup key := by
  unfold evaluate
  cases registry.lookup evaluation.key with
  | none =>
      cases evaluation.isActive with
      | true => exact Assoc.lookup_set_of_ne _ _ other
      | false => rfl
  | some existing => exact Assoc.lookup_set_of_ne _ _ other

theorem lookup_evaluate_new (absent : registry.lookup evaluation.key = none) :
    (evaluate registry evaluation).lookup evaluation.key =
      if evaluation.isActive then some evaluation.newRecord else none := by
  unfold evaluate
  rw [absent]
  cases evaluation.isActive with
  | true => exact Assoc.lookup_set_self _ _ _
  | false => exact absent

theorem lookup_evaluate_existing {existing : BlockerRecord}
    (held : registry.lookup evaluation.key = some existing) :
    (evaluate registry evaluation).lookup evaluation.key =
      some (if evaluation.isActive then evaluation.refresh existing
        else evaluation.clear existing) := by
  unfold evaluate
  rw [held]
  exact Assoc.lookup_set_self _ _ _

theorem lookup_expireStale (nowTs : ℚ) (scope : Option String) :
    (expireStale registry nowTs scope).lookup key =
      (registry.lookup key).map (BlockerRecord.expireStale nowTs scope) :=
  Assoc.lookup_mapValues _ _ _

theorem clear_active (evaluation : Evaluation) (existing : BlockerRecord) :
    (evaluation.clear existing).active = false := by
  unfold Evaluation.clear
  split
  · rfl
  · rename_i inactive
    exact Bool.eq_false_iff.mpr inactive

theorem clear_lastSetTs (evaluation : Evaluation) (existing : BlockerRecord) :
    (evaluation.clear existing).lastSetTs = existing.lastSetTs := by
  unfold Evaluation.clear
  split <;> rfl

theorem clear_key (evaluation : Evaluation) (existing : BlockerRecord) :
    (evaluation.clear existing).key = existing.key := by
  unfold Evaluation.clear
  split <;> rfl

theorem expireStale_key (nowTs : ℚ) (scope : Option String) (record : BlockerRecord) :
    (record.expireStale nowTs scope).key = record.key := by
  unfold BlockerRecord.expireStale
  split <;> rfl

theorem expireStale_lastSetTs (nowTs : ℚ) (scope : Option String) (record : BlockerRecord) :
    (record.expireStale nowTs scope).lastSetTs = record.lastSetTs := by
  unfold BlockerRecord.expireStale
  split <;> rfl

theorem expireStale_eq_self {nowTs : ℚ} (stays : (record.expireStale nowTs scope).active = true) :
    record.expireStale nowTs scope = record := by
  unfold BlockerRecord.expireStale at *
  split at stays
  · cases stays
  · rename_i kept
    exact if_neg kept

theorem expireStale_active (nowTs : ℚ) (scope : Option String) (record : BlockerRecord) :
    (record.expireStale nowTs scope).active =
      (record.active && (!passes scope record.scope ||
        withinTtl record.expiryTtlSec (nowTs - record.anchor))) := by
  unfold BlockerRecord.expireStale
  cases active : record.active <;> cases passed : passes scope record.scope <;>
    cases within : withinTtl record.expiryTtlSec (nowTs - record.anchor) <;>
    simp [active, BlockerRecord.expire]

end Step

theorem withinTtl_antitone {ttl : Option PyFloat} {young old : ℚ} (older : young ≤ old)
    (within : withinTtl ttl old = true) : withinTtl ttl young = true := by
  cases ttl with
  | none => rfl
  | some ttl =>
      unfold withinTtl at *
      rw [Bool.or_eq_true] at *
      rcases within with unlimited | within
      · exact .inl unlimited
      · right
        apply PyFloat.le_trans _ within
        rw [PyFloat.finite_le]
        exact older

/-! ### Evaluations and records -/

/-- What a registry holds of a blocker comes from the last evaluation of it. -/
structure Linked (registry : Registry) (key : BlockerKey) (last : Option Evaluation) : Prop where
  absent : registry.lookup key = none →
    ∀ evaluation, last = some evaluation → evaluation.isActive = false
  present : ∀ record, registry.lookup key = some record →
    record.key = key ∧ ∃ evaluation, last = some evaluation ∧
      (record.active = true → evaluation.isActive = true ∧
        record.lastRefreshTs = evaluation.nowTs ∧ record.expiryTtlSec = evaluation.expiryTtlSec)

section Linked

variable {registry : Registry} {key : BlockerKey} {last : Option Evaluation}

theorem Linked.evaluate_own (linked : Linked registry evaluation.key last) :
    Linked (evaluate registry evaluation) evaluation.key (some evaluation) := by
  cases before : registry.lookup evaluation.key with
  | none =>
      have after := lookup_evaluate_new before
      cases active : evaluation.isActive with
      | true =>
          rw [active, if_pos rfl] at after
          constructor
          · intro absent
            rw [after] at absent
            cases absent
          · intro record held
            rw [after] at held
            cases held
            exact ⟨rfl, evaluation, rfl, fun _ => ⟨active, rfl, rfl⟩⟩
      | false =>
          rw [active, if_neg (by decide)] at after
          constructor
          · intro _ other same
            rw [← Option.some.inj same]
            exact active
          · intro record held
            rw [after] at held
            cases held
  | some existing =>
      have after := lookup_evaluate_existing before
      have own := (linked.present existing before).1
      constructor
      · intro absent
        rw [after] at absent
        cases absent
      · intro record held
        rw [after] at held
        cases active : evaluation.isActive with
        | true =>
            rw [active, if_pos rfl] at held
            cases held
            exact ⟨own, evaluation, rfl, fun _ => ⟨active, rfl, rfl⟩⟩
        | false =>
            rw [active, if_neg (by decide)] at held
            cases held
            refine ⟨(clear_key evaluation existing).trans own, evaluation, rfl, ?_⟩
            intro stays
            rw [clear_active] at stays
            cases stays

theorem Linked.evaluate_other (linked : Linked registry key last) (other : key ≠ evaluation.key) :
    Linked (evaluate registry evaluation) key last := by
  constructor
  · rw [lookup_evaluate_of_ne other]
    exact linked.absent
  · rw [lookup_evaluate_of_ne other]
    exact linked.present

theorem Linked.expire (linked : Linked registry key last) (nowTs : ℚ) (scope : Option String) :
    Linked (expireStale registry nowTs scope) key last := by
  constructor
  · intro absent
    rw [lookup_expireStale, Option.map_eq_none_iff] at absent
    exact linked.absent absent
  · intro record held
    rw [lookup_expireStale] at held
    obtain ⟨before, ofBefore, rfl⟩ := Option.map_eq_some_iff.mp held
    obtain ⟨own, evaluation, isLast, current⟩ := linked.present before ofBefore
    refine ⟨(expireStale_key nowTs scope before).trans own, evaluation, isLast, ?_⟩
    intro stays
    have same := expireStale_eq_self stays
    rw [same] at stays ⊢
    exact current stays

end Linked

theorem map_observe_evaluate (key : BlockerKey) (seen : Option (Evaluation × List ℚ))
    (evaluation : Evaluation) :
    (observe key seen (.evaluate evaluation)).map Prod.fst =
      if evaluation.key = key then some evaluation else seen.map Prod.fst := by
  change (if evaluation.key = key then some (evaluation, []) else seen).map Prod.fst = _
  split <;> rfl

theorem map_observe_expire (key : BlockerKey) (seen : Option (Evaluation × List ℚ)) (nowTs : ℚ)
    (scope : Option String) :
    (observe key seen (.expire nowTs scope)).map Prod.fst = seen.map Prod.fst := by
  change (if passes scope key.scope then
    seen.map fun last => (last.1, last.2 ++ [nowTs]) else seen).map Prod.fst = _
  split
  · rw [Option.map_map]
    rfl
  · rfl

theorem linked_afterOperations (operations : List Operation) (key : BlockerKey) :
    Linked (afterOperations operations) key ((observed key operations).map Prod.fst) := by
  induction operations using List.reverseRecOn with
  | nil =>
      constructor
      · intro _ evaluation impossible
        cases impossible
      · intro record held
        cases held
  | append_singleton operations operation ih =>
      rw [afterOperations_snoc, observed_snoc]
      cases operation with
      | expire nowTs scope =>
          rw [map_observe_expire]
          exact ih.expire nowTs scope
      | evaluate evaluation =>
          rw [map_observe_evaluate]
          by_cases own : evaluation.key = key
          · subst own
            rw [if_pos rfl]
            exact ih.evaluate_own
          · rw [if_neg own]
            exact ih.evaluate_other fun same => own same.symm

theorem distinct_afterOperations (operations : List Operation) :
    Assoc.Distinct (afterOperations operations) := by
  induction operations using List.reverseRecOn with
  | nil => exact List.nodup_nil
  | append_singleton operations operation ih =>
      rw [afterOperations_snoc]
      cases operation with
      | expire nowTs scope =>
          change Assoc.Distinct (Assoc.mapValues _ _)
          unfold Assoc.Distinct Assoc.mapValues
          rw [List.map_map]
          exact ih
      | evaluate evaluation =>
          change Assoc.Distinct (evaluate _ _)
          unfold evaluate
          split
          · split
            · exact ih.set _ _
            · exact ih
          · exact ih.set _ _

theorem reported_iff (operations : List Operation) (key : BlockerKey) :
    (∃ record ∈ getActive (afterOperations operations) none none, record.key = key) ↔
      isActive (afterOperations operations) key = true := by
  have distinct := distinct_afterOperations operations
  unfold getActive isActive
  simp only [List.mem_insertionSort, List.mem_filter, List.mem_map, Option.any_eq_true]
  constructor
  · intro reported
    obtain ⟨record, ⟨⟨⟨other, value⟩, member, rfl⟩, passed⟩, own⟩ := reported
    have held := (Assoc.lookup_eq_some_iff distinct other value).mpr member
    have same := ((linked_afterOperations operations other).present value held).1
    change value.key = key at own
    rw [own] at same
    subst same
    refine ⟨value, held, ?_⟩
    simp only [Bool.and_eq_true] at passed
    exact passed.1.1
  · intro active
    obtain ⟨record, held, stays⟩ := active
    have member := (Assoc.lookup_eq_some_iff distinct key record).mp held
    have own := ((linked_afterOperations operations key).present record held).1
    exact ⟨record, ⟨⟨(key, record), member, rfl⟩, by simp [stays, passes]⟩, own⟩

/-! ### Activity -/

section Activity

variable {registry : Registry} {key : BlockerKey} {seen : Option (Evaluation × List ℚ)}

theorem isActive_evaluate (registry : Registry) (evaluation : Evaluation) :
    isActive (evaluate registry evaluation) evaluation.key = evaluation.isActive := by
  unfold isActive
  cases before : registry.lookup evaluation.key with
  | none =>
      rw [lookup_evaluate_new before]
      cases evaluation.isActive <;> rfl
  | some existing =>
      rw [lookup_evaluate_existing before]
      cases evaluation.isActive with
      | true => rfl
      | false => exact clear_active evaluation existing

theorem stands_observe_own (evaluation : Evaluation) :
    Stands (observe evaluation.key seen (.evaluate evaluation)) ↔ evaluation.isActive = true := by
  have last : observe evaluation.key seen (.evaluate evaluation) = some (evaluation, []) :=
    if_pos rfl
  rw [last]
  constructor
  · intro stands
    obtain ⟨other, expiries, same, active, -⟩ := stands
    cases same
    exact active
  · intro active
    refine ⟨evaluation, [], rfl, active, ?_⟩
    intro nowTs impossible
    cases impossible

theorem stands_observe_expire {nowTs : ℚ} (covered : passes scope key.scope = true)
    {expiries : List ℚ} (last : seen = some (evaluation, expiries)) :
    Stands (observe key seen (.expire nowTs scope)) ↔ evaluation.isActive = true ∧
      withinTtl evaluation.expiryTtlSec (nowTs - evaluation.nowTs) = true := by
  have now : observe key seen (.expire nowTs scope) = some (evaluation, expiries ++ [nowTs]) := by
    rw [last]
    exact if_pos covered
  rw [now]
  constructor
  · intro stands
    obtain ⟨other, times, same, active, within⟩ := stands
    cases same
    exact ⟨active, within nowTs (by simp)⟩
  · intro both
    refine ⟨evaluation, _, rfl, both.1, ?_⟩
    intro other same
    rw [List.getLast?_concat] at same
    rw [← Option.some.inj same]
    exact both.2

theorem not_stands_expire {nowTs : ℚ}
    (recent : ∀ evaluation expiries, seen = some (evaluation, expiries) →
      ∀ earlier ∈ expiries, earlier ≤ nowTs)
    (stands : Stands (observe key seen (.expire nowTs scope))) : Stands seen := by
  by_cases covered : passes scope key.scope = true
  · cases seen with
    | none =>
        obtain ⟨other, times, same, -⟩ := stands
        rw [show observe key none (.expire nowTs scope) = none from if_pos covered] at same
        cases same
    | some last =>
        obtain ⟨evaluation, expiries⟩ := last
        obtain ⟨active, within⟩ := (stands_observe_expire covered rfl).mp stands
        refine ⟨evaluation, expiries, rfl, active, ?_⟩
        intro earlier isLast
        apply withinTtl_antitone _ within
        have early := recent evaluation expiries rfl earlier (List.mem_of_getLast? isLast)
        exact sub_le_sub_right early _
  · rw [show observe key seen (.expire nowTs scope) = seen from if_neg covered] at stands
    exact stands

theorem isActive_expire_iff {nowTs : ℚ} (linked : Linked registry key (seen.map Prod.fst))
    (recent : ∀ evaluation expiries, seen = some (evaluation, expiries) →
      ∀ earlier ∈ expiries, earlier ≤ nowTs) (before : isActive registry key = true ↔ Stands seen) :
    (isActive (expireStale registry nowTs scope) key = true ↔
        Stands (observe key seen (.expire nowTs scope))) ↔
      ∀ record, registry.lookup key = some record → record.active = true →
        passes scope key.scope = true →
          withinTtl record.expiryTtlSec (nowTs - record.anchor) =
            withinTtl record.expiryTtlSec (nowTs - record.lastRefreshTs) := by
  cases held : registry.lookup key with
  | none =>
      have inactive : isActive registry key = false := by
        unfold isActive
        rw [held]
        rfl
      have after : isActive (expireStale registry nowTs scope) key = false := by
        unfold isActive
        rw [lookup_expireStale, held]
        rfl
      apply iff_of_true
      · rw [after]
        apply iff_of_false (by decide)
        intro stands
        rw [before.mpr (not_stands_expire recent stands)] at inactive
        cases inactive
      · intro record impossible
        cases impossible
  | some record =>
      obtain ⟨own, evaluation, isLast, current⟩ := linked.present record held
      have sameScope : record.scope = key.scope := by rw [← own]; rfl
      have after : isActive (expireStale registry nowTs scope) key =
          (record.active && (!passes scope key.scope ||
            withinTtl record.expiryTtlSec (nowTs - record.anchor))) := by
        unfold isActive
        rw [lookup_expireStale, held, ← sameScope]
        exact expireStale_active nowTs scope record
      have now : isActive registry key = record.active := by
        unfold isActive
        rw [held]
        rfl
      cases active : record.active with
      | false =>
          rw [active] at after now
          apply iff_of_true
          · rw [after]
            apply iff_of_false (by simp)
            intro stands
            rw [before.mpr (not_stands_expire recent stands)] at now
            cases now
          · intro other same stays
            rw [← Option.some.inj same, active] at stays
            cases stays
      | true =>
          rw [active, Bool.true_and] at after
          obtain ⟨evaluated, refreshed, ttl⟩ := current active
          by_cases covered : passes scope key.scope = true
          · obtain ⟨⟨other, expiries⟩, seenIs, first⟩ := Option.map_eq_some_iff.mp isLast
            change other = evaluation at first
            subst first
            rw [after, covered, stands_observe_expire covered seenIs, ← ttl, ← refreshed]
            simp only [Bool.not_true, Bool.false_or, evaluated, true_and]
            constructor
            · intro same later isRecord _ _
              rw [← Option.some.inj isRecord]
              exact Bool.eq_iff_iff.mpr same
            · intro same
              rw [same record rfl active trivial]
          · rw [show observe key seen (.expire nowTs scope) = seen from if_neg covered]
            apply iff_of_true
            · rw [← before, now, after, active]
              simp [covered]
            · intro other _ _ impossible
              exact absurd impossible covered

end Activity

theorem mem_of_observed {operations : List Operation} {key : BlockerKey} {expiries : List ℚ}
    (seen : observed key operations = some (evaluation, expiries)) {time : ℚ}
    (member : time ∈ expiries) : ∃ operation ∈ operations, operation.nowTs = time := by
  induction operations using List.reverseRecOn generalizing evaluation expiries with
  | nil => cases seen
  | append_singleton operations operation ih =>
      have earlier {evaluation : Evaluation} {expiries : List ℚ}
          (before : observed key operations = some (evaluation, expiries))
          (member : time ∈ expiries) :
          ∃ found ∈ operations ++ [operation], found.nowTs = time := by
        obtain ⟨found, present, same⟩ := ih before member
        exact ⟨found, List.mem_append_left _ present, same⟩
      rw [observed_snoc] at seen
      cases operation with
      | evaluate own =>
          change (if own.key = key then some (own, []) else observed key operations) = _ at seen
          split at seen
          · cases seen
            cases member
          · exact earlier seen member
      | expire nowTs scope =>
          change (if passes scope key.scope then
            (observed key operations).map fun last => (last.1, last.2 ++ [nowTs])
            else observed key operations) = _ at seen
          split at seen
          · obtain ⟨⟨other, times⟩, before, same⟩ := Option.map_eq_some_iff.mp seen
            cases same
            rcases List.mem_append.mp member with old | new
            · exact earlier before old
            · refine ⟨.expire nowTs scope, by simp, ?_⟩
              exact (List.mem_singleton.mp new).symm
          · exact earlier seen member

/-! ### Times of activation -/

section Activation

variable {operations : List Operation}

theorem lastSetTs_apply {key : BlockerKey} {record : BlockerRecord}
    (held : (operation.apply (afterOperations operations)).lookup key = some record) :
    (∃ before, (afterOperations operations).lookup key = some before ∧
        record.lastSetTs = before.lastSetTs) ∨
      (afterOperations operations).lookup key = none ∧ record.active = true ∧
        record.lastSetTs = operation.nowTs := by
  cases operation with
  | expire nowTs scope =>
      change (expireStale _ nowTs scope).lookup key = _ at held
      rw [lookup_expireStale] at held
      obtain ⟨before, ofBefore, rfl⟩ := Option.map_eq_some_iff.mp held
      exact .inl ⟨before, ofBefore, expireStale_lastSetTs nowTs scope before⟩
  | evaluate evaluation =>
      change (evaluate _ evaluation).lookup key = _ at held
      by_cases own : key = evaluation.key
      · subst own
        cases before : (afterOperations operations).lookup evaluation.key with
        | none =>
            right
            rw [lookup_evaluate_new before] at held
            split at held
            · cases held
              exact ⟨rfl, rfl, rfl⟩
            · cases held
        | some existing =>
            left
            refine ⟨existing, rfl, ?_⟩
            rw [lookup_evaluate_existing before] at held
            split at held
            · cases held
              rfl
            · cases held
              exact clear_lastSetTs evaluation existing
      · left
        rw [lookup_evaluate_of_ne own] at held
        exact ⟨record, held, rfl⟩

theorem evaluated_of_activated {key : BlockerKey} {before : BlockerRecord}
    (held : (afterOperations operations).lookup key = some before)
    (inactive : before.active = false)
    (activated : isActive (operation.apply (afterOperations operations)) key = true) :
    ∃ evaluation, operation = .evaluate evaluation ∧ evaluation.key = key ∧
      evaluation.isActive = true := by
  cases operation with
  | expire nowTs scope =>
      change isActive (expireStale _ nowTs scope) key = true at activated
      unfold isActive at activated
      rw [lookup_expireStale, held] at activated
      change (before.expireStale nowTs scope).active = true at activated
      rw [expireStale_active, inactive] at activated
      cases activated
  | evaluate evaluation =>
      change isActive (evaluate _ evaluation) key = true at activated
      by_cases own : evaluation.key = key
      · subst own
        rw [isActive_evaluate] at activated
        exact ⟨evaluation, rfl, rfl, activated⟩
      · unfold isActive at activated
        rw [lookup_evaluate_of_ne fun same => own same.symm, held] at activated
        change before.active = true at activated
        rw [inactive] at activated
        cases activated

end Activation

/-! ### Runs -/

theorem tellsTruth_nil : TellsTruth [] := by
  constructor
  · intro key
    apply iff_of_false
    · intro reported
      obtain ⟨record, member, -⟩ := reported
      simp [getActive, afterOperations] at member
    · intro stands
      obtain ⟨evaluation, expiries, impossible, -⟩ := stands
      cases impossible
  · intro key record impossible
    cases impossible

theorem tellsTruth_snoc_iff {operations : List Operation} (truth : TellsTruth operations)
    (later : ∀ earlier ∈ operations, earlier.nowTs ≤ operation.nowTs) :
    TellsTruth (operations ++ [operation]) ↔ Honest (afterOperations operations) operation := by
  have active (key : BlockerKey) := (reported_iff operations key).symm.trans (truth.active key)
  have recent (key : BlockerKey) : ∀ evaluation expiries,
      observed key operations = some (evaluation, expiries) →
        ∀ earlier ∈ expiries, earlier ≤ operation.nowTs := by
    intro evaluation expiries seen earlier member
    obtain ⟨found, present, same⟩ := mem_of_observed seen member
    rw [← same]
    exact later found present
  constructor
  · intro after
    cases operation with
    | expire nowTs scope =>
        intro key
        apply (isActive_expire_iff (linked_afterOperations operations key) (recent key)
          (active key)).mp
        have told := after.active key
        rw [reported_iff, afterOperations_snoc, observed_snoc] at told
        exact told
    | evaluate evaluation =>
        intro evaluated existing held inactive
        have refreshed : (afterOperations (operations ++ [.evaluate evaluation])).lookup
            evaluation.key = some (evaluation.refresh existing) := by
          rw [afterOperations_snoc]
          change (evaluate _ evaluation).lookup evaluation.key = _
          rw [lookup_evaluate_existing held, if_pos evaluated]
        have told := after.set evaluation.key _ refreshed
        have now : isActive (afterOperations (operations ++ [.evaluate evaluation]))
            evaluation.key = true := by
          unfold isActive
          rw [refreshed]
          rfl
        have was : isActive (afterOperations operations) evaluation.key = false := by
          unfold isActive
          rw [held]
          exact inactive
        rw [activation_snoc, now, was] at told
        exact Option.some.inj told
  · intro honest
    constructor
    · intro key
      rw [reported_iff, afterOperations_snoc, observed_snoc]
      cases operation with
      | expire nowTs scope =>
          exact (isActive_expire_iff (linked_afterOperations operations key) (recent key)
            (active key)).mpr (honest key)
      | evaluate evaluation =>
          change isActive (evaluate _ evaluation) key = true ↔ _
          by_cases own : evaluation.key = key
          · subst own
            rw [isActive_evaluate]
            exact (stands_observe_own evaluation).symm
          · have same : isActive (evaluate (afterOperations operations) evaluation) key =
                isActive (afterOperations operations) key := by
              unfold isActive
              rw [lookup_evaluate_of_ne fun same => own same.symm]
            rw [same, active key, show observe key _ (.evaluate evaluation) =
              observed key operations from if_neg own]
    · intro key record held
      rw [activation_snoc]
      rw [afterOperations_snoc] at held ⊢
      rcases lastSetTs_apply held with ⟨before, ofBefore, same⟩ | ⟨absent, set, same⟩
      · rw [same]
        have told := truth.set key before ofBefore
        split
        · rename_i changed
          rw [Bool.and_eq_true, Bool.not_eq_true'] at changed
          obtain ⟨activated, was⟩ := changed
          have inactive : before.active = false := by
            unfold isActive at was
            rw [ofBefore] at was
            exact was
          obtain ⟨evaluation, rfl, rfl, evaluated⟩ :=
            evaluated_of_activated ofBefore inactive activated
          rw [← honest evaluated before ofBefore inactive]
          rfl
        · exact told
      · have now : isActive (operation.apply (afterOperations operations)) key = true := by
          unfold isActive
          rw [held]
          exact set
        have was : isActive (afterOperations operations) key = false := by
          unfold isActive
          rw [absent]
          rfl
        rw [now, was, same]
        rfl

/-- In a run whose times do not decrease, the registry tells the truth in every state exactly if
no operation activates a blocker again at a later time than the one at which it was set, and
every expiry measures the age of a blocker from its last refresh. -/
theorem tellsTruth_iff_honest (operations : List Operation)
    (ordered : (operations.map Operation.nowTs).Pairwise (· ≤ ·)) :
    (∀ earlier later, operations = earlier ++ later → TellsTruth earlier) ↔
      ∀ earlier operation later, operations = earlier ++ operation :: later →
        Honest (afterOperations earlier) operation := by
  have split_times : ∀ earlier operation later, operations = earlier ++ operation :: later →
      ∀ before ∈ earlier, before.nowTs ≤ operation.nowTs := by
    intro earlier operation later split before member
    rw [split, List.map_append, List.pairwise_append] at ordered
    exact ordered.2.2 _ (List.mem_map_of_mem member) _ (by simp)
  constructor
  · intro truth earlier operation later split
    have before := truth earlier (operation :: later) split
    apply (tellsTruth_snoc_iff before (split_times earlier operation later split)).mp
    apply truth _ later
    rw [split, List.append_assoc]
    rfl
  · intro honest earlier later split
    induction earlier using List.reverseRecOn generalizing later with
    | nil => exact tellsTruth_nil
    | append_singleton earlier operation ih =>
        have whole : operations = earlier ++ operation :: later := by
          rw [split, List.append_assoc]
          rfl
        exact (tellsTruth_snoc_iff (ih (operation :: later) whole)
          (split_times earlier operation later whole)).mpr (honest earlier operation later whole)

private def noToken (isActive : Bool) (nowTs : ℚ) : Operation :=
  .evaluate
    { code := "NO_TOKEN"
      owner := "instrument_resolution_evaluator"
      scope := "advisory_contract"
      ownerKey := "contract"
      kind := "edge_ttl"
      isActive := isActive
      nowTs := nowTs
      expiryTtlSec := some (.finite 30) }

/-- A blocker that is within its time to live at an expiry. -/
theorem tellsTruth_iff_honest_fresh : TellsTruth [noToken true 1, .expire 20 none] := by
  apply (tellsTruth_iff_honest [noToken true 1, .expire 20 none] (by decide +kernel)).mpr _ _ []
  · rfl
  · intro earlier operation later split
    rcases earlier with _ | ⟨first, _ | ⟨second, rest⟩⟩
    · obtain ⟨rfl, -⟩ := List.cons.inj split
      intro _ existing impossible
      cases impossible
    · obtain ⟨rfl, tail⟩ := List.cons.inj split
      obtain ⟨rfl, -⟩ := List.cons.inj tail
      intro key record held _ _
      have set := Assoc.mem_of_lookup held
      change (key, record) ∈ [_] at set
      cases List.mem_singleton.mp set
      rfl
    · simp at split

/-- A blocker that is set, cleared and set again keeps the time of the first setting. -/
theorem set_again_keeps_first : ¬ ∀ (operations : List Operation),
    (operations.map Operation.nowTs).Pairwise (· ≤ ·) → TellsTruth operations := by
  intro truth
  have told := (truth [noToken true 1, noToken false 2, noToken true 3] (by decide +kernel)).set
    { scope := "advisory_contract", ownerKey := "contract", code := "NO_TOKEN" }
  have held : ∃ record, (afterOperations
      [noToken true 1, noToken false 2, noToken true 3]).lookup
        { scope := "advisory_contract", ownerKey := "contract", code := "NO_TOKEN" } =
          some record ∧ record.lastSetTs = 1 := ⟨_, rfl, rfl⟩
  obtain ⟨record, found, set⟩ := held
  have since := told record found
  rw [set] at since
  exact absurd since (by decide +kernel)

end Algotradify.Core.BlockerLifecycle
