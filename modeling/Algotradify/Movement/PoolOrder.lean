/-
The candidate pool and the order of its items.

Of the candidates with one id the pool keeps one that no other is preferred to. Which one
that is depends on the order if there are several; a second run changes what is kept only where
a hard blocker is listed twice.
-/

import Algotradify.Movement.Pool
import Algotradify.Sorting.Stable

namespace Algotradify.Movement

open Py Dedup Sorting

variable {candidates : List StrategyCandidate} {id : String} {kept candidate : StrategyCandidate}

/-! ### What is kept of an id -/

def groupOf (id : String) (candidates : List StrategyCandidate) : List StrategyCandidate :=
  candidates.filter fun candidate => candidate.candidateId = id

theorem preferred_laws : StrictBeats preferred :=
  strictBeats_tupleLess keyPartLaws candidatePreferenceKey

theorem selectCandidate_fst (left right : StrategyCandidate) :
    (selectCandidate left right).1 = pick preferred left right := by
  unfold selectCandidate pick
  split <;> rfl

theorem foldCandidates_snoc (candidates : List StrategyCandidate) (next : StrategyCandidate) :
    foldCandidates (candidates ++ [next]) = (foldCandidates candidates).add next := by
  unfold foldCandidates
  rw [List.foldl_append]
  rfl

theorem lookup_add (deduped : Deduped) (candidate : StrategyCandidate) (id : String) :
    (deduped.add candidate).byCandidateId.lookup id =
      if id = candidate.candidateId then
        some (((deduped.byCandidateId.lookup id).map
          fun kept => pick preferred kept candidate).getD candidate)
      else deduped.byCandidateId.lookup id := by
  unfold Deduped.add
  cases found : deduped.byCandidateId.lookup candidate.candidateId with
  | none =>
      dsimp only
      rw [Assoc.lookup_set]
      by_cases same : id = candidate.candidateId
      · rw [if_pos same, if_pos same, same, found]
        rfl
      · rw [if_neg same, if_neg same]
  | some existing =>
      dsimp only
      rw [Assoc.lookup_set]
      by_cases same : id = candidate.candidateId
      · rw [if_pos same, if_pos same, same, found, selectCandidate_fst]
        rfl
      · rw [if_neg same, if_neg same]

theorem lookup_foldCandidates (candidates : List StrategyCandidate) (id : String) :
    (foldCandidates candidates).byCandidateId.lookup id =
      choose preferred (groupOf id candidates) := by
  induction candidates using List.reverseRecOn with
  | nil => rfl
  | append_singleton candidates next ih =>
      rw [foldCandidates_snoc, lookup_add, ih]
      unfold groupOf
      rw [List.filter_append]
      by_cases same : id = next.candidateId
      · have kept : [next].filter (fun candidate => candidate.candidateId = id) = [next] :=
          List.filter_cons_of_pos (decide_eq_true same.symm)
        rw [if_pos same, kept, choose_snoc]
      · have dropped : [next].filter (fun candidate => candidate.candidateId = id) = [] :=
          List.filter_cons_of_neg (by simpa using fun equal => same (Eq.symm equal))
        rw [if_neg same, dropped, List.append_nil]

theorem distinct_foldCandidates (candidates : List StrategyCandidate) :
    Assoc.Distinct (foldCandidates candidates).byCandidateId := by
  induction candidates using List.reverseRecOn with
  | nil => exact List.nodup_nil
  | append_singleton candidates next ih =>
      rw [foldCandidates_snoc]
      unfold Deduped.add
      cases (foldCandidates candidates).byCandidateId.lookup next.candidateId with
      | none => exact ih.set _ _
      | some existing => exact ih.set _ _

theorem isExtreme_of_lookup
    (found : (foldCandidates candidates).byCandidateId.lookup id = some kept) :
    IsExtreme preferred (groupOf id candidates) kept := by
  rw [lookup_foldCandidates] at found
  exact choose_isExtreme preferred_laws found

theorem candidateId_of_lookup
    (found : (foldCandidates candidates).byCandidateId.lookup id = some kept) :
    kept.candidateId = id := by
  have member := (isExtreme_of_lookup found).member
  exact of_decide_eq_true (List.mem_filter.mp member).2

/-! ### Sorting by id -/

theorem idLe_descends (entries : List (String × StrategyCandidate)) :
    DescendsBy idLe (fun entry => OrderDual.toDual entry.1) entries :=
  fun _ _ _ _ => Iff.rfl

theorem candidates_congr {first second : List StrategyCandidate}
    (same : ∀ id, (foldCandidates first).byCandidateId.lookup id =
      (foldCandidates second).byCandidateId.lookup id) :
    (foldCandidates first).candidates = (foldCandidates second).candidates := by
  have perm := Assoc.Distinct.perm (distinct_foldCandidates first)
    (distinct_foldCandidates second) same
  unfold Deduped.candidates
  rw [(idLe_descends _).eq_of_perm _ perm]
  exact distinct_foldCandidates first

theorem mem_candidates_iff :
    kept ∈ (foldCandidates candidates).candidates ↔
      (foldCandidates candidates).byCandidateId.lookup kept.candidateId = some kept := by
  unfold Deduped.candidates
  rw [List.mem_map]
  constructor
  · rintro ⟨⟨id, own⟩, member, rfl⟩
    have inEntries := (List.perm_insertionSort idLe _).mem_iff.mp member
    have found := (Assoc.lookup_eq_some_iff (distinct_foldCandidates candidates) id own).mpr inEntries
    dsimp only
    rw [candidateId_of_lookup found]
    exact found
  · intro found
    refine ⟨(kept.candidateId, kept), ?_, rfl⟩
    rw [(List.perm_insertionSort idLe _).mem_iff]
    exact Assoc.mem_of_lookup found

theorem mem_byCandidateId {entry : String × StrategyCandidate}
    (member : entry ∈ (foldCandidates candidates).byCandidateId) :
    entry.2.candidateId = entry.1 :=
  candidateId_of_lookup ((Assoc.lookup_eq_some_iff (distinct_foldCandidates candidates) entry.1
    entry.2).mpr member)

theorem ids_sorted (candidates : List StrategyCandidate) :
    (foldCandidates candidates).candidates.Pairwise
      fun first second => first.candidateId < second.candidateId := by
  have perm := List.perm_insertionSort idLe (foldCandidates candidates).byCandidateId
  have ordered := (idLe_descends (foldCandidates candidates).byCandidateId).sorted
  have distinct : (((foldCandidates candidates).byCandidateId.insertionSort idLe).map
      Prod.fst).Nodup :=
    (perm.map Prod.fst).nodup_iff.mpr (distinct_foldCandidates candidates)
  have apart := List.pairwise_map.mp distinct
  unfold Deduped.candidates
  rw [List.pairwise_map]
  refine (ordered.and apart).imp_of_mem ?_
  intro first second inFirst inSecond both
  rw [mem_byCandidateId (perm.mem_iff.mp inFirst), mem_byCandidateId (perm.mem_iff.mp inSecond)]
  exact lt_of_le_of_ne both.1 both.2

theorem foldCandidates_of_distinct (distinct : (candidates.map StrategyCandidate.candidateId).Nodup) :
    (foldCandidates candidates).byCandidateId =
      candidates.map fun candidate => (candidate.candidateId, candidate) := by
  induction candidates using List.reverseRecOn with
  | nil => rfl
  | append_singleton candidates next ih =>
      rw [List.map_append] at distinct
      obtain ⟨before, -, apart⟩ := List.nodup_append.mp distinct
      have inOrder := ih before
      have absent : next.candidateId ∉ (candidates.map fun candidate =>
          (candidate.candidateId, candidate)).map Prod.fst := by
        rw [List.map_map]
        intro member
        exact apart _ member _ (List.mem_singleton_self _) rfl
      have new : (foldCandidates candidates).byCandidateId.lookup next.candidateId = none := by
        rw [inOrder]
        exact Assoc.lookup_eq_none_iff.mpr absent
      rw [foldCandidates_snoc]
      unfold Deduped.add
      rw [new]
      dsimp only
      rw [inOrder, Assoc.set_of_notMem absent, List.map_append]
      rfl

theorem candidates_of_sorted
    (sorted : candidates.Pairwise fun first second => first.candidateId < second.candidateId) :
    (foldCandidates candidates).candidates = candidates := by
  have distinct : (candidates.map StrategyCandidate.candidateId).Nodup :=
    List.pairwise_map.mpr (sorted.imp fun less => ne_of_lt less)
  have ordered : (candidates.map fun candidate => (candidate.candidateId, candidate)).Pairwise
      idLe :=
    List.pairwise_map.mpr (sorted.imp fun less => le_of_lt less)
  unfold Deduped.candidates
  rw [foldCandidates_of_distinct distinct, ordered.insertionSort_eq, List.map_map]
  exact List.map_id candidates

/-! ### Hard blockers -/

theorem candidateId_applyHardBlockers (candidate : StrategyCandidate) :
    (applyHardBlockers candidate).candidateId = candidate.candidateId := by
  unfold applyHardBlockers
  split
  · rfl
  · split <;> rfl

theorem applyHardBlockers_plain (plain : hardBlockersOf candidate = []) :
    applyHardBlockers candidate = candidate :=
  if_pos plain

def hardStatus (status : CandidateStatus) : CandidateStatus :=
  if status = .noTrade then .noTrade else .blockedCandidate

theorem applyHardBlockers_hard (hard : hardBlockersOf candidate ≠ []) :
    applyHardBlockers candidate = recordHardBlockers candidate (hardBlockersOf candidate)
      (hardStatus candidate.status) := by
  unfold applyHardBlockers hardStatus
  rw [if_neg hard]
  by_cases noTrade : candidate.status = .noTrade
  · rw [if_pos noTrade, if_pos noTrade, noTrade]
  · rw [if_neg noTrade, if_neg noTrade]

theorem hardStatus_hardStatus (status : CandidateStatus) :
    hardStatus (hardStatus status) = hardStatus status := by
  cases status <;> rfl

theorem ofStrings_injective {left right : List String} (same : ofStrings left = ofStrings right) :
    left = right :=
  List.map_injective_iff.mpr (fun _ _ equal => PyValue.str.inj equal) (PyValue.list.inj same)

theorem set_of_lookup {entries : PyDict} {key : String} {value : PyValue}
    (found : entries.lookup key = some value) : entries.set key value = entries := by
  induction entries with
  | nil => cases found
  | cons entry rest ih =>
      obtain ⟨own, held⟩ := entry
      by_cases same : key = own
      · subst same
        rw [Assoc.lookup_cons_self] at found
        cases found
        simp [PyDict.set, Assoc.set]
      · rw [Assoc.lookup_cons_of_ne same] at found
        have later := ih found
        unfold PyDict.set at later ⊢
        rw [Assoc.set, if_neg same, later]

theorem written_hardBlocker {blocker : String} (hard : isHardPoolBlocker blocker = true) :
    blocker ≠ "" := by
  rintro rfl
  exact absurd hard (by decide)

theorem applyHardBlockers_twice_iff (candidate : StrategyCandidate) :
    applyHardBlockers (applyHardBlockers candidate) = applyHardBlockers candidate ↔
      (hardBlockersOf candidate).Nodup := by
  by_cases none : hardBlockersOf candidate = []
  · rw [applyHardBlockers_plain none, applyHardBlockers_plain none, none]
    exact iff_of_true rfl List.nodup_nil
  have written : ∀ blocker ∈ hardBlockersOf candidate, blocker ≠ "" := fun _ member =>
    written_hardBlocker (List.mem_filter.mp member).2
  rw [← dedupe_eq_self_iff written]
  have once := applyHardBlockers_hard none
  have left : hardBlockersOf (applyHardBlockers candidate) = dedupe (hardBlockersOf candidate) := by
    rw [once]
    exact filter_dedupe isHardPoolBlocker candidate.blockers
  have more : hardBlockersOf (applyHardBlockers candidate) ≠ [] := by
    rw [left]
    exact mt (dedupe_eq_nil_of_written written).mp none
  have twice := applyHardBlockers_hard more
  rw [left] at twice
  constructor
  · intro same
    rw [twice, once] at same
    have evidence := congrArg (fun one : StrategyCandidate =>
      one.evidence.get "pool_hard_blockers") same
    unfold recordHardBlockers at evidence
    dsimp only at evidence
    rw [PyDict.get_set_of_ne _ _ (by decide), PyDict.get_set_self,
      PyDict.get_set_of_ne _ _ (by decide), PyDict.get_set_self] at evidence
    exact ofStrings_injective evidence
  · intro same
    rw [same] at twice
    rw [twice, once]
    have flagged : ((candidate.evidence.set "pool_hard_blockers"
        (ofStrings (hardBlockersOf candidate))).set "pool_blocked" (.bool true)).lookup
          "pool_hard_blockers" = some (ofStrings (hardBlockersOf candidate)) := by
      unfold PyDict.set
      rw [Assoc.lookup_set_of_ne _ _ (by decide), Assoc.lookup_set_self]
    have message : "POOL_HARD_BLOCKER_APPLIED" ∈
        dedupe (candidate.warnings ++ ["POOL_HARD_BLOCKER_APPLIED"]) :=
      mem_dedupe.mpr ⟨List.mem_append_right _ (List.mem_singleton_self _), by decide⟩
    unfold recordHardBlockers
    dsimp only
    rw [hardStatus_hardStatus, dedupe_dedupe, dedupe_append_of_mem message, set_of_lookup flagged,
      set_of_lookup]
    unfold PyDict.set
    exact Assoc.lookup_set_self _ _ _

theorem StrategyCandidate.Valid.applyHardBlockers (valid : candidate.Valid) :
    (applyHardBlockers candidate).Valid := by
  by_cases none : hardBlockersOf candidate = []
  · rw [applyHardBlockers_plain none]
    exact valid
  · rw [applyHardBlockers_hard none]
    constructor
    · exact valid.schema
    · exact valid.texts
    · exact valid.scores
    · intro blocker member
      exact valid.blockers blocker (mem_dedupe.mp member).1
    · intro warning member
      rcases List.mem_append.mp (mem_dedupe.mp member).1 with own | added
      · exact valid.warnings warning own
      · rw [List.mem_singleton.mp added]
        decide
    · intro status
      change hardStatus candidate.status = .noTrade at status
      apply valid.noTrade
      cases held : candidate.status with
      | noTrade => rfl
      | rawCandidate | validatedCandidate | blockedCandidate | rankedOpportunity =>
          rw [held] at status
          cases status

/-! ### Valid items -/

def poolItems (candidates : List StrategyCandidate) : List PoolItem :=
  candidates.map PoolItem.candidate

theorem coerceItems_valid (index : ℕ) (valid : ∀ candidate ∈ candidates, candidate.Valid) :
    ∃ coerced, coerceItems (poolItems candidates) index = .ok coerced ∧
      coerced.map Coerced.candidate = candidates := by
  induction candidates generalizing index with
  | nil => exact ⟨[], rfl, rfl⟩
  | cons candidate rest ih =>
      obtain ⟨later, isLater, same⟩ :=
        ih (index + 1) fun other member => valid other (List.mem_cons_of_mem candidate member)
      have accepted := (validate_toDict_iff candidate).mpr (valid candidate List.mem_cons_self)
      refine ⟨⟨candidate, [], (validateStrategyCandidate (some candidate.toDict)).warnings⟩ :: later,
        ?_, by rw [List.map_cons, same]⟩
      unfold poolItems at isLater ⊢
      rw [List.map_cons, coerceItems, coerceCandidate, if_pos accepted, isLater]
      rfl

theorem buildCandidatePool_valid {candidates : List StrategyCandidate}
    (valid : ∀ candidate ∈ candidates, candidate.Valid) :
    ∃ result, buildCandidatePool (poolItems candidates) [] [] = .ok result ∧
      result.candidates = (foldCandidates (candidates.map applyHardBlockers)).candidates ∧
      result.summary = summarize candidates.length result.candidates := by
  obtain ⟨coerced, isCoerced, same⟩ := coerceItems_valid 0 valid
  have kept : coerced.map (fun one => applyHardBlockers one.candidate) =
      candidates.map applyHardBlockers := by
    rw [← same, List.map_map]
    rfl
  refine ⟨poolOf (poolItems candidates).length coerced [] [], ?_, ?_, ?_⟩
  · unfold buildCandidatePool
    rw [isCoerced]
    rfl
  · unfold poolOf
    rw [kept]
  · unfold poolOf poolItems
    rw [List.length_map]

/-! ### Order -/

/-- What the pool makes of these candidates depends on neither their order nor on another run. -/
structure PoolStable (candidates : List StrategyCandidate) : Prop where
  anyOrder : ∀ others result, candidates.Perm others →
    buildCandidatePool (poolItems candidates) [] [] = .ok result →
    ∃ other, buildCandidatePool (poolItems others) [] [] = .ok other ∧
      other.candidates = result.candidates ∧ other.summary = result.summary
  again : ∀ result, buildCandidatePool (poolItems candidates) [] [] = .ok result →
    ∃ second, buildCandidatePool (poolItems result.candidates) [] [] = .ok second ∧
      second.candidates = result.candidates

/-- No candidate with its id is preferred to this one, after the hard blockers. -/
def Unbeaten (candidates : List StrategyCandidate) (candidate : StrategyCandidate) : Prop :=
  ∀ other ∈ candidates, other.candidateId = candidate.candidateId →
    preferred (applyHardBlockers other) (applyHardBlockers candidate) = false

/-- Of the candidates with one id those that none is preferred to are the same, and none of
them lists a hard blocker twice. -/
structure TiesEqual (candidates : List StrategyCandidate) : Prop where
  same : ∀ first ∈ candidates, ∀ second ∈ candidates, first.candidateId = second.candidateId →
    Unbeaten candidates first → Unbeaten candidates second →
    applyHardBlockers first = applyHardBlockers second
  single : ∀ candidate ∈ candidates, Unbeaten candidates candidate →
    (hardBlockersOf candidate).Nodup

theorem isExtreme_groupOf_iff :
    IsExtreme preferred (groupOf id (candidates.map applyHardBlockers)) kept ↔
      ∃ candidate ∈ candidates, applyHardBlockers candidate = kept ∧
        candidate.candidateId = id ∧ Unbeaten candidates candidate := by
  constructor
  · intro extreme
    obtain ⟨inAll, isId⟩ := List.mem_filter.mp extreme.member
    obtain ⟨candidate, member, rfl⟩ := List.mem_map.mp inAll
    have own : candidate.candidateId = id := by
      rw [← candidateId_applyHardBlockers]
      exact of_decide_eq_true isId
    refine ⟨candidate, member, rfl, own, ?_⟩
    intro other inside sameId
    apply extreme.unbeaten
    refine List.mem_filter.mpr ⟨List.mem_map_of_mem inside, decide_eq_true ?_⟩
    rw [candidateId_applyHardBlockers, sameId, own]
  · rintro ⟨candidate, member, rfl, own, unbeaten⟩
    constructor
    · refine List.mem_filter.mpr ⟨List.mem_map_of_mem member, decide_eq_true ?_⟩
      rw [candidateId_applyHardBlockers, own]
    · intro item inGroup
      obtain ⟨inAll, isId⟩ := List.mem_filter.mp inGroup
      obtain ⟨other, inside, rfl⟩ := List.mem_map.mp inAll
      apply unbeaten other inside
      rw [← candidateId_applyHardBlockers other, own]
      exact of_decide_eq_true isId

theorem lookup_of_first {first : StrategyCandidate}
    (unbeaten : Unbeaten (first :: candidates) first) :
    (foldCandidates ((first :: candidates).map applyHardBlockers)).byCandidateId.lookup
      first.candidateId = some (applyHardBlockers first) := by
  have group : groupOf first.candidateId ((first :: candidates).map applyHardBlockers) =
      applyHardBlockers first ::
        groupOf first.candidateId (candidates.map applyHardBlockers) := by
    unfold groupOf
    rw [List.map_cons]
    exact List.filter_cons_of_pos (decide_eq_true (candidateId_applyHardBlockers first))
  have extreme := isExtreme_groupOf_iff.mpr
    ⟨first, List.mem_cons_self, rfl, rfl, unbeaten⟩
  rw [lookup_foldCandidates, group]
  apply choose_of_unbeaten
  intro item member
  apply extreme.unbeaten
  rw [group]
  exact List.mem_cons_of_mem _ member

theorem Unbeaten.perm {others : List StrategyCandidate} (perm : candidates.Perm others)
    (unbeaten : Unbeaten candidates candidate) :
    Unbeaten others candidate :=
  fun other member => unbeaten other (perm.mem_iff.mpr member)

theorem exists_order (member : candidate ∈ candidates) (unbeaten : Unbeaten candidates candidate) :
    ∃ others, candidates.Perm others ∧
      applyHardBlockers candidate ∈ (foldCandidates (others.map applyHardBlockers)).candidates := by
  obtain ⟨front, back, rfl⟩ := List.append_of_mem member
  have perm : (front ++ candidate :: back).Perm (candidate :: (front ++ back)) :=
    List.perm_middle
  refine ⟨_, perm, ?_⟩
  rw [mem_candidates_iff, candidateId_applyHardBlockers]
  exact lookup_of_first (unbeaten.perm perm)

theorem kept_unique {first second : StrategyCandidate}
    (left : first ∈ (foldCandidates candidates).candidates)
    (right : second ∈ (foldCandidates candidates).candidates)
    (same : first.candidateId = second.candidateId) : first = second := by
  have found := mem_candidates_iff.mp left
  have other := mem_candidates_iff.mp right
  rw [same] at found
  exact Option.some.inj (found.symm.trans other)

theorem TiesEqual.lookup_perm {others : List StrategyCandidate} (ties : TiesEqual candidates)
    (perm : candidates.Perm others) (id : String) :
    (foldCandidates (others.map applyHardBlockers)).byCandidateId.lookup id =
      (foldCandidates (candidates.map applyHardBlockers)).byCandidateId.lookup id := by
  rw [lookup_foldCandidates, lookup_foldCandidates]
  have groups : (groupOf id (candidates.map applyHardBlockers)).Perm
      (groupOf id (others.map applyHardBlockers)) := (perm.map applyHardBlockers).filter _
  cases own : choose preferred (groupOf id (others.map applyHardBlockers)) with
  | none =>
      rw [choose_eq_none_iff] at own
      rw [own] at groups
      rw [groups.eq_nil]
      rfl
  | some kept =>
      cases first : choose preferred (groupOf id (candidates.map applyHardBlockers)) with
      | none =>
          rw [choose_eq_none_iff] at first
          rw [first] at groups
          rw [groups.symm.eq_nil] at own
          cases own
      | some other =>
          obtain ⟨one, inOthers, isKept, oneId, oneUnbeaten⟩ :=
            isExtreme_groupOf_iff.mp (choose_isExtreme preferred_laws own)
          obtain ⟨two, inCandidates, isOther, twoId, twoUnbeaten⟩ :=
            isExtreme_groupOf_iff.mp (choose_isExtreme preferred_laws first)
          have equal := ties.same one (perm.mem_iff.mpr inOthers) two inCandidates
            (oneId.trans twoId.symm) (oneUnbeaten.perm perm.symm) twoUnbeaten
          rw [← isKept, ← isOther, equal]

theorem rebuildCandidatePool_valid (valid : ∀ candidate ∈ candidates, candidate.Valid)
    {result : CandidatePoolResult}
    (kept : result.candidates = (foldCandidates (candidates.map applyHardBlockers)).candidates) :
    ∃ second, buildCandidatePool (poolItems result.candidates) [] [] = .ok second ∧
      second.candidates = result.candidates.map applyHardBlockers := by
  have keptValid : ∀ candidate ∈ result.candidates, candidate.Valid := by
    intro candidate member
    rw [kept] at member
    obtain ⟨one, inside, rfl, -, -⟩ :=
      isExtreme_groupOf_iff.mp (isExtreme_of_lookup (mem_candidates_iff.mp member))
    exact (valid one inside).applyHardBlockers
  have sorted : (result.candidates.map applyHardBlockers).Pairwise
      fun first second => first.candidateId < second.candidateId := by
    rw [List.pairwise_map, kept]
    refine (ids_sorted (candidates.map applyHardBlockers)).imp ?_
    intro first second less
    rw [candidateId_applyHardBlockers, candidateId_applyHardBlockers]
    exact less
  obtain ⟨second, rebuilt, keptAgain, -⟩ := buildCandidatePool_valid keptValid
  rw [candidates_of_sorted sorted] at keptAgain
  exact ⟨second, rebuilt, keptAgain⟩

theorem tiesEqual_of_stable (valid : ∀ candidate ∈ candidates, candidate.Valid)
    (stable : PoolStable candidates) :
    TiesEqual candidates := by
  obtain ⟨result, built, kept, -⟩ := buildCandidatePool_valid valid
  have inResult : ∀ candidate ∈ candidates, Unbeaten candidates candidate →
      applyHardBlockers candidate ∈ result.candidates := by
    intro candidate member unbeaten
    obtain ⟨others, perm, first⟩ := exists_order member unbeaten
    obtain ⟨other, isOther, otherKept, -⟩ := @buildCandidatePool_valid others
      fun one inside => valid one (perm.mem_iff.mpr inside)
    obtain ⟨same, isSame, equal, -⟩ := stable.anyOrder others result perm built
    rw [← Except.ok.inj (isOther.symm.trans isSame), otherKept] at equal
    rw [← equal]
    exact first
  constructor
  · intro first inFirst other inSecond sameId unbeaten alsoUnbeaten
    have left := inResult first inFirst unbeaten
    have right := inResult other inSecond alsoUnbeaten
    rw [kept] at left right
    apply kept_unique left right
    rw [candidateId_applyHardBlockers, candidateId_applyHardBlockers, sameId]
  · intro candidate member unbeaten
    have inside := inResult candidate member unbeaten
    obtain ⟨second, rebuilt, keptAgain⟩ := rebuildCandidatePool_valid valid kept
    obtain ⟨again, isAgain, equal⟩ := stable.again result built
    rw [← Except.ok.inj (rebuilt.symm.trans isAgain), keptAgain] at equal
    have fixed : result.candidates.map applyHardBlockers = result.candidates.map id := by
      rw [List.map_id]
      exact equal
    rw [← applyHardBlockers_twice_iff]
    exact List.map_inj_left.mp fixed _ inside

/-- The pool of valid candidates depends on neither their order nor on another run exactly if
ties are equal and no kept candidate lists a hard blocker twice. -/
theorem poolStable_iff_tiesEqual {candidates : List StrategyCandidate}
    (valid : ∀ candidate ∈ candidates,
      (validateStrategyCandidate (some candidate.toDict)).valid = true) :
    PoolStable candidates ↔ TiesEqual candidates := by
  have allValid : ∀ candidate ∈ candidates, candidate.Valid := fun candidate member =>
    (validate_toDict_iff candidate).mp (valid candidate member)
  constructor
  · exact tiesEqual_of_stable allValid
  · intro ties
    obtain ⟨result, built, kept, summary⟩ := buildCandidatePool_valid allValid
    constructor
    · intro others own perm isOwn
      obtain ⟨other, isOther, otherKept, otherSummary⟩ := @buildCandidatePool_valid others
        fun one inside => allValid one (perm.mem_iff.mpr inside)
      have same : other.candidates = result.candidates := by
        rw [otherKept, kept]
        exact candidates_congr (ties.lookup_perm perm)
      rw [← Except.ok.inj (built.symm.trans isOwn)]
      refine ⟨other, isOther, same, ?_⟩
      rw [otherSummary, summary, same, perm.length_eq]
    · intro own isOwn
      obtain ⟨second, rebuilt, keptAgain⟩ := rebuildCandidatePool_valid allValid kept
      rw [← Except.ok.inj (built.symm.trans isOwn)]
      refine ⟨second, rebuilt, ?_⟩
      have fixed : result.candidates.map applyHardBlockers = result.candidates.map id := by
        apply List.map_congr_left
        intro candidate member
        rw [kept] at member
        obtain ⟨one, inside, rfl, -, unbeaten⟩ :=
          isExtreme_groupOf_iff.mp (isExtreme_of_lookup (mem_candidates_iff.mp member))
        exact (applyHardBlockers_twice_iff one).mpr (ties.single one inside unbeaten)
      rw [keptAgain, fixed, List.map_id]

private def breakout (confidence : ℚ) : StrategyCandidate :=
  { schemaVersion := 1
    candidateId := "dup-1"
    strategyId := "A"
    movementType := "BREAKOUT"
    symbol := "NIFTY"
    direction := .buyCall
    status := .rawCandidate
    rawScore := .finite (1 / 2)
    confidenceScore := .finite confidence
    priceStructureScore := .finite (1 / 2)
    optionConfirmationScore := .finite (1 / 2)
    liquidityScore := .finite (1 / 2)
    freshnessScore := .finite (1 / 2)
    volatilityScore := .finite (1 / 2)
    regimeAlignmentScore := .finite (1 / 2)
    entryTrigger := "trigger"
    invalidIf := "invalidation"
    rankReason := "reason" }

private theorem breakout_valid {confidence : ℚ}
    (inRange : outOfRange (.finite confidence) = false) : (breakout confidence).Valid := by
  constructor
  · rfl
  · change ∀ text ∈ ["dup-1", "A", "BREAKOUT", "NIFTY", "trigger", "invalidation", "reason"],
      strip text ≠ ""
    decide +kernel
  · intro score member
    have half : outOfRange (.finite (1 / 2)) = false := by decide +kernel
    unfold StrategyCandidate.scores breakout at member
    simp only [List.mem_cons, List.not_mem_nil, or_false] at member
    rcases member with rfl | rfl | rfl | rfl | rfl | rfl | rfl | rfl
    · exact half
    · exact inRange
    all_goals exact half
  · intro blocker impossible
    cases impossible
  · intro warning impossible
    cases impossible
  · intro impossible
    cases impossible

/-- A candidate that comes twice. -/
theorem pool_stable_twice : PoolStable [breakout (1 / 2), breakout (1 / 2)] := by
  apply (poolStable_iff_tiesEqual _).mpr
  · constructor
    · intro first inFirst second inSecond _ _ _
      have left : first = breakout (1 / 2) := by simpa using inFirst
      have right : second = breakout (1 / 2) := by simpa using inSecond
      rw [left, right]
    · intro candidate member _
      have own : candidate = breakout (1 / 2) := by simpa using member
      rw [own]
      exact List.nodup_nil
  · intro candidate member
    have own : candidate = breakout (1 / 2) := by simpa using member
    rw [own]
    exact (validate_toDict_iff _).mpr (breakout_valid (by decide +kernel))

/-- Two candidates that differ in their confidence alone: the first one stays. -/
theorem pool_order_shows : ¬ ∀ candidates : List StrategyCandidate,
    (∀ candidate ∈ candidates,
      (validateStrategyCandidate (some candidate.toDict)).valid = true) →
    PoolStable candidates := by
  intro stable
  have valid : ∀ candidate ∈ [breakout (1 / 4), breakout (1 / 2)], candidate.Valid := by
    intro candidate member
    simp only [List.mem_cons, List.not_mem_nil, or_false] at member
    rcases member with rfl | rfl
    · exact breakout_valid (by decide +kernel)
    · exact breakout_valid (by decide +kernel)
  have ties := tiesEqual_of_stable valid (stable _ fun candidate member =>
    (validate_toDict_iff candidate).mpr (valid candidate member))
  have unbeaten (confidence : ℚ) :
      Unbeaten [breakout (1 / 4), breakout (1 / 2)] (breakout confidence) := by
    intro other member _
    simp only [List.mem_cons, List.not_mem_nil, or_false] at member
    rcases member with rfl | rfl
    · exact preferred_laws.irrefl (breakout confidence)
    · exact preferred_laws.irrefl (breakout confidence)
  have same := ties.same _ List.mem_cons_self _ (List.mem_cons_of_mem _ List.mem_cons_self) rfl
    (unbeaten (1 / 4)) (unbeaten (1 / 2))
  have confidence := congrArg StrategyCandidate.confidenceScore same
  exact absurd confidence (by decide +kernel)

end Algotradify.Movement
