/-
The state reconciliation report: a rebuilt paper state against an observed one.

What the reconciliation report detects.

No row is reported exactly when the compared fields are equal up to keys that are `None`
on one side and absent on the other; and two states that count no events are not
compared at all.
-/

import Algotradify.Paper.Common

namespace Algotradify.Paper.Reconciliation

open Py

inductive PaperStateReconciliationStatus where
  | matched
  | drift
  | empty
  | blocked
deriving DecidableEq, Repr

structure PaperStateReconciliationResult where
  matched : Bool
  status : PaperStateReconciliationStatus
  driftCount : Int := 0
  drifts : List PyDict := []
  summary : PyDict := []
  rebuiltStateSummary : PyDict := []
  observedStateSummary : PyDict := []
  blockers : List String := []
  warnings : List String := []

/-- `PAPER_STATE_REQUIRED_KEYS`. -/
def paperStateRequiredKeys : List String :=
  ["schema_version", "state_type", "orders", "positions", "pnl_marks", "slippage_measurements",
    "performance_snapshots", "applied_event_ids", "applied_idempotency_keys", "last_event",
    "summary", "paper_only", "read_only", "is_order_action", "broker_api_called", "real_order_id"]

/-- `COMPARE_KEYS`. -/
def compareKeys : List String :=
  ["orders", "positions", "summary", "applied_event_ids", "applied_idempotency_keys", "last_event"]

def reportFlags : PyDict :=
  [("paper_only", .bool true), ("read_only", .bool true), ("is_order_action", .bool false),
    ("broker_api_called", .bool false), ("real_order_id", .none)]

/-! ### Comparing two states -/

def drift (path : String) (rebuilt observed : PyValue) (reason : String) : PyDict :=
  [("path", .str path), ("reason", .str reason), ("rebuilt", rebuilt), ("observed", observed)] ++
    reportFlags

/-- The rows of the children in the order of `sorted(keys)`. -/
def sortedRows (rows : List (String × List PyDict)) : List PyDict :=
  (rows.insertionSort fun left right => left.1 ≤ right.1).flatMap Prod.snd

/-- The rows of the keys that only the observed dictionary has; the rebuilt value of such
a key is `None`. -/
def observedOnly (path : String) (rebuilt observed : PyDict) : List (String × List PyDict) :=
  (observed.filter fun entry => !rebuilt.contains entry.1).map fun entry =>
    (entry.1, if PyValue.none.equal entry.2 then []
      else [drift (path ++ "." ++ entry.1) .none entry.2 "MISSING_IN_REBUILT"])

mutual

/-- One turn of the loop of `_compare_dict`, for a key that the rebuilt dictionary has;
`present` tells whether the observed one has it too. -/
def compareChild (path : String) : PyValue → PyValue → Bool → List PyDict
  | .dict rebuilt, .dict observed, _ =>
      sortedRows (compareEntries path rebuilt observed ++ observedOnly path rebuilt observed)
  | rebuilt, observed, present =>
      if rebuilt.equal observed then []
      else [drift path rebuilt observed (if present then "VALUE_MISMATCH" else "MISSING_IN_OBSERVED")]

def compareEntries (path : String) : List (String × PyValue) → PyDict → List (String × List PyDict)
  | [], _ => []
  | (key, value) :: rest, observed =>
      (key, compareChild (path ++ "." ++ key) value (observed.get key) (observed.contains key)) ::
        compareEntries path rest observed

end

def compareDict (path : String) (rebuilt observed : PyDict) : List PyDict :=
  sortedRows (compareEntries path rebuilt observed ++ observedOnly path rebuilt observed)

def compareField (key : String) (rebuiltValue observedValue : PyValue) : List PyDict :=
  if rebuiltValue.equal observedValue then []
  else
    match rebuiltValue, observedValue with
    | .dict rebuilt, .dict observed => compareDict key rebuilt observed
    | _, _ => [drift key rebuiltValue observedValue "VALUE_MISMATCH"]

def compareStates (rebuiltState observedState : PyDict) : List PyDict :=
  compareKeys.flatMap fun key => compareField key (rebuiltState.get key) (observedState.get key)

/-! ### Validation -/

def stateBlockers (state : PyDict) (source : String) : List String :=
  (paperStateRequiredKeys.flatMap fun key => blockerIf (!state.contains key)
      ("PAPER_STATE_RECONCILIATION_" ++ source ++ "_STATE_MISSING_" ++ upper key)) ++
    blockerIf (!(state.get "paper_only").isTrue)
      ("PAPER_STATE_RECONCILIATION_" ++ source ++ "_STATE_UNSAFE_PAPER_ONLY_FLAG") ++
    blockerIf (!(state.get "read_only").isTrue)
      ("PAPER_STATE_RECONCILIATION_" ++ source ++ "_STATE_UNSAFE_READ_ONLY_FLAG") ++
    blockerIf (!(state.get "is_order_action").isFalse)
      ("PAPER_STATE_RECONCILIATION_" ++ source ++ "_STATE_UNSAFE_ORDER_ACTION_FLAG") ++
    blockerIf (!(state.get "broker_api_called").isFalse)
      ("PAPER_STATE_RECONCILIATION_" ++ source ++ "_STATE_UNSAFE_BROKER_API_FLAG") ++
    blockerIf (!(state.get "real_order_id").isNone)
      ("PAPER_STATE_RECONCILIATION_" ++ source ++ "_STATE_UNSAFE_REAL_ORDER_ID")

def rebuiltBlockers (rebuildResult : PyDict) : List String :=
  blockerIf ((rebuildResult.get "status").isStr "BLOCKED")
      "PAPER_STATE_RECONCILIATION_REBUILD_RESULT_BLOCKED" ++
    if !rebuildResult.contains "state" then ["PAPER_STATE_RECONCILIATION_REBUILT_STATE_REQUIRED"]
    else
      match rebuildResult.get "state" with
      | .dict state => stateBlockers state "REBUILT"
      | _ => ["PAPER_STATE_RECONCILIATION_REBUILT_STATE_MUST_BE_OBJECT"]

def observedBlockers : PyValue → List String
  | .none => []
  | .dict [] => []
  | .dict state => stateBlockers state "OBSERVED"
  | _ => ["PAPER_STATE_RECONCILIATION_OBSERVED_STATE_MUST_BE_OBJECT"]

/-- The rebuild result as `_to_dict` leaves it: a dictionary, or nothing. -/
def validatePaperStateReconciliationInputs (rebuildResult : Option PyDict)
    (observedState : PyValue) : List String :=
  match rebuildResult with
  | none => ["PAPER_STATE_RECONCILIATION_REBUILD_RESULT_REQUIRED"]
  | some payload => dedupe (rebuiltBlockers payload ++ observedBlockers observedState)

/-! ### The report -/

/-- `int(summary.get("event_count") or 0)` of a state. -/
def eventCount (state : PyDict) : Except PyError Int :=
  toInt (((state.get "summary").asDict.get "event_count").or (.int 0))

def isEmptyRebuilt (rebuildPayload rebuiltState : PyDict) : Except PyError Bool :=
  if (rebuildPayload.get "status").isStr "EMPTY" then .ok true
  else do
    let count ← eventCount rebuiltState
    pure (decide (count = 0))

def observedMissingOrEmpty : PyValue → Except PyError Bool
  | .none => .ok true
  | .dict [] => .ok true
  | observedState => do
      let count ← eventCount observedState.asDict
      pure (decide (count = 0))

/-- `len(value or {})`. -/
def sizeOf (value : PyValue) : Except PyError Int :=
  match value.or (.dict []) with
  | .dict entries => .ok entries.length
  | .list items => .ok items.length
  | .str text => .ok text.length
  | _ => .error (.typeError "object has no len()")

def stateSummary (state : PyValue) : Except PyError PyDict :=
  if state.asDict.isEmpty then
    .ok ([("event_count", .int 0), ("order_count", .int 0), ("position_count", .int 0)] ++ reportFlags)
  else do
    let count ← eventCount state.asDict
    let orderCount ← sizeOf (state.asDict.get "orders")
    let positionCount ← sizeOf (state.asDict.get "positions")
    pure ([("event_count", .int count), ("order_count", .int orderCount),
      ("position_count", .int positionCount), ("last_event", state.asDict.get "last_event")] ++
        reportFlags)

def reportSummary (status : String) (driftCount : Int) : PyDict :=
  [("status", .str status), ("drift_count", .int driftCount)] ++ reportFlags

def toDictOrNone : PyValue → Option PyDict
  | .dict entries => some entries
  | _ => none

/-- `_is_empty_rebuilt(...) and _observed_missing_or_empty(...)`. -/
def bothEmpty (rebuildPayload rebuiltState : PyDict) (observedState : PyValue) :
    Except PyError Bool := do
  if ← isEmptyRebuilt rebuildPayload rebuiltState then observedMissingOrEmpty observedState
  else pure false

def reconcilePaperState (rebuildResult observedState : PyValue) :
    Except PyError PaperStateReconciliationResult := do
  let payload := toDictOrNone rebuildResult
  let blockers := validatePaperStateReconciliationInputs payload observedState
  if blockers ≠ [] then pure { matched := false, status := .blocked, blockers := blockers }
  else
    let rebuildPayload := payload.getD []
    let rebuiltState := (rebuildPayload.get "state").asDict
    let empty ← bothEmpty rebuildPayload rebuiltState observedState
    let drifts :=
      match observedState with
      | .none => [drift "observed_state" (.dict rebuiltState) .none "OBSERVED_STATE_MISSING"]
      | _ => compareStates rebuiltState observedState.asDict
    let rebuiltSummary ← stateSummary (.dict rebuiltState)
    let observedSummary ← stateSummary observedState
    if empty then
      pure
        { matched := true
          status := .empty
          summary := reportSummary "EMPTY" 0
          rebuiltStateSummary := rebuiltSummary
          observedStateSummary := observedSummary
          warnings := ["PAPER_STATE_RECONCILIATION_EMPTY_STATE"] }
    else if drifts ≠ [] then
      pure
        { matched := false
          status := .drift
          driftCount := drifts.length
          drifts := drifts
          summary := reportSummary "DRIFT" drifts.length
          rebuiltStateSummary := rebuiltSummary
          observedStateSummary := observedSummary }
    else
      pure
        { matched := true
          status := .matched
          summary := reportSummary "MATCH" 0
          rebuiltStateSummary := rebuiltSummary
          observedStateSummary := observedSummary }

/-! ### Rows of a difference -/

theorem sortedRows_eq_nil_iff (rows : List (String × List PyDict)) :
    sortedRows rows = [] ↔ ∀ row ∈ rows, row.2 = [] := by
  unfold sortedRows
  rw [List.flatMap_eq_nil_iff]
  constructor
  · intro empty row member
    exact empty row ((List.perm_insertionSort _ rows).mem_iff.mpr member)
  · intro empty row member
    exact empty row ((List.perm_insertionSort _ rows).mem_iff.mp member)

theorem observedOnly_empty_iff (path : String) (rebuilt observed : PyDict) :
    (∀ row ∈ observedOnly path rebuilt observed, row.2 = []) ↔
      (observed.all fun entry => PyDict.contains rebuilt entry.1 || entry.2.isNone) = true := by
  unfold observedOnly
  rw [List.forall_mem_map, List.all_eq_true]
  constructor
  · intro empty entry member
    by_cases known : PyDict.contains rebuilt entry.1 = true
    · rw [known, Bool.true_or]
    · have fresh : (!PyDict.contains rebuilt entry.1) = true := by
        rw [Bool.not_eq_true'] at *
        exact Bool.not_eq_true _ ▸ known
      have none := empty entry (List.mem_filter.mpr ⟨member, fresh⟩)
      dsimp only at none
      rw [PyValue.none_equal] at none
      split at none
      · rename_i absent
        rw [absent, Bool.or_true]
      · cases none
  · intro unset entry member
    obtain ⟨listed, fresh⟩ := List.mem_filter.mp member
    have either := unset entry listed
    rw [Bool.not_eq_true'] at fresh
    rw [fresh, Bool.false_or] at either
    dsimp only
    rw [PyValue.none_equal, if_pos either]

mutual

theorem compareChild_eq_nil_iff : ∀ (path : String) (rebuilt observed : PyValue) (present : Bool),
    compareChild path rebuilt observed present = [] ↔ rebuilt.equalUpToNone observed = true
  | path, .dict rebuilt, .dict observed, present => by
      unfold compareChild PyValue.equalUpToNone
      rw [sortedRows_eq_nil_iff, List.forall_mem_append, observedOnly_empty_iff,
        compareEntries_empty_iff, Bool.and_eq_true]
  | path, .dict rebuilt, .none, present | path, .dict rebuilt, .bool _, present
  | path, .dict rebuilt, .int _, present | path, .dict rebuilt, .float _, present
  | path, .dict rebuilt, .str _, present | path, .dict rebuilt, .list _, present
  | path, .none, observed, present | path, .bool _, observed, present
  | path, .int _, observed, present | path, .float _, observed, present
  | path, .str _, observed, present | path, .list _, observed, present => by
      unfold compareChild PyValue.equalUpToNone
      split
      · rename_i same
        exact iff_of_true rfl same
      · rename_i different
        exact iff_of_false (List.cons_ne_nil _ _) different

theorem compareEntries_empty_iff : ∀ (path : String) (entries : List (String × PyValue))
    (observed : PyDict), (∀ row ∈ compareEntries path entries observed, row.2 = []) ↔
      PyValue.entriesUpToNone entries observed = true
  | path, [], observed => by
      refine iff_of_true ?_ rfl
      intro row member
      cases member
  | path, (key, value) :: rest, observed => by
      unfold compareEntries PyValue.entriesUpToNone
      rw [List.forall_mem_cons, compareChild_eq_nil_iff, compareEntries_empty_iff path rest observed,
        Bool.and_eq_true]

end

theorem compareField_eq_nil_iff (key : String) (rebuilt observed : PyValue) :
    compareField key rebuilt observed = [] ↔ rebuilt.equalUpToNone observed = true := by
  unfold compareField
  split
  · rename_i same
    exact iff_of_true rfl (PyValue.equalUpToNone_of_equal _ _ same)
  · rename_i different
    split
    · exact compareChild_eq_nil_iff key (.dict _) (.dict _) true
    · rename_i notDicts
      refine iff_of_false (List.cons_ne_nil _ _) ?_
      rw [PyValue.equalUpToNone_eq_equal notDicts]
      exact different

theorem compareStates_eq_nil_iff (rebuilt observed : PyDict) :
    compareStates rebuilt observed = [] ↔
      ∀ key ∈ compareKeys, (rebuilt.get key).equalUpToNone (observed.get key) = true := by
  unfold compareStates
  rw [List.flatMap_eq_nil_iff]
  constructor
  · intro empty key member
    exact (compareField_eq_nil_iff _ _ _).mp (empty key member)
  · intro same key member
    exact (compareField_eq_nil_iff _ _ _).mpr (same key member)

/-! ### The verdict -/

/-- A state with every required key and the safe flags, whose count and sizes can be read. -/
structure FullState (state : PyDict) (source : String) : Prop where
  checked : stateBlockers state source = []
  readable : ∃ summary, stateSummary (.dict state) = .ok summary

structure SuccessfulRebuild (payload state : PyDict) : Prop where
  stateEq : payload.get "state" = .dict state
  unblocked : (payload.get "status").isStr "BLOCKED" = false
  full : FullState state "REBUILT"

def SameState (rebuilt observed : PyDict) : Prop :=
  ∀ key ∈ compareKeys, (rebuilt.get key).equal (observed.get key) = true

/-- The two states differ at most by keys that are `None` on one side and absent on the
other. -/
def SameUpToNone (rebuilt observed : PyDict) : Prop :=
  ∀ key ∈ compareKeys, (rebuilt.get key).equalUpToNone (observed.get key) = true

def ReportsMatch (payload observed : PyDict) : Prop :=
  ∃ result, reconcilePaperState (.dict payload) (.dict observed) = .ok result ∧
    result.matched = true

theorem SameState.upToNone {rebuilt observed : PyDict} (same : SameState rebuilt observed) :
    SameUpToNone rebuilt observed :=
  fun key member => PyValue.equalUpToNone_of_equal _ _ (same key member)

section Verdict

variable {payload state observed : PyDict} {source : String}

theorem FullState.ne_nil (full : FullState state source) : state ≠ [] := by
  rintro rfl
  have checked := full.checked
  unfold stateBlockers at checked
  rw [List.append_assoc, List.append_assoc, List.append_assoc, List.append_assoc] at checked
  cases checked

theorem FullState.eventCount (full : FullState state source) :
    ∃ count, Reconciliation.eventCount state = .ok count := by
  obtain ⟨summary, read⟩ := full.readable
  have given : ¬(PyValue.dict state).asDict.isEmpty = true := fun empty =>
    full.ne_nil (List.isEmpty_iff.mp empty)
  unfold stateSummary at read
  rw [if_neg given] at read
  obtain ⟨count, counted, _read⟩ := bind_eq_ok.mp read
  exact ⟨count, counted⟩

theorem bothEmpty_total (rebuild : SuccessfulRebuild payload state)
    (full : FullState observed source) :
    ∃ empty, bothEmpty payload state (.dict observed) = .ok empty := by
  obtain ⟨count, counted⟩ := rebuild.full.eventCount
  obtain ⟨observedCount, observedCounted⟩ := full.eventCount
  have rebuiltRead : ∃ empty, isEmptyRebuilt payload state = .ok empty := by
    unfold isEmptyRebuilt
    split
    · exact ⟨true, rfl⟩
    · exact ⟨_, bind_eq_ok.mpr ⟨count, counted, rfl⟩⟩
  have observedRead : ∃ empty, observedMissingOrEmpty (.dict observed) = .ok empty := by
    unfold observedMissingOrEmpty
    split
    · exact ⟨true, rfl⟩
    · exact ⟨true, rfl⟩
    · exact ⟨_, bind_eq_ok.mpr ⟨observedCount, observedCounted, rfl⟩⟩
  obtain ⟨empty, rebuiltRead⟩ := rebuiltRead
  obtain ⟨observedEmpty, observedRead⟩ := observedRead
  cases empty with
  | true => exact ⟨observedEmpty, bind_eq_ok.mpr ⟨true, rebuiltRead, observedRead⟩⟩
  | false => exact ⟨false, bind_eq_ok.mpr ⟨false, rebuiltRead, rfl⟩⟩

theorem validated (rebuild : SuccessfulRebuild payload state) (full : FullState observed "OBSERVED") :
    validatePaperStateReconciliationInputs (some payload) (.dict observed) = [] := by
  have named : payload.contains "state" = true := by
    have stored := rebuild.stateEq
    unfold PyDict.get at stored
    unfold PyDict.contains
    cases found : payload.lookup "state" with
    | none =>
        rw [found] at stored
        cases stored
    | some value => rfl
  have ofRebuilt : rebuiltBlockers payload = [] := by
    unfold rebuiltBlockers
    rw [rebuild.unblocked, named, rebuild.stateEq]
    exact rebuild.full.checked
  have ofObserved : observedBlockers (.dict observed) = [] := by
    unfold observedBlockers
    split
    · rfl
    · rfl
    · rename_i entries _ same
      cases same
      exact full.checked
    · rename_i notDict
      exact (notDict _ rfl).elim
  change dedupe (rebuiltBlockers payload ++ observedBlockers (.dict observed)) = []
  rw [ofRebuilt, ofObserved]
  rfl

theorem reconcile_verdict (rebuild : SuccessfulRebuild payload state)
    (full : FullState observed "OBSERVED") {empty : Bool}
    (emptyRead : bothEmpty payload state (.dict observed) = .ok empty) :
    ∃ result, reconcilePaperState (.dict payload) (.dict observed) = .ok result ∧
      (result.matched = true ↔ empty = true ∨ compareStates state observed = []) := by
  obtain ⟨rebuiltSummary, rebuiltRead⟩ := rebuild.full.readable
  obtain ⟨observedSummary, observedRead⟩ := full.readable
  have stateEq : (PyDict.get ((toDictOrNone (.dict payload)).getD []) "state").asDict = state := by
    change (payload.get "state").asDict = state
    rw [rebuild.stateEq]
    rfl
  have unblocked : ¬validatePaperStateReconciliationInputs (toDictOrNone (.dict payload))
      (.dict observed) ≠ [] := not_not.mpr (validated rebuild full)
  unfold reconcilePaperState
  dsimp only
  rw [if_neg unblocked, stateEq]
  apply exists_bind_ok emptyRead
  apply exists_bind_ok rebuiltRead
  apply exists_bind_ok observedRead
  cases empty with
  | true => exact ⟨_, rfl, iff_of_true rfl (.inl rfl)⟩
  | false =>
      change ∃ result, (if compareStates state observed ≠ [] then _ else _) = _ ∧ _
      by_cases differ : compareStates state observed ≠ []
      · rw [if_pos differ]
        refine ⟨_, rfl, iff_of_false Bool.false_ne_true ?_⟩
        rintro (impossible | same)
        · exact Bool.false_ne_true impossible
        · exact differ same
      · rw [if_neg differ]
        exact ⟨_, rfl, iff_of_true rfl (.inr (not_not.mp differ))⟩

/-- Two states match when both count no events, or when nothing but absent `None` keys
sets them apart. -/
theorem reportsMatch_iff (rebuild : SuccessfulRebuild payload state)
    (full : FullState observed "OBSERVED") :
    ReportsMatch payload observed ↔
      bothEmpty payload state (.dict observed) = .ok true ∨ SameUpToNone state observed := by
  obtain ⟨empty, emptyRead⟩ := bothEmpty_total rebuild full
  obtain ⟨result, reported, verdict⟩ := reconcile_verdict rebuild full emptyRead
  have same : ReportsMatch payload observed ↔ result.matched = true := by
    constructor
    · rintro ⟨other, otherReported, matched⟩
      cases reported.symm.trans otherReported
      exact matched
    · intro matched
      exact ⟨result, reported, matched⟩
  rw [same, verdict, compareStates_eq_nil_iff, emptyRead, Except.ok.injEq]
  rfl

/-- A match is reported of exactly the equal states, unless the states differ and either
count no events or differ only by keys that one of them sets to `None` and the other
does not have. -/
theorem reconcile_sound_iff (rebuild : SuccessfulRebuild payload state)
    (full : FullState observed "OBSERVED") :
    (ReportsMatch payload observed ↔ SameState state observed) ↔
      (bothEmpty payload state (.dict observed) = .ok true ∨ SameUpToNone state observed →
        SameState state observed) := by
  rw [reportsMatch_iff rebuild full]
  constructor
  · intro sound
    exact sound.mp
  · intro complete
    exact ⟨complete, fun same => .inr same.upToNone⟩

end Verdict

/-! ### Drifts that are not reported -/

private def stateWith (orders : PyDict) (eventIds : List String) (lastEvent : PyValue) : PyDict :=
  [("schema_version", .str "1.0"), ("state_type", .str "PAPER_REDUCED_STATE"),
    ("orders", .dict orders), ("positions", .dict []), ("pnl_marks", .list []),
    ("slippage_measurements", .list []), ("performance_snapshots", .list []),
    ("applied_event_ids", ofStrings eventIds), ("applied_idempotency_keys", ofStrings eventIds),
    ("last_event", lastEvent),
    ("summary", .dict ([("event_count", .int eventIds.length), ("order_count", .int eventIds.length),
      ("open_order_count", .int eventIds.length), ("terminal_order_count", .int 0),
      ("position_count", .int 0), ("open_position_count", .int 0), ("flat_position_count", .int 0),
      ("pnl_mark_count", .int 0), ("slippage_measurement_count", .int 0),
      ("performance_snapshot_count", .int 0)] ++ reportFlags))] ++ reportFlags

private def rebuildOf (status : String) (state : PyDict) : PyDict :=
  [("status", .str status), ("rebuilt", .bool true), ("state", .dict state)]

/-- The entry that an OPENED event leaves, with or without its unset price. -/
private def openedOrder (price : PyDict) : PyDict :=
  [("order-1", .dict ([("paper_order_id", .str "order-1"), ("paper_order_intent_id", .str "intent-1"),
    ("candidate_id", .str "candidate-1"), ("strategy_id", .str "orb_retest"), ("status", .str "OPEN"),
    ("terminal", .bool false), ("filled_quantity", .int 0), ("remaining_quantity", .int 10)] ++ price ++
    [("last_event_id", .str "event-1"), ("last_update_epoch", .float (.finite 100)),
      ("payload", .dict [("remaining_quantity", .int 10)])] ++ reportFlags))]

private def openedReference : PyValue :=
  .dict ([("event_id", .str "event-1"), ("cycle_id", .str "cycle-1"), ("event_sequence", .int 1),
    ("event_type", .str "PAPER_ORDER_OPENED"), ("ts_epoch", .float (.finite 100)),
    ("idempotency_key", .str "event-1")] ++ reportFlags)

private def openedState (price : PyDict) : PyDict :=
  stateWith (openedOrder price) ["event-1"] openedReference

private def verdictOf (status : String) (state observed : PyDict) :
    Option (Bool × PaperStateReconciliationStatus) :=
  (reconcilePaperState (.dict (rebuildOf status state)) (.dict observed)).toOption.map
    fun result => (result.matched, result.status)

/-- An order that no event explains and an order that lost a key both go unreported. -/
theorem reconcile_misses_drift :
    verdictOf "EMPTY" (stateWith [] [] .none) (stateWith (openedOrder []) [] .none) =
      some (true, .empty) ∧
    ¬SameState (stateWith [] [] .none) (stateWith (openedOrder []) [] .none) ∧
    verdictOf "REBUILT" (openedState [("average_fill_price", .none)]) (openedState []) =
      some (true, .matched) ∧
    ¬SameState (openedState [("average_fill_price", .none)]) (openedState []) := by
  unfold SameState
  decide

theorem reconcile_sound_opened :
    ReportsMatch (rebuildOf "REBUILT" (openedState [])) (openedState []) ↔
      SameState (openedState []) (openedState []) := by
  have full : ∀ source, source = "REBUILT" ∨ source = "OBSERVED" →
      FullState (openedState []) source := by
    rintro source (rfl | rfl)
    · exact ⟨by decide, ⟨_, rfl⟩⟩
    · exact ⟨by decide, ⟨_, rfl⟩⟩
  have same : SameState (openedState []) (openedState []) := by
    unfold SameState
    decide
  exact (reconcile_sound_iff ⟨rfl, by decide, full _ (.inl rfl)⟩
    (full _ (.inr rfl))).mpr fun _ => same

end Algotradify.Paper.Reconciliation
