/-
A cycle of the reconciliation: every order it lists and that raises no error ends in the
state and with the fill of its broker row, along legal transitions; where all open orders
are listed and the database works, the same snapshot then finds nothing left to write.
-/

import Algotradify.Orders.ReconciledOrders

namespace Algotradify.Orders.Reconciliation

open Py Sql Transition Core.Reconciliation

variable {brokerRow : PyDict} {record : OrderRecord}

/-! ### The row of an order -/

theorem brokerById_lookup {brokerOrders : List PyDict} {id : String} {row : PyDict}
    (found : (brokerById brokerOrders).lookup id = some row) :
    brokerOrderId row = id ∧ id ≠ "" := by
  unfold brokerById at found
  induction brokerOrders using List.reverseRecOn with
  | nil => cases found
  | append_singleton rest last ih =>
      rw [List.foldl_append, List.foldl_cons, List.foldl_nil] at found
      split at found
      · exact ih found
      · next named =>
        by_cases here : id = brokerOrderId last
        · rw [here, Assoc.lookup_set_self] at found
          cases found
          exact ⟨here.symm, here ▸ named⟩
        · rw [Assoc.lookup_set_of_ne _ _ here] at found
          exact ih found

theorem rowFor_again {brokerOrders brokerPositions : List PyDict} {orderId : String}
    {row written : OrderRow}
    (found : (Snapshot.take brokerOrders brokerPositions).rowFor (rowToRecord orderId row) =
      some brokerRow) (broker : written.brokerOrderId = row.brokerOrderId ∨ written.brokerOrderId =
      (blankToNone (brokerOrderId brokerRow)).or row.brokerOrderId) :
    (Snapshot.take brokerOrders brokerPositions).rowFor (rowToRecord orderId written) =
      some brokerRow := by
  rcases broker with same | carried
  · unfold Snapshot.rowFor at found ⊢
    change List.findSome? _ ((written.brokerOrderId.bind blankToNone).toList ++ [orderId]) = _
    rw [same]
    exact found
  · obtain ⟨id, _, held⟩ := List.exists_of_findSome?_eq_some found
    obtain ⟨own, named⟩ := brokerById_lookup held
    have filled : blankToNone (brokerOrderId brokerRow) = some id := by
      rw [own]
      exact if_neg named
    rw [filled, Option.some_or] at carried
    unfold Snapshot.rowFor
    change List.findSome? _ ((written.brokerOrderId.bind blankToNone).toList ++ [orderId]) = _
    have again : blankToNone id = some id := if_neg named
    rw [carried, Option.bind_some, again, Option.toList_some, List.singleton_append,
      List.findSome?_cons, held]

/-! ### One order -/

def Handled (contexts : ℕ → CallContext) (snapshot : Snapshot) (orderId : String)
    (row : OrderRow) (after : Session) : Prop :=
  ∃ written, Reads after.db orderId written ∧
    ((∀ raised, (orderId, raised) ∉ after.errors) → ∀ brokerRow,
      snapshot.rowFor (rowToRecord orderId row) = some brokerRow →
        Synced row written brokerRow) ∧
    ((∀ index, Healthy (contexts index)) →
      Settled snapshot (rowToRecord orderId written) ∨ written.state ∈ terminalStates)

section Orders

variable {contexts : ℕ → CallContext} {brokerOrders brokerPositions : List PyDict}
variable {session : Session} {orderId : String} {row : OrderRow}

theorem moveToState_idle {target : OrderState} {reason : String} {broker : Option String}
    {fill : Option PyFloat} (there : record.state = target)
    (near : ∀ quantity, fill = some quantity → differs record.filledQty quantity = false) :
    moveToState contexts record target reason broker fill session = (.ok record, session) := by
  unfold moveToState
  rw [if_pos there]
  split
  · next quantity =>
    rw [near quantity rfl]
    rfl
  · rfl

theorem syncFill_idle (near : differs record.filledQty (brokerFilledQty brokerRow) = false) :
    syncFill contexts record brokerRow session = (.ok (), session) := by
  unfold syncFill
  rw [near]
  rfl

theorem syncState_idle {target : OrderState} (asked : targetStateFromBroker brokerRow = some target)
    (there : record.state = target)
    (near : differs record.filledQty (brokerFilledQty brokerRow) = false) :
    syncState contexts record brokerRow session = (.ok record, session) := by
  unfold syncState
  rw [asked]
  dsimp only
  rw [moveToState_idle there]
  · dsimp only
    rw [if_neg]
    rintro (moved | filled)
    · exact moved rfl
    · rw [differs_self] at filled
      cases filled
  · intro quantity given
    split at given
    · cases given
      exact near
    · cases given

theorem settled_idle {snapshot : Snapshot} (settled : Settled snapshot record) :
    (reconcileOrder contexts snapshot session record).db = session.db := by
  unfold Settled at settled
  unfold reconcileOrder
  cases found : snapshot.rowFor record with
  | none =>
      rw [found] at settled
      dsimp only at settled ⊢
      unfold rejectMissing
      rw [if_pos settled]
      rfl
  | some brokerRow =>
      rw [found] at settled
      dsimp only at settled ⊢
      unfold syncOrder
      cases asked : targetStateFromBroker brokerRow with
      | none =>
          rw [asked] at settled
          have unmoved : syncState contexts record brokerRow session = (.ok record, session) := by
            unfold syncState
            rw [asked]
          rw [unmoved]
          dsimp only
          rw [syncFill_idle settled]
      | some target =>
          rw [asked] at settled
          rcases settled with ⟨there, near⟩ | ⟨elsewhere, lacking, missing⟩
          · rw [syncState_idle asked there near]
            dsimp only
            rw [syncFill_idle near]
          · unfold syncState moveToState
            rw [asked]
            dsimp only
            rw [if_neg elsewhere, missing]

def AddsErrors (ids : List String) (before after : Session) : Prop :=
  ∃ own, after.errors = before.errors ++ own ∧ ∀ entry ∈ own, entry.1 ∈ ids

theorem near_of_synced {written : OrderRow} (synced : Synced row written brokerRow) :
    differs written.filledQty.value (brokerFilledQty brokerRow) = false := by
  rcases synced.filled with full | ⟨kept, near⟩
  · rw [full]
    exact differs_self _
  · rw [kept]
    exact near

def Session.noted (orderId : String) (after : Session) : Except OrderError Unit → Session
  | .ok () => after
  | .error raised => { after with errors := after.errors ++ [(orderId, raised)] }

theorem reconcileOrder_handled (reads : Reads session.db orderId row) (present : orderId ≠ "")
    (isOpen : row.state ∉ terminalStates) :
    let snapshot := Snapshot.take brokerOrders brokerPositions
    let after := reconcileOrder contexts snapshot session (rowToRecord orderId row)
    Touched orderId session.db after.db ∧ AddsErrors [orderId] session after ∧
      Handled contexts snapshot orderId row after := by
  intro snapshot after
  have failed : ∀ {raised : OrderError} {middle : Session}, Failed orderId session middle →
      ((∀ index, Healthy (contexts index)) → middle = session ∧
        Settled snapshot (rowToRecord orderId row)) →
      after = { middle with errors := middle.errors ++ [(orderId, raised)] } →
      Touched orderId session.db after.db ∧ AddsErrors [orderId] session after ∧
        Handled contexts snapshot orderId row after := by
    intro raised middle ⟨written, moved⟩ settled same
    rw [same]
    refine ⟨moved.touched, ⟨[(orderId, raised)], ?_, ?_⟩, written, moved.reads, ?_, ?_⟩
    · change middle.errors ++ [(orderId, raised)] = session.errors ++ [(orderId, raised)]
      rw [moved.errors]
    · intro entry member
      rw [List.mem_singleton.mp member]
      exact List.mem_singleton_self orderId
    · intro clean
      exact absurd (List.mem_append_right _ (List.mem_singleton_self _)) (clean raised)
    · intro healthy
      obtain ⟨unmoved, kept⟩ := settled healthy
      have stored := moved.reads.selected
      rw [unmoved, reads.selected] at stored
      cases stored
      exact Or.inl kept
  have done : ∀ {middle : Session} {written : OrderRow}, Moved orderId session middle written →
      (∀ brokerRow, snapshot.rowFor (rowToRecord orderId row) = some brokerRow →
        Synced row written brokerRow) →
      (Settled snapshot (rowToRecord orderId written) ∨ written.state ∈ terminalStates) →
      after = middle →
      Touched orderId session.db after.db ∧ AddsErrors [orderId] session after ∧
        Handled contexts snapshot orderId row after := by
    intro middle written moved synced finished same
    rw [same]
    refine ⟨moved.touched, ⟨[], ?_, fun _ none => nomatch none⟩, written, moved.reads,
      fun _ => synced, fun _ => finished⟩
    rw [moved.errors, List.append_nil]
  cases found : snapshot.rowFor (rowToRecord orderId row) with
  | none =>
      cases handled : rejectMissing contexts snapshot (rowToRecord orderId row) session with
      | mk outcome middle =>
          have same : after = middle.noted orderId outcome := by
            change reconcileOrder contexts snapshot session (rowToRecord orderId row) = _
            unfold reconcileOrder
            rw [found]
            dsimp only
            rw [handled]
            cases outcome <;> rfl
          cases outcome with
          | ok _ =>
              obtain ⟨written, moved, unknown | rejected⟩ := rejectMissing_ok reads handled
              · obtain ⟨rfl, open_, positions⟩ := unknown
                refine done moved (fun _ other => nomatch found.symm.trans other) ?_ same
                refine Or.inl ?_
                unfold Settled
                rw [found]
                exact ⟨open_, positions⟩
              · refine done moved (fun _ other => nomatch found.symm.trans other) ?_ same
                exact Or.inr (rejected ▸ by decide)
          | error raised =>
              obtain ⟨left, unhealthy⟩ := rejectMissing_error reads present isOpen handled
              exact failed left (fun healthy => absurd healthy unhealthy) same
  | some brokerRow =>
      cases handled : syncOrder contexts (rowToRecord orderId row) brokerRow session with
      | mk outcome middle =>
          have same : after = middle.noted orderId outcome := by
            change reconcileOrder contexts snapshot session (rowToRecord orderId row) = _
            unfold reconcileOrder
            rw [found]
            dsimp only
            rw [handled]
            cases outcome <;> rfl
          cases outcome with
          | ok _ =>
              obtain ⟨written, moved, synced⟩ := syncOrder_ok reads handled
              refine done moved ?_ (Or.inl ?_) same
              · intro other again
                cases found.symm.trans again
                exact synced
              · have near := near_of_synced synced
                unfold Settled
                rw [rowFor_again found synced.broker]
                dsimp only
                cases asked : targetStateFromBroker brokerRow with
                | none => exact near
                | some target =>
                    have there := synced.state
                    rw [asked] at there
                    exact Or.inl ⟨there, near⟩
          | error raised =>
              obtain ⟨left, pathless⟩ := syncOrder_error reads present handled
              refine failed left (fun healthy => ?_) same
              obtain ⟨unmoved, target, asked, elsewhere, missing⟩ := pathless healthy
              refine ⟨unmoved, ?_⟩
              unfold Settled
              rw [found]
              dsimp only
              rw [asked]
              exact Or.inr ⟨elsewhere, missing⟩

/-! ### The loop -/

def Lists (db : Database) (record : OrderRecord) : Prop :=
  ∃ row, record = rowToRecord record.orderId row ∧ Reads db record.orderId row ∧
    record.orderId ≠ "" ∧ row.state ∉ terminalStates

structure Applied (contexts : ℕ → CallContext) (snapshot : Snapshot)
    (records : List OrderRecord) (before after : Session) : Prop where
  run : ∃ entries, Run Step before.db entries after.db
  others : ∀ other, other ∉ records.map OrderRecord.orderId →
    after.db.orderStates.select other = before.db.orderStates.select other
  errors : AddsErrors (records.map OrderRecord.orderId) before after
  handled : ∀ record ∈ records, ∃ row, record = rowToRecord record.orderId row ∧
    Reads before.db record.orderId row ∧
    Handled contexts snapshot record.orderId row after

theorem Handled.kept {snapshot : Snapshot} {middle after : Session} {ids : List String}
    (handled : Handled contexts snapshot orderId row middle)
    (unchanged : after.db.orderStates.select orderId = middle.db.orderStates.select orderId)
    (errors : AddsErrors ids middle after) : Handled contexts snapshot orderId row after := by
  obtain ⟨written, reads, synced, finished⟩ := handled
  obtain ⟨own, added, _⟩ := errors
  refine ⟨written, ⟨?_, reads.stripped, reads.nonNegative⟩, fun clean => ?_, finished⟩
  · rw [unchanged]
    exact reads.selected
  · refine synced (fun raised member => clean raised ?_)
    rw [added]
    exact List.mem_append_left own member

theorem applied_of_foldl {records : List OrderRecord}
    (listed : ∀ record ∈ records, Lists session.db record)
    (distinct : (records.map OrderRecord.orderId).Nodup) :
    let snapshot := Snapshot.take brokerOrders brokerPositions
    Applied contexts snapshot records session
      (records.foldl (reconcileOrder contexts snapshot) session) := by
  intro snapshot
  induction records generalizing session with
  | nil =>
      refine ⟨⟨[], .nil⟩, fun _ _ => rfl, ⟨[], (List.append_nil _).symm, ?_⟩, ?_⟩
      · intro _ impossible
        cases impossible
      · intro _ impossible
        cases impossible
  | cons record rest ih =>
      obtain ⟨row, same, reads, present, isOpen⟩ := listed record List.mem_cons_self
      rw [List.map_cons, List.nodup_cons] at distinct
      obtain ⟨touched, ⟨own, added, ownIds⟩, handled⟩ :=
        @reconcileOrder_handled contexts brokerOrders brokerPositions _ _ _ reads present isOpen
      rw [← same] at touched added handled
      have stillListed : ∀ other ∈ rest,
          Lists (reconcileOrder contexts snapshot session record).db other := by
        intro other member
        obtain ⟨otherRow, otherSame, otherReads, otherPresent, otherOpen⟩ :=
          listed other (List.mem_cons_of_mem record member)
        refine ⟨otherRow, otherSame, ⟨?_, otherReads.stripped, otherReads.nonNegative⟩,
          otherPresent, otherOpen⟩
        rw [touched.others other.orderId]
        · exact otherReads.selected
        · intro clash
          exact distinct.1 (clash ▸ List.mem_map_of_mem member)
      have later := ih stillListed distinct.2
      rw [List.foldl_cons]
      obtain ⟨laterOwn, laterAdded, laterIds⟩ := later.errors
      obtain ⟨entries, run⟩ := touched.run
      obtain ⟨laterEntries, laterRun⟩ := later.run
      refine ⟨⟨entries ++ laterEntries, run.append laterRun⟩, ?_, ⟨own ++ laterOwn, ?_, ?_⟩, ?_⟩
      · intro other absent
        rw [List.map_cons, List.mem_cons, not_or] at absent
        rw [later.others other absent.2, touched.others other absent.1]
      · rw [laterAdded, added, List.append_assoc]
      · intro entry member
        rw [List.map_cons]
        rcases List.mem_append.mp member with first | second
        · rw [List.mem_singleton.mp (ownIds entry first)]
          exact List.mem_cons_self
        · exact List.mem_cons_of_mem _ (laterIds entry second)
      · intro other member
        rcases List.mem_cons.mp member with rfl | member
        · refine ⟨row, same, reads, ?_⟩
          exact handled.kept (later.others _ distinct.1) ⟨laterOwn, laterAdded, laterIds⟩
        · obtain ⟨otherRow, otherSame, otherReads, otherHandled⟩ := later.handled other member
          refine ⟨otherRow, otherSame, ⟨?_, otherReads.stripped, otherReads.nonNegative⟩,
            otherHandled⟩
          rw [← touched.others other.orderId]
          · exact otherReads.selected
          · intro clash
            exact distinct.1 (clash ▸ List.mem_map_of_mem member)

theorem applied_idle {records : List OrderRecord} {snapshot : Snapshot}
    (settled : ∀ record ∈ records, Settled snapshot record) :
    (records.foldl (reconcileOrder contexts snapshot) session).db = session.db := by
  induction records generalizing session with
  | nil => rfl
  | cons record rest ih =>
      rw [List.foldl_cons, ih (fun other member => settled other (List.mem_cons_of_mem _ member)),
        settled_idle (settled record List.mem_cons_self)]

end Orders

/-! ### Tables that calls have made -/

/-- Every order is stored once, under a stripped id that is not blank. -/
structure Keyed (db : Database) : Prop where
  distinct : Assoc.Distinct db.orderStates
  stripped : ∀ orderId row, db.orderStates.select orderId = some row →
    strip orderId = orderId ∧ orderId ≠ ""

theorem Keyed.write {db : Database} {orderId : String} {row : OrderRow} {event : EventRow}
    (keyed : Keyed db) (stripped : strip orderId = orderId) (present : orderId ≠ "") :
    Keyed (db.write orderId row event) := by
  refine ⟨keyed.distinct.set orderId row, fun other stored selected => ?_⟩
  change (db.orderStates.put orderId row).select other = some stored at selected
  rw [Table.select_put] at selected
  split at selected
  · next here =>
    rw [here]
    exact ⟨stripped, present⟩
  · exact keyed.stripped other stored selected

theorem step_keyed {db after : Database} {entry : Entry} (keyed : Keyed db)
    (stepped : Step db entry after) : Keyed after := by
  rcases step_cases stepped with ⟨reply, returned, effect⟩ | ⟨raised, _raised, rfl⟩
  swap
  · exact keyed
  obtain ⟨⟨context, operation⟩, outcome⟩ := entry
  cases effect with
  | found _selected _sameKey _noConflict => exact keyed
  | unchanged _selected _same => exact keyed
  | @created request row made freshId freshKey =>
      refine keyed.write (strip_strip request.orderId) ?_
      intro blank
      have refused : perform db ⟨context, .create request⟩ =
          (.error (.valueError "missing_order_id"), db) := by
        unfold perform Operation.run createOrGetOrder
        dsimp only
        rw [if_pos blank]
      have performed : perform db ⟨context, .create request⟩ = (outcome, _) :=
        Option.some.inj stepped
      rw [refused] at performed
      cases returned
      cases (Prod.mk.inj performed).1
  | moved _asked selected _allowed _made =>
      exact keyed.write (keyed.stripped _ _ selected).1 (keyed.stripped _ _ selected).2
  | filled selected _different _made =>
      exact keyed.write (keyed.stripped _ _ selected).1 (keyed.stripped _ _ selected).2

theorem run_keyed {entries : List Entry} {db : Database}
    (run : Run Step Database.empty entries db) : Keyed db := by
  refine run.invariant ⟨List.nodup_nil, ?_⟩ fun _ _ _ => step_keyed
  intro orderId row selected
  cases selected

theorem run_events {entries : List Entry} {before after : Database}
    (run : Run Step before entries after) : before.events <+: after.events := by
  refine run.invariant (motive := fun db => before.events <+: db.events)
    (List.prefix_refl _) ?_
  intro middle entry next kept stepped
  rcases step_cases stepped with ⟨reply, _returned, effect⟩ | ⟨raised, _raised, rfl⟩
  swap
  · exact kept
  obtain ⟨⟨context, operation⟩, outcome⟩ := entry
  cases effect with
  | found _selected _sameKey _noConflict => exact kept
  | unchanged _selected _same => exact kept
  | created _made _freshId _freshKey => exact kept.trans (List.prefix_append _ _)
  | moved _asked _selected _allowed _made => exact kept.trans (List.prefix_append _ _)
  | filled _selected _different _made => exact kept.trans (List.prefix_append _ _)

def isOpen (entry : String × OrderRow) : Bool :=
  !terminalStates.contains entry.2.state

theorem mem_listOrders {limit : ℕ} {db : Database} (member : record ∈ listOrders limit db) :
    ∃ entry ∈ db.orderStates, isOpen entry = true ∧ record = rowToRecord entry.1 entry.2 := by
  obtain ⟨entry, taken, same⟩ := List.mem_map.mp member
  have inOpen := (List.perm_insertionSort _ _).mem_iff.mp (List.mem_of_mem_take taken)
  obtain ⟨stored, open_⟩ := List.mem_filter.mp inOpen
  exact ⟨entry, stored, open_, same.symm⟩

theorem listOrders_nodup {limit : ℕ} {db : Database} (keyed : Keyed db) :
    ((listOrders limit db).map OrderRecord.orderId).Nodup := by
  have ids : (listOrders limit db).map OrderRecord.orderId =
      ((((db.orderStates.filter isOpen).insertionSort fun left right =>
        right.2.updatedAt.value.le left.2.updatedAt.value = true).take limit).map Prod.fst) := by
    unfold listOrders
    rw [List.map_map]
    rfl
  rw [ids, List.map_take]
  refine List.Nodup.sublist (List.take_sublist _ _) ?_
  refine ((List.perm_insertionSort _ _).map Prod.fst).nodup_iff.mpr ?_
  exact List.Nodup.sublist (List.Sublist.map Prod.fst List.filter_sublist) keyed.distinct

theorem listOrders_complete {limit : ℕ} {db : Database}
    (fits : db.orderStates.countP isOpen ≤ limit) {entry : String × OrderRow}
    (stored : entry ∈ db.orderStates) (open_ : isOpen entry = true) :
    rowToRecord entry.1 entry.2 ∈ listOrders limit db := by
  unfold listOrders
  refine List.mem_map.mpr ⟨entry, ?_, rfl⟩
  rw [List.take_of_length_le]
  · exact (List.perm_insertionSort _ _).mem_iff.mpr (List.mem_filter.mpr ⟨stored, open_⟩)
  · rw [(List.perm_insertionSort _ _).length_eq]
    change (db.orderStates.filter isOpen).length ≤ limit
    rw [← List.countP_eq_length_filter]
    exact fits

theorem isOpen_iff (entry : String × OrderRow) :
    isOpen entry = true ↔ entry.2.state ∉ terminalStates := by
  unfold isOpen
  rw [Bool.not_eq_true', ← Bool.not_eq_true, List.contains_iff_mem]

theorem lists_of_mem {entries : List Entry} {db : Database} {limit : ℕ}
    (reached : Run Step Database.empty entries db) (member : record ∈ listOrders limit db) :
    Lists db record := by
  obtain ⟨entry, stored, open_, rfl⟩ := mem_listOrders member
  have keyed := run_keyed reached
  have selected : db.orderStates.select entry.1 = some entry.2 :=
    (Assoc.lookup_eq_some_iff keyed.distinct entry.1 entry.2).mpr stored
  obtain ⟨stripped, present⟩ := keyed.stripped _ _ selected
  exact ⟨entry.2, rfl, ⟨selected, stripped, run_nonNegative reached _ _ selected⟩, present,
    (isOpen_iff entry).mp open_⟩

/-! ### Cycles -/

section Cycles

variable {contexts : ℕ → CallContext} {limit : ℕ} {rawOrders rawPositions : PyValue}
variable {entries : List Entry} {db : Database}

theorem cycle_applied (reached : Run Step Database.empty entries db) :
    Applied contexts
      (.take (fetchBrokerOrders rawOrders) (fetchBrokerPositionsSnapshot rawPositions))
      (listOrders limit db) (.start db)
      (runCycleOnce contexts limit (some (rawOrders, rawPositions)) db).2 :=
  applied_of_foldl (fun _ member => lists_of_mem reached member)
    (listOrders_nodup (run_keyed reached))

/-- After one cycle over a reachable table: the calls were legal and only extended the log
of events; every listed order with a broker row that raised no error has the state of its
row and its fill; and where all open orders were listed and no call failed, another cycle
over the same snapshot leaves the database as it is. -/
theorem cycle_converges (reached : Run Step Database.empty entries db) :
    let snapshot :=
      Snapshot.take (fetchBrokerOrders rawOrders) (fetchBrokerPositionsSnapshot rawPositions)
    let cycle := (runCycleOnce contexts limit (some (rawOrders, rawPositions)) db).2
    (∃ calls, Run Step db calls cycle.db) ∧ Synchronized cycle.db ∧
      db.events <+: cycle.db.events ∧
      (∀ record ∈ listOrders limit db,
        (∀ raised, (record.orderId, raised) ∉ cycle.errors) → ∀ brokerRow,
          snapshot.rowFor record = some brokerRow → ∃ row written,
            db.orderStates.select record.orderId = some row ∧
            cycle.db.orderStates.select record.orderId = some written ∧
            Synced row written brokerRow) ∧
      (db.orderStates.countP isOpen ≤ limit → (∀ index, Healthy (contexts index)) →
        ∀ again, (runCycleOnce again limit (some (rawOrders, rawPositions)) cycle.db).2.db =
          cycle.db) := by
  intro snapshot cycle
  have applied : Applied contexts snapshot (listOrders limit db) (.start db) cycle :=
    cycle_applied reached
  obtain ⟨calls, run⟩ := applied.run
  change Run Step db calls cycle.db at run
  have reachedNext := reached.append run
  refine ⟨⟨calls, run⟩, ?_, run_events run, ?_, ?_⟩
  · exact reachedNext.invariant empty_synchronized fun _ _ _ => step_synchronized
  · intro record member clean brokerRow found
    obtain ⟨row, same, reads, written, readsNow, synced, _⟩ := applied.handled record member
    rw [same] at found
    exact ⟨row, written, reads.selected, readsNow.selected, synced clean brokerRow found⟩
  · intro fits healthy again
    refine @applied_idle again (.start cycle.db) _ _ ?_
    intro record member
    obtain ⟨written, same, reads, present, open_⟩ := lists_of_mem reachedNext member
    by_cases listed : record.orderId ∈ (listOrders limit db).map OrderRecord.orderId
    · obtain ⟨before, inList, sameId⟩ := List.mem_map.mp listed
      obtain ⟨row, _, _, stored, readsNow, _, finished⟩ := applied.handled before inList
      rw [sameId] at readsNow finished
      cases reads.selected.symm.trans readsNow.selected
      rcases finished healthy with settled | closed
      · rw [same]
        exact settled
      · exact absurd closed open_
    · have unchanged := applied.others _ listed
      change cycle.db.orderStates.select record.orderId = db.orderStates.select record.orderId
        at unchanged
      have stored : db.orderStates.select record.orderId = some written := by
        rw [← unchanged]
        exact reads.selected
      have inTable := Assoc.mem_of_lookup stored
      have inList := listOrders_complete fits inTable ((isOpen_iff _).mpr open_)
      exact absurd (List.mem_map_of_mem inList) listed

end Cycles

/-! ### Two tables -/

def tableOf (calls : List Call) : Database :=
  calls.foldl (fun db call => (perform db call).2) Database.empty

theorem tableOf_reached (calls : List Call) :
    ∃ entries, Run Step Database.empty entries (tableOf calls) := by
  unfold tableOf
  induction calls using List.reverseRecOn with
  | nil => exact ⟨[], .nil⟩
  | append_singleton calls call ih =>
      obtain ⟨entries, run⟩ := ih
      rw [List.foldl_append, List.foldl_cons, List.foldl_nil]
      have stepped : Step (calls.foldl (fun db call => (perform db call).2) Database.empty)
          (call, (perform _ call).1) (perform _ call).2 := congrArg some rfl
      exact ⟨_, .snoc run stepped⟩

def clockAt (epoch : ℚ) : CallContext :=
  ⟨.finite epoch, none⟩

def sentOrder : List Call :=
  [⟨clockAt 1, .create { orderId := "o1", idempotencyKey := "k1", quantity := some (.finite 10) }⟩,
    ⟨clockAt 2, .transition { orderId := "o1", nextState := "SENT" }⟩]

def twoOrders : List Call :=
  [⟨clockAt 1, .create { orderId := "o1", idempotencyKey := "k1" }⟩,
    ⟨clockAt 2, .create { orderId := "o2", idempotencyKey := "k2" }⟩]

def answer (status : String) (filled : ℚ) : PyValue × PyValue :=
  (.list [.dict [("order_id", .str "o1"), ("status", .str status),
    ("filled_quantity", .float (.finite filled))]], .list [])

/-- A sent order that the broker has filled is filled after one cycle, and then left. -/
theorem cycle_converges_filled :
    let cycle := (runCycleOnce (fun _ => clockAt 3) 2000 (some (answer "COMPLETE" 10))
      (tableOf sentOrder)).2
    (∃ written, cycle.db.orderStates.select "o1" = some written ∧ written.state = .filled) ∧
      (runCycleOnce (fun _ => clockAt 4) 2000 (some (answer "COMPLETE" 10)) cycle.db).2.db =
        cycle.db := by
  intro cycle
  obtain ⟨entries, reached⟩ := tableOf_reached sentOrder
  obtain ⟨_, _, _, synced, idle⟩ := @cycle_converges (fun _ => clockAt 3) 2000
    (answer "COMPLETE" 10).1 (answer "COMPLETE" 10).2 entries (tableOf sentOrder) reached
  constructor
  · have listed : "o1" ∈ (listOrders 2000 (tableOf sentOrder)).map OrderRecord.orderId := by
      decide
    obtain ⟨record, member, own⟩ := List.mem_map.mp listed
    have matched := List.all_eq_true.mp (show ((listOrders 2000 (tableOf sentOrder)).all
      fun record => ((Snapshot.take (fetchBrokerOrders (answer "COMPLETE" 10).1)
        (fetchBrokerPositionsSnapshot (answer "COMPLETE" 10).2)).rowFor record).any fun row =>
          targetStateFromBroker row = some .filled) = true by decide +kernel) record member
    obtain ⟨brokerRow, found, target⟩ := (Option.any_eq_true _ _).mp matched
    have clean : ∀ raised, (record.orderId, raised) ∉ cycle.errors := by
      have none : cycle.errors = [] := by decide +kernel
      intro raised
      rw [none]
      exact List.not_mem_nil
    obtain ⟨row, written, _, stored, sync⟩ := synced record member clean brokerRow found
    rw [own] at stored
    refine ⟨written, stored, ?_⟩
    rw [sync.state, of_decide_eq_true target]
    rfl
  · exact idle (by decide) (fun _ => ⟨rfl, by decide⟩) _

def cycleAt (epoch : ℚ) (limit : ℕ) (answers : PyValue × PyValue) (db : Database) : Session :=
  (runCycleOnce (fun _ => clockAt epoch) limit (some answers) db).2

/-- A fill below the tolerance is not written, and an order beyond the limit is only
handled by the second cycle. -/
theorem cycle_tolerance_and_limit :
    ((cycleAt 3 2000 (answer "OPEN" 5e-10) (tableOf sentOrder)).errors.length = 0 ∧
      ((cycleAt 3 2000 (answer "OPEN" 5e-10) (tableOf sentOrder)).db.orderStates.map fun entry =>
        (entry.2.state, entry.2.filledQty.value)) = [(.acknowledged, .finite 0)] ∧
      (fetchBrokerOrders (answer "OPEN" 5e-10).1).map brokerFilledQty = [.finite 5e-10]) ∧
    (cycleAt 4 1 (.list [], .list [])
        (cycleAt 3 1 (.list [], .list []) (tableOf twoOrders)).db).db ≠
      (cycleAt 3 1 (.list [], .list []) (tableOf twoOrders)).db := by
  decide +kernel

end Algotradify.Orders.Reconciliation
