/-
The event log refines the order table: after every run the events of an order lead
from its creation to what its row says, and the mirrored table has the same rows.

Creating an order is idempotent: however the transactions of all clients interleave,
one call for each key creates the order and every other call with the key finds it.
-/

import Algotradify.Orders.Fills
import Mathlib.Data.List.Chain

namespace Algotradify.Orders

open Py Sql Transition

variable {event : EventRow} {row current : OrderRow} {orderId : String}

/-! ### The log of an order -/

def eventsOf (db : Database) (orderId : String) : List EventRow :=
  db.events.filter fun event => event.orderId = orderId

/-- The next event starts where the previous one ended, and changes the state only as
the table allows. -/
def Continues (previous next : EventRow) : Prop :=
  next.fromState = some previous.toState ∧
    (next.toState ≠ previous.toState → next.toState ∈ validTransitions previous.toState)

structure Ends (event : EventRow) (row : OrderRow) : Prop where
  state : event.toState = row.state
  filledQty : event.filledQty = some row.filledQty
  brokerOrderId : event.brokerOrderId = row.brokerOrderId

structure Logged (events : List EventRow) (row : OrderRow) : Prop where
  first : ∃ event, events.head? = some event ∧ event.fromState = none ∧ event.toState = .new
  chain : events.IsChain Continues
  last : ∃ event, events.getLast? = some event ∧ Ends event row

structure Synchronized (db : Database) : Prop where
  mirror : ∀ orderId, db.orders.select orderId = db.orderStates.select orderId
  keys : ∀ orderId other row otherRow, db.orderStates.select orderId = some row →
    db.orderStates.select other = some otherRow →
    row.idempotencyKey = otherRow.idempotencyKey → orderId = other
  logged : ∀ orderId row, db.orderStates.select orderId = some row →
    Logged (eventsOf db orderId) row
  unlogged : ∀ orderId, db.orderStates.select orderId = none → eventsOf db orderId = []

theorem Logged.created {event : EventRow} {row : OrderRow} (first : event.fromState = none)
    (new : event.toState = .new) (ends : Ends event row) : Logged [event] row := by
  refine ⟨⟨event, rfl, first, new⟩, ?_, ⟨event, rfl, ends⟩⟩
  exact List.isChain_singleton event

theorem Logged.snoc {events : List EventRow} {event : EventRow} {current written : OrderRow}
    (logged : Logged events current) (starts : event.fromState = some current.state)
    (allowed : event.toState ≠ current.state → event.toState ∈ validTransitions current.state)
    (ends : Ends event written) : Logged (events ++ [event]) written := by
  obtain ⟨⟨first, head, start⟩, chain, ⟨last, tail, previous⟩⟩ := logged
  refine ⟨⟨first, ?_, start⟩, ?_, ⟨event, ?_, ends⟩⟩
  · rw [List.head?_append, head, Option.some_or]
  · rw [List.isChain_append]
    refine ⟨chain, List.isChain_singleton event, ?_⟩
    intro before isLast after isFirst
    rw [tail] at isLast
    cases isLast
    cases isFirst
    constructor
    · rw [starts, previous.state]
    · rw [previous.state]
      exact allowed
  · rw [List.getLast?_append, List.getLast?_singleton, Option.some_or]

/-! ### One write -/

theorem eventsOf_write_self (db : Database) (row : OrderRow) (own : event.orderId = orderId) :
    eventsOf (db.write orderId row event) orderId = eventsOf db orderId ++ [event] := by
  unfold eventsOf Database.write
  rw [List.filter_append, List.filter_singleton]
  simp [own]

theorem eventsOf_write_of_ne (db : Database) {other : String} (row : OrderRow)
    (own : event.orderId = orderId) (different : other ≠ orderId) :
    eventsOf (db.write orderId row event) other = eventsOf db other := by
  have apart : ¬ orderId = other := fun same => different same.symm
  unfold eventsOf Database.write
  rw [List.filter_append, List.filter_singleton]
  simp [own, apart]

theorem Synchronized.write {db : Database} {orderId : String} {row : OrderRow} {event : EventRow}
    (synchronized : Synchronized db) (own : event.orderId = orderId)
    (freeKey : ∀ other stored, other ≠ orderId → db.orderStates.select other = some stored →
      stored.idempotencyKey ≠ row.idempotencyKey)
    (logged : Logged (eventsOf db orderId ++ [event]) row) :
    Synchronized (db.write orderId row event) := by
  constructor
  · intro other
    change (db.mirrored orderId row).select other = (db.orderStates.put orderId row).select other
    unfold Database.mirrored
    by_cases same : other = orderId
    · rw [same, Table.select_replace_self, Table.select_put_self]
    · rw [Table.select_put_of_ne _ _ same, Table.select_replace_of_ne _ _ _ same,
        synchronized.mirror other]
      intro stored selected
      rw [synchronized.mirror other] at selected
      exact decide_eq_false (freeKey other stored same selected)
  · intro first second firstRow secondRow firstSelected secondSelected sameKey
    change (db.orderStates.put orderId row).select first = _ at firstSelected
    change (db.orderStates.put orderId row).select second = _ at secondSelected
    rw [Table.select_put] at firstSelected secondSelected
    split at firstSelected
    · rename_i firstHere
      cases firstSelected
      split at secondSelected
      · rename_i secondHere
        rw [firstHere, secondHere]
      · rename_i elsewhere
        exact absurd sameKey.symm (freeKey second secondRow elsewhere secondSelected)
    · rename_i firstElsewhere
      split at secondSelected
      · cases secondSelected
        exact absurd sameKey (freeKey first firstRow firstElsewhere firstSelected)
      · exact synchronized.keys _ _ _ _ firstSelected secondSelected sameKey
  · intro other stored selected
    change (db.orderStates.put orderId row).select other = _ at selected
    by_cases same : other = orderId
    · subst same
      rw [Table.select_put_self] at selected
      cases selected
      rw [eventsOf_write_self db row own]
      exact logged
    · rw [Table.select_put_of_ne _ _ same] at selected
      rw [eventsOf_write_of_ne db row own same]
      exact synchronized.logged other stored selected
  · intro other absent
    change (db.orderStates.put orderId row).select other = _ at absent
    by_cases same : other = orderId
    · rw [same, Table.select_put_self] at absent
      cases absent
    · rw [Table.select_put_of_ne _ _ same] at absent
      rw [eventsOf_write_of_ne db row own same]
      exact synchronized.unlogged other absent

theorem Synchronized.rewrite {db : Database} {written : OrderRow} (reason : Option String)
    (synchronized : Synchronized db) (selected : db.orderStates.select orderId = some current)
    (same : SameOrder current written)
    (allowed : written.state ≠ current.state → written.state ∈ validTransitions current.state) :
    Synchronized (db.write orderId written (stateEvent orderId current written reason)) := by
  refine synchronized.write rfl ?_ ?_
  · intro other stored elsewhere found sameKey
    rw [same.idempotencyKey] at sameKey
    exact elsewhere (synchronized.keys _ _ _ _ found selected sameKey)
  · exact (synchronized.logged orderId current selected).snoc rfl allowed ⟨rfl, rfl, rfl⟩

/-! ### Steps and runs -/

theorem effect_synchronized {context : CallContext} {operation : Operation} {reply : Reply}
    {db after : Database} (synchronized : Synchronized db)
    (effect : Effect context db operation reply after) : Synchronized after := by
  cases effect with
  | found _selected _sameKey _noConflict => exact synchronized
  | unchanged _selected _same => exact synchronized
  | @created request row made freshId freshKey =>
      obtain ⟨_, new, _⟩ := createRow made
      refine synchronized.write rfl ?_ ?_
      · intro other stored _elsewhere selected
        exact freshKey other stored selected
      · rw [synchronized.unlogged _ freshId, List.nil_append]
        exact .created rfl rfl ⟨new.symm, rfl, rfl⟩
  | @moved request next current written _asked selected allowed made =>
      obtain ⟨same, state, _⟩ := transitionRow made
      refine synchronized.rewrite _ selected same ?_
      rw [state]
      exact fun _ => allowed
  | @filled request current written selected _different made =>
      obtain ⟨same, state, _⟩ := fillRow made
      exact synchronized.rewrite _ selected same fun changed => absurd state changed

theorem step_synchronized {db after : Database} {entry : Entry} (synchronized : Synchronized db)
    (stepped : Step db entry after) : Synchronized after := by
  rcases step_cases stepped with ⟨reply, _returned, effect⟩ | ⟨raised, _raised, rfl⟩
  · exact effect_synchronized synchronized effect
  · exact synchronized

theorem empty_synchronized : Synchronized Database.empty := by
  constructor
  · intro orderId
    rfl
  · intro orderId other row otherRow selected
    cases selected
  · intro orderId row selected
    cases selected
  · intro orderId _absent
    rfl

/-- After every run the log, the order table and its mirror tell the same story, and
no call that raised changed any of them. -/
theorem eventLog_refines_orders {entries : List Entry} {db : Database}
    (run : Run Step Database.empty entries db) :
    Synchronized db ∧
    ∀ earlier call raised later before after, entries = earlier ++ (call, .error raised) :: later →
      Run Step Database.empty earlier before → Step before (call, .error raised) after →
      after = before := by
  constructor
  · exact run.invariant empty_synchronized fun _ _ _ => step_synchronized
  · intro earlier call raised later before after _cut _initial stepped
    rcases step_cases stepped with ⟨reply, returned, _effect⟩ | ⟨_, _raised, same⟩
    · cases returned
    · exact same

private def orderAt (epoch : ℚ) : CallContext :=
  ⟨.finite epoch, none⟩

private def exampleCalls : List Call :=
  [⟨orderAt 1, .create { orderId := "o1", idempotencyKey := "k1", quantity := some (.finite 10) }⟩,
    ⟨orderAt 2, .transition { orderId := "o1", nextState := "SENT", brokerOrderId := some "b1" }⟩,
    ⟨orderAt 3, .transition { orderId := "o1", nextState := "NEW" }⟩,
    ⟨orderAt 4, .setFilled { orderId := "o1", filledQty := .finite 4 }⟩]

/-- A created, sent and partly filled order, with one transition refused on the way. -/
theorem eventLog_refines_orders_sent :
    ∃ entries db, Run Step Database.empty entries db ∧ db.events.length = 3 ∧ Synchronized db := by
  have traced : (trace (fun db call => some (perform db call)) Database.empty exampleCalls).map
      (fun result => result.2.events.length) = some 3 := by
    decide +kernel
  obtain ⟨⟨entries, db⟩, ran, counted⟩ := Option.map_eq_some_iff.mp traced
  have run := run_of_trace ran
  exact ⟨entries, db, run, counted, (eventLog_refines_orders run).1⟩

/-! ### What the entries of a key say -/

structure OrderIdentity where
  orderId : String
  idempotencyKey : String
  instrument : Option String
  side : Option String
  quantity : PyFloat
  createdAt : PyFloat
deriving DecidableEq

def OrderRecord.identity (record : OrderRecord) : OrderIdentity :=
  { orderId := record.orderId
    idempotencyKey := record.idempotencyKey
    instrument := record.instrument
    side := record.side
    quantity := record.quantity
    createdAt := record.createdAt }

def repliedWith (key : String) (entry : Entry) : Option OrderRecord :=
  match entry with
  | (⟨_, .create request⟩, .ok (record, _)) =>
      if strip request.idempotencyKey = key then some record else none
  | _ => none

def createdWith (key : String) (entry : Entry) : Bool :=
  match entry with
  | (⟨_, .create request⟩, .ok (_, true)) => strip request.idempotencyKey = key
  | _ => false

def isCreationEvent (key : String) (event : EventRow) : Bool :=
  event.fromState = none && event.idempotencyKey = key

inductive KeyHistory (key : String) (entries : List Entry) (db : Database) : Prop where
  | unused
      (absent : ∀ orderId row, db.orderStates.select orderId = some row → row.idempotencyKey ≠ key)
      (noEvent : db.events.countP (isCreationEvent key) = 0)
      (noCreation : entries.countP (createdWith key) = 0)
      (noReply : ∀ entry ∈ entries, repliedWith key entry = none)
  | used (orderId : String) (row : OrderRow)
      (stored : db.orderStates.select orderId = some row)
      (ownKey : row.idempotencyKey = key)
      (oneEvent : db.events.countP (isCreationEvent key) = 1)
      (oneCreation : entries.countP (createdWith key) = 1)
      (sameIdentity : ∀ entry ∈ entries, ∀ record, repliedWith key entry = some record →
        record.identity = (rowToRecord orderId row).identity)

/-! ### One step -/

theorem identity_of_sameOrder {later : OrderRow} (orderId : String) (same : SameOrder current later) :
    (rowToRecord orderId later).identity = (rowToRecord orderId current).identity := by
  unfold OrderRecord.identity rowToRecord
  rw [same.idempotencyKey, same.instrument, same.side, same.quantity, same.createdAt]

section Step

variable {key : String} {entries : List Entry} {db after : Database} {entry : Entry}

theorem KeyHistory.keep (history : KeyHistory key entries db)
    (silent : repliedWith key entry = none) (notCreated : createdWith key entry = false)
    (sameEvents : after.events.countP (isCreationEvent key) =
      db.events.countP (isCreationEvent key))
    (kept : ∀ orderId row, db.orderStates.select orderId = some row →
      ∃ later, after.orderStates.select orderId = some later ∧ SameOrder row later)
    (noNew : ∀ orderId later, after.orderStates.select orderId = some later →
      later.idempotencyKey = key → ∃ orderId row, db.orderStates.select orderId = some row ∧
        row.idempotencyKey = key) :
    KeyHistory key (entries ++ [entry]) after := by
  cases history with
  | unused absent noEvent noCreation noReply =>
      refine .unused ?_ (sameEvents.trans noEvent) ?_ ?_
      · intro orderId later selected sameKey
        obtain ⟨owner, row, stored, own⟩ := noNew orderId later selected sameKey
        exact absent owner row stored own
      · rw [List.countP_append, noCreation, List.countP_singleton, notCreated]
        rfl
      · intro other member
        rcases List.mem_append.mp member with before | last
        · exact noReply other before
        · rw [List.mem_singleton.mp last]
          exact silent
  | used orderId row stored ownKey oneEvent oneCreation sameIdentity =>
      obtain ⟨later, selected, same⟩ := kept orderId row stored
      refine .used orderId later selected (same.idempotencyKey.trans ownKey)
        (sameEvents.trans oneEvent) ?_ ?_
      · rw [List.countP_append, oneCreation, List.countP_singleton, notCreated]
        rfl
      · intro other member record replied
        rw [identity_of_sameOrder orderId same]
        rcases List.mem_append.mp member with before | last
        · exact sameIdentity other before record replied
        · rw [List.mem_singleton.mp last, silent] at replied
          cases replied

theorem KeyHistory.reply (history : KeyHistory key entries db) (synchronized : Synchronized db)
    (selected : db.orderStates.select orderId = some row) (ownKey : row.idempotencyKey = key)
    (notCreated : createdWith key entry = false)
    (replied : repliedWith key entry = some (rowToRecord orderId row)) :
    KeyHistory key (entries ++ [entry]) db := by
  cases history with
  | unused absent _noEvent _noCreation _noReply => exact absurd ownKey (absent _ _ selected)
  | used owner stored found storedKey oneEvent oneCreation sameIdentity =>
      cases synchronized.keys _ _ _ _ selected found (ownKey.trans storedKey.symm)
      cases selected.symm.trans found
      refine .used orderId row selected ownKey oneEvent ?_ ?_
      · rw [List.countP_append, oneCreation, List.countP_singleton, notCreated]
        rfl
      · intro other member record answered
        rcases List.mem_append.mp member with before | last
        · exact sameIdentity other before record answered
        · rw [List.mem_singleton.mp last, replied] at answered
          cases answered
          rfl

theorem KeyHistory.create (history : KeyHistory key entries db)
    (freshKey : ∀ other stored, db.orderStates.select other = some stored →
      stored.idempotencyKey ≠ key) (ownKey : row.idempotencyKey = key)
    (created : createdWith key entry = true)
    (replied : repliedWith key entry = some (rowToRecord orderId row)) :
    KeyHistory key (entries ++ [entry]) (db.write orderId row (creationEvent orderId row)) := by
  cases history with
  | used owner stored found storedKey _oneEvent _oneCreation _sameIdentity =>
      exact absurd storedKey (freshKey owner stored found)
  | unused _absent noEvent noCreation noReply =>
      refine .used orderId row (Table.select_put_self _ _ _) ownKey ?_ ?_ ?_
      · change (db.events ++ [_]).countP _ = 1
        rw [List.countP_append, noEvent, List.countP_singleton]
        simp [isCreationEvent, creationEvent, ownKey]
      · rw [List.countP_append, noCreation, List.countP_singleton, created]
        rfl
      · intro other member record answered
        rcases List.mem_append.mp member with before | last
        · rw [noReply other before] at answered
          cases answered
        · rw [List.mem_singleton.mp last, replied] at answered
          cases answered
          rfl

theorem KeyHistory.rewrite (history : KeyHistory key entries db) {written : OrderRow}
    {state : OrderState} (silent : repliedWith key entry = none)
    (notCreated : createdWith key entry = false)
    (selected : db.orderStates.select orderId = some current) (same : SameOrder current written)
    (from_state : event.fromState = some state) :
    KeyHistory key (entries ++ [entry]) (db.write orderId written event) := by
  refine history.keep silent notCreated ?_ ?_ ?_
  · change (db.events ++ [event]).countP _ = _
    rw [List.countP_append, List.countP_singleton]
    simp [isCreationEvent, from_state]
  · intro other row stored
    change ∃ later, (db.orderStates.put orderId written).select other = some later ∧ _
    rw [Table.select_put]
    split
    · rename_i here
      rw [here] at stored
      cases stored.symm.trans selected
      exact ⟨written, rfl, same⟩
    · exact ⟨row, stored, .refl row⟩
  · intro other later found ownKey
    change (db.orderStates.put orderId written).select other = _ at found
    rw [Table.select_put] at found
    split at found
    · cases found
      exact ⟨orderId, current, selected, same.idempotencyKey.symm.trans ownKey⟩
    · exact ⟨other, later, found, ownKey⟩

theorem step_keyHistory (history : KeyHistory key entries db) (synchronized : Synchronized db)
    (stepped : Step db entry after) : KeyHistory key (entries ++ [entry]) after := by
  have idle : ∀ {entry : Entry}, repliedWith key entry = none → createdWith key entry = false →
      KeyHistory key (entries ++ [entry]) db := by
    intro entry silent notCreated
    exact history.keep silent notCreated rfl (fun _ row stored => ⟨row, stored, .refl row⟩)
      fun orderId row stored own => ⟨orderId, row, stored, own⟩
  rcases step_cases stepped with ⟨reply, returned, effect⟩ | ⟨raised, failed, rfl⟩
  · obtain ⟨⟨context, operation⟩, outcome⟩ := entry
    cases returned
    cases effect with
    | @found request orderId row selected sameKey _noConflict =>
        by_cases own : strip request.idempotencyKey = key
        · refine history.reply synchronized selected (sameKey.trans own) rfl ?_
          exact if_pos own
        · exact idle (if_neg own) rfl
    | @created request row made _freshId freshKey =>
        obtain ⟨sameKey, _⟩ := createRow made
        by_cases own : strip request.idempotencyKey = key
        · refine history.create ?_ (sameKey.trans own) (decide_eq_true own) (if_pos own)
          intro other stored selected
          rw [← own, ← sameKey]
          exact freshKey other stored selected
        · have rowKey : row.idempotencyKey ≠ key := fun same => own (sameKey.symm.trans same)
          refine history.keep (if_neg own) (decide_eq_false own) ?_ ?_ ?_
          · change (db.events ++ [_]).countP _ = _
            rw [List.countP_append, List.countP_singleton]
            simp [isCreationEvent, creationEvent, rowKey]
          · intro other stored selected
            refine ⟨stored, ?_, .refl stored⟩
            refine (Table.select_put_of_ne _ _ ?_).trans selected
            rintro rfl
            rw [selected] at _freshId
            cases _freshId
          · intro other later found ownKey
            change (db.orderStates.put _ row).select other = _ at found
            rw [Table.select_put] at found
            split at found
            · cases found
              exact absurd ownKey rowKey
            · exact ⟨other, later, found, ownKey⟩
    | @moved request next current written _asked selected _allowed made =>
        exact history.rewrite rfl rfl selected (transitionRow made).1 rfl
    | unchanged _selected _same => exact idle rfl rfl
    | @filled request current written selected _different made =>
        exact history.rewrite rfl rfl selected (fillRow made).1 rfl
  · obtain ⟨⟨context, operation⟩, outcome⟩ := entry
    cases failed
    refine idle ?_ ?_
    · unfold repliedWith
      split
      · rename_i raisedEntry
        cases raisedEntry
      · rfl
    · unfold createdWith
      split
      · rename_i raisedEntry
        cases raisedEntry
      · rfl

end Step

/-! ### Whole runs -/

theorem run_keyHistory {entries : List Entry} {db : Database} (key : String)
    (run : Run Step Database.empty entries db) : KeyHistory key entries db := by
  have both := run.history_invariant
    (motive := fun entries db => Synchronized db ∧ KeyHistory key entries db) ?_ ?_
  · exact both.2
  · refine ⟨empty_synchronized, .unused ?_ rfl rfl ?_⟩
    · intro orderId row selected
      cases selected
    · intro entry member
      cases member
  · intro entries before entry after held stepped
    exact ⟨step_synchronized held.1 stepped, step_keyHistory held.2 held.1 stepped⟩

theorem conflict_raises {before after : Database} {context : CallContext} {request : CreateRequest}
    {outcome : Outcome} (stepped : Step before (⟨context, .create request⟩, outcome) after)
    (stored : before.orderStates.select (strip request.orderId) = some row)
    (otherKey : row.idempotencyKey ≠ strip request.idempotencyKey) :
    (∃ raised, outcome = .error raised) ∧ after = before := by
  rcases step_cases stepped with ⟨reply, _returned, effect⟩ | ⟨raised, failed, same⟩
  · cases effect with
    | found _selected _sameKey noConflict => exact absurd (noConflict row stored) otherKey
    | created _made freshId _freshKey =>
        rw [stored] at freshId
        cases freshId
  · exact ⟨⟨raised, failed⟩, same⟩

/-- For each key that some creation succeeded with, exactly one call created the order,
one creation event is stored, and all replies are about the same order. A creation whose
order id another key has taken raises and changes nothing. -/
theorem create_idempotent {entries : List Entry} {db : Database}
    (run : Run Step Database.empty entries db) :
    (∀ key, (∃ entry ∈ entries, ∃ record, repliedWith key entry = some record) →
      entries.countP (createdWith key) = 1 ∧ db.events.countP (isCreationEvent key) = 1) ∧
    (∀ key, (∀ entry ∈ entries, repliedWith key entry = none) →
      entries.countP (createdWith key) = 0 ∧ db.events.countP (isCreationEvent key) = 0) ∧
    (∀ key first second firstRecord secondRecord, first ∈ entries → second ∈ entries →
      repliedWith key first = some firstRecord → repliedWith key second = some secondRecord →
      firstRecord.identity = secondRecord.identity) ∧
    ∀ earlier context request outcome later before after row,
      entries = earlier ++ (⟨context, .create request⟩, outcome) :: later →
      Run Step Database.empty earlier before →
      Step before (⟨context, .create request⟩, outcome) after →
      before.orderStates.select (strip request.orderId) = some row →
      row.idempotencyKey ≠ strip request.idempotencyKey →
      (∃ raised, outcome = .error raised) ∧ after = before := by
  refine ⟨?_, ?_, ?_, ?_⟩
  · rintro key ⟨entry, member, record, replied⟩
    cases run_keyHistory key run with
    | unused _absent _noEvent _noCreation noReply =>
        rw [noReply entry member] at replied
        cases replied
    | used _owner _row _stored _ownKey oneEvent oneCreation _sameIdentity =>
        exact ⟨oneCreation, oneEvent⟩
  · intro key silent
    cases run_keyHistory key run with
    | unused _absent noEvent noCreation _noReply => exact ⟨noCreation, noEvent⟩
    | used _owner _row _stored _ownKey _oneEvent oneCreation _sameIdentity =>
        have positive : 0 < entries.countP (createdWith key) := by
          rw [oneCreation]
          exact Nat.one_pos
        obtain ⟨entry, member, created⟩ := List.countP_pos_iff.mp positive
        have quiet := silent entry member
        unfold createdWith at created
        split at created
        · rename_i context request record
          have replied : repliedWith key (⟨context, .create request⟩, .ok (record, true)) =
              some record := if_pos (of_decide_eq_true created)
          cases replied.symm.trans quiet
        · cases created
  · intro key first second firstRecord secondRecord firstMember secondMember replied answered
    cases run_keyHistory key run with
    | unused _absent _noEvent _noCreation noReply =>
        rw [noReply first firstMember] at replied
        cases replied
    | used _owner _row _stored _ownKey _oneEvent _oneCreation sameIdentity =>
        rw [sameIdentity first firstMember firstRecord replied,
          sameIdentity second secondMember secondRecord answered]
  · intro earlier context request outcome later before after row _cut _initial stepped stored other
    exact conflict_raises stepped stored other

private def createAt (epoch : ℚ) (orderId key : String) : Call :=
  ⟨⟨.finite epoch, none⟩, .create { orderId := orderId, idempotencyKey := key }⟩

private def rivalCreations : List Call :=
  [createAt 1 "o1" "k1", createAt 2 "o2" "k1", createAt 3 "o1" "k2", createAt 4 "o1" "k1"]

/-- The only call with the second key names an order id that the first key has taken: no
call creates for that key. -/
theorem create_conflict_creates_none :
    ∃ entries db, Run Step Database.empty entries db ∧ entries.map Prod.fst = rivalCreations ∧
      entries.countP (createdWith "k2") = 0 ∧ db.events.countP (isCreationEvent "k2") = 0 := by
  have traced : (trace (fun db call => some (perform db call)) Database.empty rivalCreations).map
      (fun result =>
        (result.1.countP (createdWith "k2"), result.2.events.countP (isCreationEvent "k2"))) =
      some (0, 0) := by
    decide
  obtain ⟨⟨entries, db⟩, ran, counted⟩ := Option.map_eq_some_iff.mp traced
  exact ⟨entries, db, run_of_trace ran, trace_moves ran, congrArg Prod.fst counted,
    congrArg Prod.snd counted⟩

/-- Of four creations one creates, one finds its order under another order id, one is
refused and one finds it again. -/
theorem create_idempotent_rivals :
    ∃ entries db, Run Step Database.empty entries db ∧
      entries.countP (createdWith "k1") = 1 ∧ db.events.countP (isCreationEvent "k1") = 1 := by
  have traced : (trace (fun db call => some (perform db call)) Database.empty rivalCreations).map
      (fun result => result.1.any fun entry => (repliedWith "k1" entry).isSome) = some true := by
    decide
  obtain ⟨⟨entries, db⟩, ran, answered⟩ := Option.map_eq_some_iff.mp traced
  have run := run_of_trace ran
  obtain ⟨entry, member, replied⟩ := List.any_eq_true.mp answered
  obtain ⟨record, replied⟩ := Option.isSome_iff_exists.mp replied
  exact ⟨entries, db, run, (create_idempotent run).1 "k1" ⟨entry, member, record, replied⟩⟩

end Algotradify.Orders
