/-
Clients of one approval store, interleaved statement by statement.

A call runs as one transaction, except for a creation: it reads the status of its
hash in one step and inserts its row in a later one. Whether the row was used is
asked only in the first of the two.
-/

import Mathlib.Logic.Function.Basic
import Algotradify.Core.ApprovalEffects
import Algotradify.Transition.Run

namespace Algotradify.Core.ApprovalStore

open Py Sql Transition

variable {context : CallContext} {store : Store} {hash : String}

/-! ### Steps -/

structure PendingInsert where
  orderIntentHash : String
  values : ApprovalValues

structure Interleaving (Client : Type) where
  store : Store
  pending : Client → Option PendingInsert

inductive Move (Client : Type) where
  | transact (client : Client) (call : Call)
  | readStatus (client : Client) (context : CallContext) (request : ApprovalRequest)
  | insert (client : Client) (context : CallContext)

section Steps

variable {Client : Type} [DecidableEq Client]

/-- The first step of a creation ends the call unless it leads to an insert. -/
def readStatus (env : Environment) (state : Interleaving Client) (client : Client)
    (context : CallContext) (request : ApprovalRequest) : Option Outcome × Interleaving Client :=
  match approvalValues env context.clock request with
  | .error raised => (some (.error raised), state)
  | .ok (.error reason) => (some (.ok ⟨false, reason⟩), state)
  | .ok (.ok values) =>
      if isUsed state.store request.orderIntentHash then
        (some (.ok ⟨false, "approval_already_used"⟩), state)
      else
        (none,
          { state with
            pending := Function.update state.pending client
              (some ⟨request.orderIntentHash, values⟩) })

def insertPending (state : Interleaving Client) (client : Client) (context : CallContext)
    (pending : PendingInsert) : Option Outcome × Interleaving Client :=
  match once context (insertApproval pending.orderIntentHash pending.values) state.store with
  | .ok (reply, after) => (some (.ok reply), ⟨after, Function.update state.pending client none⟩)
  | .error raised =>
      (some (.error raised), ⟨state.store, Function.update state.pending client none⟩)

/-- A step answers with the outcome of the call it ends. A client with an insert to
make does that next, and a creation is no single transaction. -/
def interleave (env : Environment) (state : Interleaving Client) :
    Move Client → Option (Option Outcome × Interleaving Client)
  | .transact client call =>
      match state.pending client, call.operation with
      | some _, _ => none
      | none, .createOrderApproval _ => none
      | none, _ =>
          let (outcome, after) := perform env state.store call
          some (some outcome, { state with store := after })
  | .readStatus client context request =>
      match state.pending client with
      | some _ => none
      | none => some (readStatus env state client context request)
  | .insert client context =>
      match state.pending client with
      | some pending => some (insertPending state client context pending)
      | none => none

end Steps

abbrev InterleavedEntry (Client : Type) := Move Client × Option Outcome

def Interleaved {Client : Type} [DecidableEq Client] (env : Environment) :
    Interleaving Client → InterleavedEntry Client → Interleaving Client → Prop :=
  Observed (interleave env)

/-! ### Single use -/

def consumes {Client : Type} (hash : String) (entry : InterleavedEntry Client) : Bool :=
  match entry with
  | (.transact _ ⟨_, .consumeValidApproval request⟩, some (.ok ⟨true, _⟩)) =>
      request.orderIntentHash = hash
  | (.transact _ ⟨_, .approveAndConsumeOrderIntent request⟩, some (.ok ⟨true, _⟩)) =>
      request.orderIntentHash = hash
  | _ => false

/-- Each approval is consumed at most once, and a used row stays used. -/
structure SingleUse {Client : Type} [DecidableEq Client] (env : Environment)
    (start : Interleaving Client) (entries : List (InterleavedEntry Client)) : Prop where
  once : ∀ hash, entries.countP (consumes hash) ≤ 1
  staysUsed : ∀ earlier middle later before after hash, entries = earlier ++ middle ++ later →
    Run (Interleaved env) start earlier before → Run (Interleaved env) before middle after →
    isUsed before.store hash = true → isUsed after.store hash = true

/-- The move inserts a row that is not used over one that is. -/
def Revives {Client : Type} (state : Interleaving Client) (move : Move Client) : Prop :=
  ∃ client context pending row, move = .insert client context ∧ context.attempts 0 = .runs ∧
    state.pending client = some pending ∧ pending.values.row = .ok row ∧ row.status ≠ .used ∧
    isUsed state.store pending.orderIntentHash = true

def NeverRevives {Client : Type} [DecidableEq Client] (env : Environment)
    (start : Interleaving Client) (entries : List (InterleavedEntry Client)) : Prop :=
  ∀ earlier entry later before, entries = earlier ++ entry :: later →
    Run (Interleaved env) start earlier before → ¬ Revives before entry.1

/-! ### What a step does to used rows -/

theorem isUsed_put (store : Store) (key hash : String) (row : OrderApproval) :
    isUsed (store.put key row) hash =
      if hash = key then decide (row.status = .used) else isUsed store hash := by
  unfold isUsed
  rw [Table.select_put]
  by_cases same : hash = key
  · rw [if_pos same, if_pos same]
  · rw [if_neg same, if_neg same]

theorem isUsed_put_self (store : Store) (key : String) (row : OrderApproval) :
    isUsed (store.put key row) key = decide (row.status = .used) := by
  rw [isUsed_put, if_pos rfl]

theorem effect_put {env : Environment} {operation : Operation} {reply : Reply} {after : Store}
    (effect : Effect env context store operation reply after) :
    after = store ∨
      ∃ row, after = store.put operation.hash row ∧ isUsed store operation.hash = false := by
  have open_row : ∀ {hash row}, store.select hash = some row → row.status ≠ .used →
      isUsed store hash = false := by
    intro hash row found notUsed
    rw [isUsed_of_select found, decide_eq_false notUsed]
  cases effect with
  | declined _none => exact .inl rfl
  | created _computed _bound notUsed => exact .inr ⟨_, rfl, notUsed⟩
  | approved found undecided =>
      refine .inr ⟨_, rfl, open_row found ?_⟩
      rcases undecided with pending | approved
      · rw [pending]
        decide
      · rw [approved]
        decide
  | rejected found notUsed => exact .inr ⟨_, rfl, open_row found notUsed⟩
  | expired _now found undecided =>
      refine .inr ⟨_, rfl, open_row found ?_⟩
      rcases undecided with pending | approved
      · rw [pending]
        decide
      · rw [approved]
        decide
  | armed _limit _given found approved _limited =>
      refine .inr ⟨_, rfl, open_row found ?_⟩
      rw [approved]
      decide
  | disarmed found approved =>
      refine .inr ⟨_, rfl, open_row found ?_⟩
      rw [approved]
      decide
  | consumed found approved _inTime _armed =>
      refine .inr ⟨_, rfl, open_row found ?_⟩
      rw [approved]
      decide
  | approvedAndConsumed _given notUsed _used _expires _disarmed => exact .inr ⟨_, rfl, notUsed⟩

theorem perform_staysUsed {env : Environment} {call : Call} (used : isUsed store hash = true) :
    isUsed (perform env store call).2 hash = true := by
  unfold perform
  split
  · rename_i reply after ran
    rcases effect_put (run_effect ran) with rfl | ⟨row, rfl, notUsed⟩
    · exact used
    · rw [isUsed_put, if_neg]
      · exact used
      · rintro rfl
        rw [used] at notUsed
        cases notUsed
  · exact used

section Inversion

variable {Client : Type} [DecidableEq Client] {env : Environment}
variable {before after : Interleaving Client} {client : Client} {answer : Option Outcome}

theorem interleave_transact {call : Call}
    (stepped : interleave env before (.transact client call) = some (answer, after)) :
    answer = some (perform env before.store call).1 ∧
      after = { before with store := (perform env before.store call).2 } := by
  simp only [interleave] at stepped
  split at stepped
  · cases stepped
  · cases stepped
  · cases stepped
    exact ⟨rfl, rfl⟩

theorem interleave_readStatus {request : ApprovalRequest}
    (stepped : interleave env before (.readStatus client context request) = some (answer, after)) :
    after.store = before.store := by
  simp only [interleave] at stepped
  split at stepped
  · cases stepped
  have read := Option.some.inj stepped
  unfold readStatus at read
  split at read
  · cases read
    rfl
  · cases read
    rfl
  · split at read
    · cases read
      rfl
    · cases read
      rfl

theorem interleave_insert
    (stepped : interleave env before (.insert client context) = some (answer, after)) :
    after.store = before.store ∨
      ∃ pending row, before.pending client = some pending ∧ context.attempts 0 = .runs ∧
        pending.values.row = .ok row ∧
        after.store = before.store.put pending.orderIntentHash row := by
  simp only [interleave] at stepped
  split at stepped
  · rename_i pending waiting
    have inserted := Option.some.inj stepped
    unfold insertPending at inserted
    split at inserted
    · rename_i reply left ran
      cases inserted
      obtain ⟨row, bound, _, rfl⟩ := insertApproval_eq_ok (once_eq_ok ran)
      exact .inr ⟨pending, row, waiting, once_runs ran, bound, rfl⟩
    · cases inserted
      exact .inl rfl
  · cases stepped

theorem interleaved_staysUsed {entry : InterleavedEntry Client}
    (stepped : Interleaved env before entry after) (harmless : ¬ Revives before entry.1)
    (used : isUsed before.store hash = true) : isUsed after.store hash = true := by
  obtain ⟨move, answer⟩ := entry
  cases move with
  | transact client call =>
      obtain ⟨_, rfl⟩ := interleave_transact stepped
      exact perform_staysUsed used
  | readStatus client context request =>
      rw [interleave_readStatus stepped]
      exact used
  | insert client context =>
      rcases interleave_insert stepped with same | ⟨pending, row, waiting, runs, bound, put⟩
      · rw [same]
        exact used
      · rw [put, isUsed_put]
        split
        · rename_i same
          rw [decide_eq_true_eq]
          by_contra notUsed
          exact harmless ⟨client, context, pending, row, rfl, runs, waiting, bound, notUsed,
            same ▸ used⟩
        · exact used

theorem consumed_effect {operation : Operation} {reason : String} {left : Store}
    (consumption : operation.decided = some .used)
    (single : ∀ request, operation ≠ .createOrderApproval request)
    (effect : Effect env context store operation ⟨true, reason⟩ left) :
    isUsed store operation.hash = false ∧ isUsed left operation.hash = true := by
  cases effect with
  | declined none => cases none.notAccepted
  | created _computed _bound _notUsed => exact absurd rfl (single _)
  | approved _found _undecided => cases consumption
  | rejected _found _notUsed => cases consumption
  | armed _limit _given _found _approved _limited => cases consumption
  | @consumed request row found approved _inTime _armed =>
      have notUsed : isUsed store request.orderIntentHash = false := by
        rw [isUsed_of_select found, approved]
        decide
      exact ⟨notUsed, isUsed_put_self _ _ _⟩
  | @approvedAndConsumed request row _ _given notUsed used _expires _disarmed =>
      have left := isUsed_put_self store request.orderIntentHash row
      rw [used] at left
      exact ⟨notUsed, left⟩

omit [DecidableEq Client] in
theorem consumes_transact {entry : InterleavedEntry Client}
    (consumption : consumes hash entry = true) :
    ∃ client call reason, entry = (.transact client call, some (.ok ⟨true, reason⟩)) ∧
      call.operation.hash = hash ∧ call.operation.decided = some .used ∧
      ∀ request, call.operation ≠ .createOrderApproval request := by
  unfold consumes at consumption
  split at consumption
  · rename_i client context request reason
    exact ⟨client, _, reason, rfl, of_decide_eq_true consumption, rfl, fun _ same => by cases same⟩
  · rename_i client context request reason
    exact ⟨client, _, reason, rfl, of_decide_eq_true consumption, rfl, fun _ same => by cases same⟩
  · cases consumption

theorem interleaved_consumes {entry : InterleavedEntry Client}
    (stepped : Interleaved env before entry after) (consumption : consumes hash entry = true) :
    isUsed before.store hash = false ∧ isUsed after.store hash = true := by
  obtain ⟨client, call, reason, rfl, rfl, decided, single⟩ := consumes_transact consumption
  obtain ⟨answered, rfl⟩ := interleave_transact stepped
  have outcome := Option.some.inj answered
  unfold perform at outcome ⊢
  split at outcome
  · rename_i reply left ran
    cases outcome
    exact consumed_effect decided single (run_effect ran)
  · cases outcome

end Inversion

/-! ### Whole runs -/

section Runs

variable {Client : Type} [DecidableEq Client] {env : Environment}
variable {start finish : Interleaving Client} {entries : List (InterleavedEntry Client)}

def Harmless (env : Environment) (before : Interleaving Client) (entry : InterleavedEntry Client)
    (after : Interleaving Client) : Prop :=
  Interleaved env before entry after ∧ ¬ Revives before entry.1

theorem harmless_staysUsed (run : Run (Harmless env) start entries finish)
    (used : isUsed start.store hash = true) : isUsed finish.store hash = true := by
  refine run.invariant (motive := fun state => isUsed state.store hash = true) used ?_
  intro before entry after used stepped
  exact interleaved_staysUsed stepped.1 stepped.2 used

theorem harmless_once (run : Run (Harmless env) start entries finish) (hash : String) :
    entries.countP (consumes hash) ≤ if isUsed finish.store hash = true then 1 else 0 := by
  refine run.history_invariant (motive := fun entries state =>
    entries.countP (consumes hash) ≤ if isUsed state.store hash = true then 1 else 0) ?_ ?_
  · exact Nat.zero_le _
  · intro entries before entry after counted stepped
    rw [List.countP_append, List.countP_singleton]
    by_cases consumption : consumes hash entry = true
    · obtain ⟨notUsed, used⟩ := interleaved_consumes stepped.1 consumption
      rw [notUsed] at counted
      rw [if_pos consumption, if_pos used]
      simpa using counted
    · rw [if_neg consumption, Nat.add_zero]
      refine counted.trans ?_
      by_cases used : isUsed before.store hash = true
      · rw [if_pos used, if_pos (interleaved_staysUsed stepped.1 stepped.2 used)]
      · rw [if_neg used]
        exact Nat.zero_le _

theorem revived_notUsed {before after : Interleaving Client} {entry : InterleavedEntry Client}
    (stepped : Interleaved env before entry after) (revives : Revives before entry.1) :
    ∃ hash, isUsed before.store hash = true ∧ isUsed after.store hash = false := by
  obtain ⟨client, context, pending, row, move, runs, waiting, bound, notUsed, used⟩ := revives
  obtain ⟨_, answer⟩ := entry
  cases move
  refine ⟨pending.orderIntentHash, used, ?_⟩
  have inserted : insertPending before client context pending = (answer, after) := by
    have stepped : interleave env before (.insert client context) = some (answer, after) := stepped
    simp only [interleave, waiting] at stepped
    exact Option.some.inj stepped
  unfold insertPending once insertApproval at inserted
  simp only [runs, bound] at inserted
  cases inserted
  change isUsed (before.store.upsert _ row _) _ = false
  rw [Table.upsert_const, isUsed_put_self, decide_eq_false notUsed]

/-- Approvals are used once exactly when no insert of a creation runs over a row that
has been used since its status was read. -/
theorem single_use_iff (run : Run (Interleaved env) start entries finish) :
    SingleUse env start entries ↔ NeverRevives env start entries := by
  constructor
  · intro single earlier entry later before cut initial revives
    obtain ⟨middle, sameInitial, rest⟩ := run.split cut
    cases run_unique initial sameInitial
    obtain ⟨after, stepped, _later⟩ := rest.cons_inv
    obtain ⟨hash, used, notUsed⟩ := revived_notUsed stepped revives
    have cutSingle : entries = earlier ++ [entry] ++ later := by
      rw [cut, List.append_assoc, List.singleton_append]
    have still := single.staysUsed earlier [entry] later before after hash cutSingle initial
      (.cons stepped .nil) used
    rw [notUsed] at still
    cases still
  · intro harmless
    constructor
    · intro hash
      refine (harmless_once (run.restrict harmless) hash).trans ?_
      split
      · exact le_refl 1
      · exact Nat.zero_le 1
    · intro earlier middle later before after hash cut initial middleRun used
      refine harmless_staysUsed (middleRun.restrict ?_) used
      intro first entry second state middleCut toState
      refine harmless (earlier ++ first) entry (second ++ later) state ?_ (initial.append toState)
      rw [cut, middleCut]
      simp only [List.append_assoc, List.cons_append]

end Runs

private def deskEnvironment : Environment :=
  { orderApprovalTtlSec := none
    approvalTtlSec := some (.int 600)
    orderArmTtlSec := none
    orderArmTtlVariable := none
    utcIso := fun epoch =>
      if epoch = 0 then .ok "1970-01-01T00:00:00Z"
      else if epoch = 600 then .ok "1970-01-01T00:10:00Z"
      else .error (.valueError "no calendar date") }

private def deskContext : CallContext :=
  ⟨.finite 0, fun _ => .runs⟩

private def emptyDesk : Interleaving Nat :=
  ⟨[], fun _ => none⟩

private def directMoves : List (Move Nat) :=
  [.transact 0 ⟨deskContext, .approveAndConsumeOrderIntent
      { orderIntentHash := "h1", approverId := some "desk" }⟩,
    .transact 1 ⟨deskContext, .approveAndConsumeOrderIntent
      { orderIntentHash := "h1", approverId := some "desk" }⟩]

/-- Two clients approve and consume the same hash; the second finds it used. -/
theorem single_use_direct :
    SingleUse deskEnvironment emptyDesk
      (directMoves.zip [some (.ok ⟨true, "approved_and_used"⟩),
        some (.ok ⟨false, "approval_used"⟩)]) := by
  have answered : (trace (interleave deskEnvironment) emptyDesk directMoves).map
      (fun result => result.1.map Prod.snd) =
      some [some (.ok ⟨true, "approved_and_used"⟩), some (.ok ⟨false, "approval_used"⟩)] := by
    decide +kernel
  obtain ⟨finish, run⟩ := run_of_answers answered
  refine (single_use_iff run).mpr ?_
  intro earlier entry later before cut _initial revives
  obtain ⟨client, context, _, _, move, _⟩ := revives
  have here : entry ∈ earlier ++ entry :: later := List.mem_append_right _ List.mem_cons_self
  rw [← cut] at here
  have member := (List.of_mem_zip (a := entry.1) (b := entry.2) here).1
  rw [move] at member
  simp [directMoves] at member

private def approvingRequest : ApprovalRequest :=
  approveOrderIntent "h1" (some "desk") "cli" none none

private def revivingMoves : List (Move Nat) :=
  [.readStatus 0 deskContext approvingRequest, .insert 0 deskContext,
    .readStatus 0 deskContext approvingRequest,
    .transact 1 ⟨deskContext, .consumeValidApproval { orderIntentHash := "h1" }⟩,
    .insert 0 deskContext,
    .transact 1 ⟨deskContext, .consumeValidApproval { orderIntentHash := "h1" }⟩]

private def revivingAnswers : List (Option Outcome) :=
  [none, some (.ok ⟨true, "approved"⟩), none, some (.ok ⟨true, "approved_and_used"⟩),
    some (.ok ⟨true, "approved"⟩), some (.ok ⟨true, "approved_and_used"⟩)]

/-- A second approval reads the status before the consumption and inserts after it;
the hash is then consumed twice. -/
theorem approval_consumed_twice :
    (∃ finish, Run (Interleaved deskEnvironment) emptyDesk
      (revivingMoves.zip revivingAnswers) finish) ∧
    (revivingMoves.zip revivingAnswers).countP (consumes "h1") = 2 ∧
    ¬ SingleUse deskEnvironment emptyDesk (revivingMoves.zip revivingAnswers) := by
  have answered : (trace (interleave deskEnvironment) emptyDesk revivingMoves).map
      (fun result => result.1.map Prod.snd) = some revivingAnswers := by
    decide +kernel
  have twice : (revivingMoves.zip revivingAnswers).countP (consumes "h1") = 2 := by
    decide +kernel
  refine ⟨run_of_answers answered, twice, ?_⟩
  intro single
  have once := single.once "h1"
  rw [twice] at once
  exact absurd once (by decide)

end Algotradify.Core.ApprovalStore
