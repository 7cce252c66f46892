/-
What each call on the approval store can do: one case for every way a call ends.

A call that is declined leaves the store as it was. Every other call puts one row,
for its own hash, and its reply says which change that was.
-/

import Algotradify.Core.ApprovalStore

namespace Algotradify.Core.ApprovalStore

open Py Sql

variable {env : Environment} {text reason : String} {context : CallContext}
variable {transaction : Transaction} {store after : Store} {operation : Operation} {reply : Reply}
variable {row : OrderApproval} {now : PyFloat} {request : ConsumeRequest}

/-! ### Calls as data -/

inductive Operation where
  | createOrderApproval (request : ApprovalRequest)
  | approveIntent (intentHash : String) (approverId : Option String)
  | rejectIntent (intentHash : String) (approverId reason : Option String)
  | armOrderIntent (request : ArmRequest)
  | consumeValidApproval (request : ConsumeRequest)
  | approveAndConsumeOrderIntent (request : ApproveAndConsumeRequest)

namespace Operation

def hash : Operation → String
  | .createOrderApproval request => request.orderIntentHash
  | .approveIntent intentHash _ => intentHash
  | .rejectIntent intentHash _ _ => intentHash
  | .armOrderIntent request => request.orderIntentHash
  | .consumeValidApproval request => request.orderIntentHash
  | .approveAndConsumeOrderIntent request => request.orderIntentHash

def run (env : Environment) (context : CallContext) : Operation → Transaction
  | .createOrderApproval request => ApprovalStore.createOrderApproval env context request
  | .approveIntent intentHash approverId =>
      ApprovalStore.approveIntent env context intentHash approverId
  | .rejectIntent intentHash approverId reason =>
      ApprovalStore.rejectIntent env context intentHash approverId reason
  | .armOrderIntent request => ApprovalStore.armOrderIntent env context request
  | .consumeValidApproval request => ApprovalStore.consumeValidApproval env context request
  | .approveAndConsumeOrderIntent request =>
      ApprovalStore.approveAndConsumeOrderIntent env context request

def decided : Operation → Option OrderApprovalStatus
  | .createOrderApproval request => (OrderApprovalStatus.normalize request.status).toOption
  | .approveIntent _ _ => some .approved
  | .rejectIntent _ _ _ => some .rejected
  | .armOrderIntent _ => none
  | .consumeValidApproval _ => some .used
  | .approveAndConsumeOrderIntent _ => some .used

end Operation

structure Call where
  context : CallContext
  operation : Operation

def perform (env : Environment) (store : Store) (call : Call) : Outcome × Store :=
  match call.operation.run env call.context store with
  | .ok (reply, after) => (.ok reply, after)
  | .error raised => (.error raised, store)

/-! ### The ways a call ends -/

/-- A reply that reports no change; an approval it calls expired is recorded as such. -/
structure Declined (store : Store) (hash : String) (reply : Reply) : Prop where
  notAccepted : reply.accepted = false
  noRace : reply.reason ≠ "approval_race_lost"
  expired : reply.reason = "approval_expired" →
    ∃ row, store.select hash = some row ∧ row.status = .expired

inductive Effect (env : Environment) (context : CallContext) (store : Store) :
    Operation → Reply → Store → Prop where
  | declined {operation : Operation} {reply : Reply}
      (none : Declined store operation.hash reply) :
      Effect env context store operation reply store
  | created {request : ApprovalRequest} {values : ApprovalValues} {row : OrderApproval}
      (computed : approvalValues env context.clock request = .ok (.ok values))
      (bound : values.row = .ok row)
      (notUsed : isUsed store request.orderIntentHash = false) :
      Effect env context store (.createOrderApproval request)
        ⟨true, lower values.status.value⟩ (store.put request.orderIntentHash row)
  | approved {intentHash : String} {approverId : Option String} {row : OrderApproval}
      (found : store.select intentHash = some row)
      (undecided : row.status = .pending ∨ row.status = .approved) :
      Effect env context store (.approveIntent intentHash approverId) ⟨true, "approved"⟩
        (store.put intentHash (row.approve context.clock approverId))
  | rejected {intentHash : String} {approverId reason : Option String} {row : OrderApproval}
      (found : store.select intentHash = some row) (notUsed : row.status ≠ .used) :
      Effect env context store (.rejectIntent intentHash approverId reason) ⟨true, "rejected"⟩
        (store.put intentHash (row.reject context.clock approverId reason))
  | expired {operation : Operation} {row : OrderApproval} (now : PyFloat)
      (found : store.select operation.hash = some row)
      (undecided : row.status = .pending ∨ row.status = .approved) :
      Effect env context store operation ⟨false, "approval_expired"⟩
        (store.put operation.hash (row.expire now))
  | armed {request : ArmRequest} {row : OrderApproval} {ttl : Int} (limit : SqlReal)
      (given : env.armTtl request.armTtlSec = .ok ttl)
      (found : store.select request.orderIntentHash = some row)
      (approved : row.status = .approved)
      (limited : limit.value = armedExpiry (request.now context) ttl row.expiresAt.value) :
      Effect env context store (.armOrderIntent request) ⟨true, "approval_armed"⟩
        (store.put request.orderIntentHash
          (row.arm (request.now context) limit.value request.approverId (some request.channel)))
  | disarmed {request : ConsumeRequest} {row : OrderApproval}
      (found : store.select request.orderIntentHash = some row)
      (approved : row.status = .approved) :
      Effect env context store (.consumeValidApproval request) ⟨false, "approval_arm_expired"⟩
        (store.put request.orderIntentHash (row.disarm (request.time context)))
  | consumed {request : ConsumeRequest} {row : OrderApproval}
      (found : store.select request.orderIntentHash = some row)
      (approved : row.status = .approved)
      (inTime : (request.time context).le row.expiresAt.value = true)
      (armed : request.requireArmed = true →
        SqlReal.atLeast row.armedExpiresAt (request.time context) = true) :
      Effect env context store (.consumeValidApproval request) ⟨true, "approved_and_used"⟩
        (store.put request.orderIntentHash (row.use (request.time context) request.approverId))
  | approvedAndConsumed {request : ApproveAndConsumeRequest} {row : OrderApproval} {ttl : Int}
      (given : env.ttl request.ttlSec = .ok ttl)
      (notUsed : isUsed store request.orderIntentHash = false)
      (used : row.status = .used)
      (expires : SqlReal.bind (request.now context + .ofInt ttl) = some row.expiresAt)
      (disarmed : row.armedExpiresAt = Option.none) :
      Effect env context store (.approveAndConsumeOrderIntent request) ⟨true, "approved_and_used"⟩
        (store.put request.orderIntentHash row)

/-! ### Running a transaction -/

theorem isoText_finite {epoch : PyFloat} (formatted : env.isoText epoch = .ok text) :
    ∃ value, epoch = .finite value := by
  cases epoch with
  | finite value => exact ⟨value, rfl⟩
  | nan => cases formatted
  | posInf => cases formatted
  | negInf => cases formatted

theorem once_eq_ok {result : Reply × Store} (ran : once context transaction store = .ok result) :
    transaction store = .ok result := by
  unfold once at ran
  split at ran
  · exact ran
  · cases ran
  · cases ran

theorem once_runs {result : Reply × Store} (ran : once context transaction store = .ok result) :
    context.attempts 0 = .runs := by
  unfold once at ran
  split at ran
  · assumption
  · cases ran
  · cases ran

theorem retry_cases (transaction : Transaction) (store : Store) (attempts : List Attempt) :
    (retry transaction store attempts).2 = store ∧
        ((retry transaction store attempts).1 = ⟨false, "approval_store_locked"⟩ ∨
          ∃ message, (retry transaction store attempts).1 =
            ⟨false, "approval_store_error:" ++ message⟩) ∨
      transaction store = .ok (retry transaction store attempts) := by
  induction attempts with
  | nil => exact .inl ⟨rfl, .inl rfl⟩
  | cons attempt rest ih =>
      cases attempt with
      | locked message => exact ih
      | failed message => exact .inl ⟨rfl, .inr ⟨message, rfl⟩⟩
      | runs =>
          unfold retry
          cases transaction store with
          | ok result => exact .inr rfl
          | error raised => exact .inl ⟨rfl, .inr ⟨raised.text, rfl⟩⟩

theorem declined_of_text {hash : String} (noRace : reason ≠ "approval_race_lost")
    (notExpired : reason ≠ "approval_expired") :
    Declined store hash ⟨false, reason⟩ :=
  ⟨rfl, noRace, fun expired => absurd expired notExpired⟩

theorem withRetries_effect {maxRetries : Int}
    (done : withRetries context maxRetries transaction store = (reply, after))
    (ran : transaction store = .ok (reply, after) →
      Effect env context store operation reply after) :
    Effect env context store operation reply after := by
  have cases := retry_cases transaction store ((List.range maxRetries.toNat).map context.attempts)
  change retry transaction store _ = (reply, after) at done
  rw [done] at cases
  rcases cases with ⟨rfl, rfl | ⟨message, rfl⟩⟩ | committed
  · exact .declined (declined_of_text (by decide) (by decide))
  · refine .declined (declined_of_text ?_ ?_)
    · exact append_ne_of_startsWith _ (by decide)
    · exact append_ne_of_startsWith _ (by decide)
  · exact ran committed

/-! ### What each transaction does -/

theorem isUsed_of_select {hash : String} (found : store.select hash = some row) :
    isUsed store hash = decide (row.status = .used) := by
  unfold isUsed
  rw [found]

private theorem refused_effect (ran : refused reason store = .ok (reply, after))
    (noRace : reason ≠ "approval_race_lost") (notExpired : reason ≠ "approval_expired") :
    Effect env context store operation reply after := by
  cases ran
  exact .declined (declined_of_text noRace notExpired)

private theorem undecided_of_ne {status : OrderApprovalStatus} (notUsed : status ≠ .used)
    (notRejected : status ≠ .rejected) (notExpired : status ≠ .expired) :
    status = .pending ∨ status = .approved := by
  cases status with
  | pending => exact .inl rfl
  | approved => exact .inr rfl
  | rejected => exact absurd rfl notRejected
  | expired => exact absurd rfl notExpired
  | used => exact absurd rfl notUsed

private theorem statusRefusal_effect (found : store.select operation.hash = some row)
    (refusal : statusRefusal row.status = some reason)
    (ran : refused reason store = .ok (reply, after)) :
    Effect env context store operation reply after := by
  cases status : row.status with
  | approved =>
      rw [status] at refusal
      cases refusal
  | expired =>
      rw [status] at refusal
      cases refusal
      cases ran
      exact .declined ⟨rfl, by decide, fun _ => ⟨row, found, status⟩⟩
  | pending =>
      rw [status] at refusal
      cases refusal
      exact refused_effect ran (by decide) (by decide)
  | rejected =>
      rw [status] at refusal
      cases refusal
      exact refused_effect ran (by decide) (by decide)
  | used =>
      rw [status] at refusal
      cases refusal
      exact refused_effect ran (by decide) (by decide)

private theorem approved_of_statusRefusal {status : OrderApprovalStatus}
    (refusal : statusRefusal status = none) : status = .approved := by
  cases status with
  | approved => rfl
  | pending => cases refusal
  | rejected => cases refusal
  | expired => cases refusal
  | used => cases refusal

private theorem expireApproved_effect (operation : Operation)
    (found : store.select operation.hash = some row) (approved : row.status = .approved)
    (ran : expireApproved operation.hash now store = .ok (reply, after)) :
    Effect env context store operation reply after := by
  unfold expireApproved at ran
  rw [Table.update_eq_put _ found (decide_eq_true approved)] at ran
  cases ran
  exact .expired now found (.inr approved)

private theorem updateOne_eq {hash : String} {condition : OrderApproval → Bool}
    (change : OrderApproval → OrderApproval) (reason : String)
    (found : store.select hash = some row) (holds : condition row = true) :
    updateOne store hash condition change reason =
      .ok (⟨true, reason⟩, store.put hash (change row)) := by
  unfold updateOne
  rw [Table.update_eq_put change found holds]
  rfl

private theorem le_expiry {expires : SqlReal} (formatted : env.isoText now = .ok text)
    (inTime : ¬ expires.value.lt now = true) :
    now.le expires.value = true := by
  obtain ⟨value, rfl⟩ := isoText_finite formatted
  exact PyFloat.le_of_not_lt (by simp) expires.isNumber inTime

theorem approveIntent_effect {intentHash : String} {approverId : Option String}
    (ran : approveIntent env context intentHash approverId store = .ok (reply, after)) :
    Effect env context store (.approveIntent intentHash approverId) reply after := by
  unfold approveIntent at ran
  split at ran
  · exact refused_effect ran (by decide) (by decide)
  obtain ⟨_, _formatted, ran⟩ := bind_eq_ok.mp ran
  have ran := once_eq_ok ran
  unfold approveIntentTransaction at ran
  cases found : store.select intentHash with
  | none =>
      rw [found] at ran
      exact refused_effect ran (by decide) (by decide)
  | some row =>
      simp only [found] at ran
      split at ran
      · exact refused_effect ran (by decide) (by decide)
      rename_i notUsed
      split at ran
      · exact refused_effect ran (by decide) (by decide)
      rename_i notRejected
      split at ran
      · rename_i expired
        cases ran
        exact .declined ⟨rfl, by decide, fun _ => ⟨row, found, expired⟩⟩
      rename_i notExpired
      have undecided := undecided_of_ne notUsed notRejected notExpired
      split at ran
      · rw [Table.update_eq_put _ found rfl] at ran
        cases ran
        exact .expired context.clock found undecided
      · rw [Table.update_eq_put _ found (decide_eq_true undecided)] at ran
        cases ran
        exact .approved found undecided

theorem rejectIntent_effect {intentHash : String} {approverId reason : Option String}
    (ran : rejectIntent env context intentHash approverId reason store = .ok (reply, after)) :
    Effect env context store (.rejectIntent intentHash approverId reason) reply after := by
  unfold rejectIntent at ran
  split at ran
  · exact refused_effect ran (by decide) (by decide)
  obtain ⟨_, _formatted, ran⟩ := bind_eq_ok.mp ran
  have ran := once_eq_ok ran
  unfold rejectIntentTransaction at ran
  cases found : store.select intentHash with
  | none =>
      rw [found] at ran
      exact refused_effect ran (by decide) (by decide)
  | some row =>
      simp only [found] at ran
      split at ran
      · exact refused_effect ran (by decide) (by decide)
      · rename_i notUsed
        rw [Table.update_eq_put _ found rfl] at ran
        cases ran
        exact .rejected found notUsed

theorem armTransaction_effect {request : ArmRequest} {ttl : Int}
    (given : env.armTtl request.armTtlSec = .ok ttl)
    (formatted : env.isoText (request.now context) = .ok text)
    (ran : armTransaction env request (request.now context) ttl store = .ok (reply, after)) :
    Effect env context store (.armOrderIntent request) reply after := by
  unfold armTransaction at ran
  cases found : store.select request.orderIntentHash with
  | none =>
      rw [found] at ran
      exact refused_effect ran (by decide) (by decide)
  | some row =>
      simp only [found] at ran
      cases refusal : statusRefusal row.status with
      | some reason =>
          rw [refusal] at ran
          exact statusRefusal_effect found refusal ran
      | none =>
          simp only [refusal] at ran
          have approved := approved_of_statusRefusal refusal
          split at ran
          · exact expireApproved_effect (.armOrderIntent request) found approved ran
          rename_i inTime
          obtain ⟨_, limitFormatted, ran⟩ := bind_eq_ok.mp ran
          obtain ⟨value, limitFinite⟩ := isoText_finite limitFormatted
          have hits : (decide (row.status = .approved) &&
              (request.now context).le row.expiresAt.value) = true := by
            rw [decide_eq_true approved, le_expiry formatted inTime]
            rfl
          rw [updateOne_eq _ _ found hits] at ran
          cases ran
          have number : armedExpiry (request.now context) ttl row.expiresAt.value ≠ .nan := by
            rw [limitFinite]
            exact PyFloat.noConfusion
          exact .armed ⟨_, number⟩ given found approved rfl

theorem armOrderIntent_effect {request : ArmRequest}
    (ran : armOrderIntent env context request store = .ok (reply, after)) :
    Effect env context store (.armOrderIntent request) reply after := by
  unfold armOrderIntent at ran
  split at ran
  · exact refused_effect ran (by decide) (by decide)
  obtain ⟨ttl, given, ran⟩ := bind_eq_ok.mp ran
  split at ran
  · exact refused_effect ran (by decide) (by decide)
  obtain ⟨text, formatted, ran⟩ := bind_eq_ok.mp ran
  exact withRetries_effect (Except.ok.inj ran) (armTransaction_effect given formatted)

private theorem useApproved_effect (found : store.select request.orderIntentHash = some row)
    (approved : row.status = .approved)
    (inTime : ¬ row.expiresAt.value.lt (request.time context) = true)
    (armed : request.requireArmed = true → ∃ limit, row.armedExpiresAt = some limit ∧
      ¬ limit.value.lt (request.time context) = true)
    (ran : useApproved env request (request.time context) store = .ok (reply, after)) :
    Effect env context store (.consumeValidApproval request) reply after := by
  unfold useApproved at ran
  obtain ⟨text, formatted, ran⟩ := bind_eq_ok.mp ran
  have armedInTime : request.requireArmed = true →
      SqlReal.atLeast row.armedExpiresAt (request.time context) = true := by
    intro required
    obtain ⟨limit, set, notPast⟩ := armed required
    rw [set]
    exact le_expiry formatted notPast
  have hits : (decide (row.status = .approved) && (request.time context).le row.expiresAt.value &&
      (!request.requireArmed || SqlReal.atLeast row.armedExpiresAt (request.time context))) =
        true := by
    rw [decide_eq_true approved, le_expiry formatted inTime]
    cases required : request.requireArmed with
    | false => rfl
    | true =>
        rw [armedInTime required]
        rfl
  rw [updateOne_eq _ _ found hits] at ran
  cases ran
  exact .consumed found approved (le_expiry formatted inTime) armedInTime

theorem consumeTransaction_effect
    (ran : consumeTransaction env request (request.time context) store = .ok (reply, after)) :
    Effect env context store (.consumeValidApproval request) reply after := by
  unfold consumeTransaction at ran
  cases found : store.select request.orderIntentHash with
  | none =>
      rw [found] at ran
      exact refused_effect ran (by decide) (by decide)
  | some row =>
      simp only [found] at ran
      cases refusal : statusRefusal row.status with
      | some reason =>
          rw [refusal] at ran
          exact statusRefusal_effect found refusal ran
      | none =>
          simp only [refusal] at ran
          have approved := approved_of_statusRefusal refusal
          split at ran
          · obtain ⟨_, _formatted, ran⟩ := bind_eq_ok.mp ran
            exact expireApproved_effect (.consumeValidApproval request) found approved ran
          rename_i inTime
          split at ran
          · unfold useArmed at ran
            cases arming : row.armedExpiresAt with
            | none =>
                rw [arming] at ran
                exact refused_effect ran (by decide) (by decide)
            | some limit =>
                simp only [arming] at ran
                split at ran
                · obtain ⟨_, _formatted, ran⟩ := bind_eq_ok.mp ran
                  rw [Table.update_eq_put _ found (decide_eq_true approved)] at ran
                  cases ran
                  exact .disarmed found approved
                · rename_i notPast
                  exact useApproved_effect found approved inTime
                    (fun _ => ⟨limit, arming, notPast⟩) ran
          · rename_i notRequired
            exact useApproved_effect found approved inTime
              (fun required => absurd required notRequired) ran

theorem consumeValidApproval_effect
    (ran : consumeValidApproval env context request store = .ok (reply, after)) :
    Effect env context store (.consumeValidApproval request) reply after := by
  unfold consumeValidApproval at ran
  split at ran
  · exact refused_effect ran (by decide) (by decide)
  obtain ⟨ttl, _given, ran⟩ := bind_eq_ok.mp ran
  split at ran
  · exact refused_effect ran (by decide) (by decide)
  exact withRetries_effect (Except.ok.inj ran) consumeTransaction_effect

theorem row_of_values {values : ApprovalValues} (bound : values.row = .ok row) :
    SqlReal.bind values.expiresAt = some row.expiresAt ∧ row.status = values.status ∧
      row.armedExpiresAt = none := by
  unfold ApprovalValues.row at bound
  split at bound
  · cases bound
  · cases bound
  · rename_i expires
    cases bound
    exact ⟨expires, rfl, rfl⟩

private theorem le_add_ttl {ttl : Int} (formatted : env.isoText now = .ok text)
    (positive : ¬ ttl ≤ 0) :
    now.le (now + .ofInt ttl) = true := by
  obtain ⟨value, rfl⟩ := isoText_finite formatted
  refine (PyFloat.finite_le value (value + (ttl : ℚ))).mpr ?_
  have later : (0 : ℚ) ≤ ttl := by exact_mod_cast (not_le.mp positive).le
  exact le_add_of_nonneg_right later

theorem approveAndConsumeTransaction_effect {request : ApproveAndConsumeRequest} {ttl : Int}
    (given : env.ttl request.ttlSec = .ok ttl) (positive : ¬ ttl ≤ 0)
    (formatted : env.isoText (request.now context) = .ok text)
    (ran : approveAndConsumeTransaction request (request.now context)
      (request.now context + .ofInt ttl) store = .ok (reply, after)) :
    Effect env context store (.approveAndConsumeOrderIntent request) reply after := by
  unfold approveAndConsumeTransaction at ran
  split at ran
  · exact refused_effect ran (by decide) (by decide)
  rename_i notUsed
  obtain ⟨row, bound, ran⟩ := bind_eq_ok.mp ran
  obtain ⟨expires, status, _disarmed⟩ := row_of_values bound
  have inTime : (request.now context).le row.expiresAt.value = true := by
    rw [SqlReal.bind_eq_some expires]
    exact le_add_ttl formatted positive
  have used : ∀ reason snapshot approvedAt,
      (store.put request.orderIntentHash
        { row with reason := reason, reviewPacketSnapshot := snapshot, approvedAt := approvedAt }
        ).update request.orderIntentHash
          (fun row => row.status = .approved && (request.now context).le row.expiresAt.value)
          (·.use (request.now context) request.approverId) =
        (store.put request.orderIntentHash
          ({ row with
              reason := reason, reviewPacketSnapshot := snapshot, approvedAt := approvedAt
            }.use (request.now context) request.approverId), 1) := by
    intro reason snapshot approvedAt
    rw [Table.update_eq_put _ (Table.select_put_self _ _ _)]
    · rw [Table.put_put]
    · rw [inTime, status]
      rfl
  unfold Table.upsert at ran
  cases found : store.select request.orderIntentHash with
  | none =>
      simp only [found] at ran
      rw [used] at ran
      cases ran
      exact .approvedAndConsumed given (Bool.eq_false_iff.mpr notUsed) rfl expires rfl
  | some old =>
      simp only [found] at ran
      rw [used] at ran
      cases ran
      exact .approvedAndConsumed given (Bool.eq_false_iff.mpr notUsed) rfl expires rfl

theorem approveAndConsume_effect {request : ApproveAndConsumeRequest}
    (ran : approveAndConsumeOrderIntent env context request store = .ok (reply, after)) :
    Effect env context store (.approveAndConsumeOrderIntent request) reply after := by
  unfold approveAndConsumeOrderIntent at ran
  split at ran
  · exact refused_effect ran (by decide) (by decide)
  obtain ⟨ttl, given, ran⟩ := bind_eq_ok.mp ran
  split at ran
  · exact refused_effect ran (by decide) (by decide)
  rename_i positive
  obtain ⟨text, formatted, ran⟩ := bind_eq_ok.mp ran
  obtain ⟨_, _expiresFormatted, ran⟩ := bind_eq_ok.mp ran
  exact withRetries_effect (Except.ok.inj ran)
    (approveAndConsumeTransaction_effect given positive formatted)

theorem insertApproval_eq_ok {hash : String} {values : ApprovalValues}
    (ran : insertApproval hash values store = .ok (reply, after)) :
    ∃ row, values.row = .ok row ∧ reply = ⟨true, lower values.status.value⟩ ∧
      after = store.put hash row := by
  obtain ⟨row, bound, done⟩ := bind_eq_ok.mp ran
  cases done
  exact ⟨row, bound, rfl, Table.upsert_const _ _ _⟩

theorem approvalValues_refusal {clock : PyFloat} {request : ApprovalRequest}
    (refusal : approvalValues env clock request = .ok (.error reason)) :
    reason ≠ "approval_race_lost" ∧ reason ≠ "approval_expired" := by
  unfold approvalValues at refusal
  split at refusal
  · cases refusal
    exact ⟨by decide, by decide⟩
  split at refusal
  · rename_i invalid
    cases refusal
    unfold OrderApprovalStatus.normalize at invalid
    simp only at invalid
    split at invalid
    · cases invalid
    · cases invalid
      exact ⟨append_ne_of_startsWith _ (by decide), append_ne_of_startsWith _ (by decide)⟩
  · obtain ⟨_, _, refusal⟩ := bind_eq_ok.mp refusal
    obtain ⟨_, _, refusal⟩ := bind_eq_ok.mp refusal
    obtain ⟨_, _, refusal⟩ := bind_eq_ok.mp refusal
    cases refusal

theorem createOrderApproval_effect {request : ApprovalRequest}
    (ran : createOrderApproval env context request store = .ok (reply, after)) :
    Effect env context store (.createOrderApproval request) reply after := by
  unfold createOrderApproval at ran
  obtain ⟨outcome, computed, ran⟩ := bind_eq_ok.mp ran
  cases outcome with
  | error reason =>
      cases ran
      obtain ⟨noRace, notExpired⟩ := approvalValues_refusal computed
      exact .declined (declined_of_text noRace notExpired)
  | ok values =>
      simp only at ran
      split at ran
      · cases ran
        exact .declined (declined_of_text (by decide) (by decide))
      · rename_i notUsed
        obtain ⟨row, bound, rfl, rfl⟩ := insertApproval_eq_ok (once_eq_ok ran)
        exact .created computed bound (Bool.eq_false_iff.mpr notUsed)

theorem run_effect (ran : operation.run env context store = .ok (reply, after)) :
    Effect env context store operation reply after := by
  cases operation with
  | createOrderApproval request => exact createOrderApproval_effect ran
  | approveIntent intentHash approverId => exact approveIntent_effect ran
  | rejectIntent intentHash approverId reason => exact rejectIntent_effect ran
  | armOrderIntent request => exact armOrderIntent_effect ran
  | consumeValidApproval request => exact consumeValidApproval_effect ran
  | approveAndConsumeOrderIntent request => exact approveAndConsume_effect ran

end Algotradify.Core.ApprovalStore
