/-
The store of order approvals: one row for each order intent hash, and the calls that
create, approve, reject, arm and consume an approval.

A call runs on the table it finds and returns its reply with the table it leaves. A
call that raises, or whose transaction is rolled back, leaves the table as it was.
The configuration and the formatting of times are fixed in an environment. The clock
a call reads and the fate of its attempts to lock the database come with the call.
-/

import Algotradify.Py.Convert
import Algotradify.Sql.Table

namespace Algotradify.Core.ApprovalStore

open Py Sql

/-! ### Rows -/

inductive OrderApprovalStatus where
  | pending
  | approved
  | rejected
  | expired
  | used
deriving DecidableEq, Repr

namespace OrderApprovalStatus

def value : OrderApprovalStatus → String
  | .pending => "PENDING"
  | .approved => "APPROVED"
  | .rejected => "REJECTED"
  | .expired => "EXPIRED"
  | .used => "USED"

/-- `ORDER_APPROVAL_STATUS`. -/
def all : List OrderApprovalStatus := [.pending, .approved, .rejected, .expired, .used]

/-- `_normalize_status`. -/
def normalize (status : String) : Except String OrderApprovalStatus :=
  let text := strip (upper status)
  match all.find? fun candidate => candidate.value = text with
  | some found => .ok found
  | none => .error ("invalid_order_approval_status:" ++ text)

end OrderApprovalStatus

structure OrderApproval where
  createdAt : SqlReal
  expiresAt : SqlReal
  approverId : Option String
  channel : Option String
  status : OrderApprovalStatus
  rejectReason : Option String
  reason : Option String
  reviewPacketSnapshot : Option String
  approvedAt : Option SqlReal
  usedAt : Option SqlReal
  usedBy : Option String
  armedAt : Option SqlReal
  armedExpiresAt : Option SqlReal
  armedBy : Option String
  armedChannel : Option String
  updatedAt : Option SqlReal
deriving DecidableEq

abbrev Store := Table String OrderApproval

namespace OrderApproval

/-- `SET status='EXPIRED'`. -/
def expire (row : OrderApproval) (now : PyFloat) : OrderApproval :=
  { row with status := .expired, updatedAt := SqlReal.bind now }

/-- `SET status='APPROVED'`. -/
def approve (row : OrderApproval) (now : PyFloat) (approverId : Option String) : OrderApproval :=
  { row with
    status := .approved
    approverId := approverId
    approvedAt := SqlReal.bind now
    updatedAt := SqlReal.bind now }

/-- `SET status='REJECTED'`. -/
def reject (row : OrderApproval) (now : PyFloat) (approverId reason : Option String) :
    OrderApproval :=
  { row with
    status := .rejected
    approverId := approverId
    rejectReason := reason
    reason := reason
    updatedAt := SqlReal.bind now }

def arm (row : OrderApproval) (now armedExpires : PyFloat) (approverId channel : Option String) :
    OrderApproval :=
  { row with
    armedAt := SqlReal.bind now
    armedExpiresAt := SqlReal.bind armedExpires
    armedBy := approverId
    armedChannel := channel
    updatedAt := SqlReal.bind now }

def disarm (row : OrderApproval) (now : PyFloat) : OrderApproval :=
  { row with
    armedAt := none
    armedExpiresAt := none
    armedBy := none
    armedChannel := none
    updatedAt := SqlReal.bind now }

/-- `SET status='USED'`, which also clears the arming. -/
def use (row : OrderApproval) (now : PyFloat) (approverId : Option String) : OrderApproval :=
  { row.disarm now with
    status := .used
    usedAt := SqlReal.bind now
    usedBy := approverId }

end OrderApproval

def isUsed (store : Store) (orderIntentHash : String) : Bool :=
  match store.select orderIntentHash with
  | some row => row.status = .used
  | none => false

/-! ### Calls -/

structure Environment where
  orderApprovalTtlSec : Option PyValue
  approvalTtlSec : Option PyValue
  orderArmTtlSec : Option PyValue
  orderArmTtlVariable : Option String
  /-- The text of a time, or the error of a time that no calendar date has. -/
  utcIso : ℚ → Except PyError String

inductive Attempt where
  | runs
  | locked (message : String)
  | failed (message : String)
deriving DecidableEq, Repr

structure CallContext where
  clock : PyFloat
  attempts : Nat → Attempt

structure Reply where
  accepted : Bool
  reason : String
deriving DecidableEq, Repr

inductive StoreError where
  | python (error : PyError)
  | integrityError (message : String)
  | operationalError (message : String)
deriving DecidableEq, Repr

def StoreError.text : StoreError → String
  | .python error => error.text
  | .integrityError message => message
  | .operationalError message => message

abbrev Outcome := Except StoreError Reply

abbrev Transaction := Store → Except StoreError (Reply × Store)

namespace Environment

/-- `_utc_iso`. -/
def isoText (env : Environment) : PyFloat → Except StoreError String
  | .finite epoch => (env.utcIso epoch).mapError .python
  | .nan => .error (.python (.valueError "cannot convert float NaN to integer"))
  | _ => .error (.python (.overflowError "cannot convert float infinity to integer"))

/-- `_ttl`. -/
def ttl (env : Environment) (ttlSec : Option Int) : Except StoreError Int :=
  match ttlSec with
  | some ttl => .ok ttl
  | none => (toInt (env.orderApprovalTtlSec.getD (env.approvalTtlSec.getD (.int 600)))).mapError
      .python

/-- `_arm_ttl`. -/
def armTtl (env : Environment) (armTtlSec : Option Int) : Except StoreError Int :=
  match armTtlSec with
  | some ttl => .ok ttl
  | none => (toInt (env.orderArmTtlSec.getD (.str (env.orderArmTtlVariable.getD "60")))).mapError
      .python

end Environment

def givenOrIso (env : Environment) (given : Option String) (epoch : PyFloat) :
    Except StoreError String :=
  match given with
  | some text => if text = "" then env.isoText epoch else .ok text
  | none => env.isoText epoch

def once (context : CallContext) (transaction : Transaction) : Transaction := fun store =>
  match context.attempts 0 with
  | .runs => transaction store
  | .locked message => .error (.operationalError message)
  | .failed message => .error (.operationalError message)

def retry (transaction : Transaction) (store : Store) : List Attempt → Reply × Store
  | [] => (⟨false, "approval_store_locked"⟩, store)
  | .locked _ :: rest => retry transaction store rest
  | .failed message :: _ => (⟨false, "approval_store_error:" ++ message⟩, store)
  | .runs :: _ =>
      match transaction store with
      | .ok result => result
      | .error raised => (⟨false, "approval_store_error:" ++ raised.text⟩, store)

def withRetries (context : CallContext) (maxRetries : Int) (transaction : Transaction)
    (store : Store) : Reply × Store :=
  retry transaction store ((List.range maxRetries.toNat).map context.attempts)

/-! ### Creating an approval -/

structure ApprovalRequest where
  orderIntentHash : String
  approverId : Option String
  channel : String := "cli"
  ttlSec : Option Int := none
  status : String := "PENDING"
  nowEpoch : Option PyFloat := none
  rejectReason : Option String := none
  reviewPacketSnapshot : Option String := none
  reason : Option String := none
  expiresAtEpoch : Option PyFloat := none
  createdAtIso : Option String := none
  expiresAtIso : Option String := none

structure ApprovalValues where
  createdAt : PyFloat
  expiresAt : PyFloat
  approverId : Option String
  channel : String
  status : OrderApprovalStatus
  rejectReason : Option String
  reason : Option String
  reviewPacketSnapshot : Option String
deriving DecidableEq

def ApprovalValues.row (values : ApprovalValues) : Except StoreError OrderApproval :=
  match SqlReal.bind values.createdAt, SqlReal.bind values.expiresAt with
  | none, _ => .error (.integrityError
      "NOT NULL constraint failed: order_approvals.created_at_epoch")
  | some _, none => .error (.integrityError
      "NOT NULL constraint failed: order_approvals.expires_at_epoch")
  | some createdAt, some expiresAt => .ok
      { createdAt := createdAt
        expiresAt := expiresAt
        approverId := values.approverId
        channel := some values.channel
        status := values.status
        rejectReason := values.rejectReason
        reason := values.reason
        reviewPacketSnapshot := values.reviewPacketSnapshot
        approvedAt := if values.status = .approved then some createdAt else none
        usedAt := none
        usedBy := none
        armedAt := none
        armedExpiresAt := none
        armedBy := none
        armedChannel := none
        updatedAt := some createdAt }

def requestedExpiry (env : Environment) (request : ApprovalRequest) (now : PyFloat) :
    Except StoreError PyFloat :=
  match request.expiresAtEpoch with
  | some expiresAt => .ok expiresAt
  | none => (env.ttl request.ttlSec).map fun ttl => now + .ofInt (max ttl 0)

/-- What a creation computes before it reads the store: the reason it is refused
for, or the values it will write. -/
def approvalValues (env : Environment) (clock : PyFloat) (request : ApprovalRequest) :
    Except StoreError (Except String ApprovalValues) :=
  if request.orderIntentHash = "" then .ok (.error "approval_hash_missing")
  else
    match OrderApprovalStatus.normalize request.status with
    | .error reason => .ok (.error reason)
    | .ok status => do
        let now := request.nowEpoch.getD clock
        let expiresAt ← requestedExpiry env request now
        let _ ← givenOrIso env request.createdAtIso now
        let _ ← givenOrIso env request.expiresAtIso expiresAt
        pure (.ok
          { createdAt := now
            expiresAt := expiresAt
            approverId := request.approverId
            channel := request.channel
            status := status
            rejectReason := request.rejectReason
            reason := request.reason
            reviewPacketSnapshot := request.reviewPacketSnapshot })

def insertApproval (orderIntentHash : String) (values : ApprovalValues) : Transaction := fun store => do
  let row ← values.row
  pure (⟨true, lower values.status.value⟩, store.upsert orderIntentHash row fun _ => row)

def createOrderApproval (env : Environment) (context : CallContext) (request : ApprovalRequest) :
    Transaction := fun store => do
  match ← approvalValues env context.clock request with
  | .error reason => pure (⟨false, reason⟩, store)
  | .ok values =>
      if isUsed store request.orderIntentHash then
        pure (⟨false, "approval_already_used"⟩, store)
      else once context (insertApproval request.orderIntentHash values) store

def approveOrderIntent (orderIntentHash : String) (approverId : Option String) (channel : String)
    (ttlSec : Option Int) (nowEpoch : Option PyFloat) : ApprovalRequest :=
  { orderIntentHash := orderIntentHash
    approverId := approverId
    channel := channel
    ttlSec := ttlSec
    status := "APPROVED"
    nowEpoch := nowEpoch }

/-! ### Approving and rejecting -/

def refused (reason : String) : Transaction := fun store => .ok (⟨false, reason⟩, store)

def approveIntentTransaction (intentHash : String) (approverId : Option String) (now : PyFloat) :
    Transaction := fun store =>
  match store.select intentHash with
  | none => refused "approval_missing" store
  | some row =>
      if row.status = .used then refused "approval_used" store
      else if row.status = .rejected then refused "approval_rejected" store
      else if row.status = .expired then refused "approval_expired" store
      else if row.expiresAt.value.lt now then
        .ok (⟨false, "approval_expired"⟩,
          (store.update intentHash (fun _ => true) (·.expire now)).1)
      else
        .ok (⟨true, "approved"⟩,
          (store.update intentHash (fun row => row.status = .pending ∨ row.status = .approved)
            (·.approve now approverId)).1)

def approveIntent (env : Environment) (context : CallContext) (intentHash : String)
    (approverId : Option String) : Transaction := fun store =>
  if intentHash = "" then refused "approval_hash_missing" store
  else do
    let _ ← env.isoText context.clock
    once context (approveIntentTransaction intentHash approverId context.clock) store

def rejectIntentTransaction (intentHash : String) (approverId reason : Option String)
    (now : PyFloat) : Transaction := fun store =>
  match store.select intentHash with
  | none => refused "approval_missing" store
  | some row =>
      if row.status = .used then refused "approval_used" store
      else
        .ok (⟨true, "rejected"⟩,
          (store.update intentHash (fun _ => true) (·.reject now approverId reason)).1)

def rejectIntent (env : Environment) (context : CallContext) (intentHash : String)
    (approverId reason : Option String) : Transaction := fun store =>
  if intentHash = "" then refused "approval_hash_missing" store
  else do
    let _ ← env.isoText context.clock
    once context (rejectIntentTransaction intentHash approverId reason context.clock) store

/-! ### Arming -/

/-- Why a row that is not approved can be neither armed nor consumed. -/
def statusRefusal : OrderApprovalStatus → Option String
  | .used => some "approval_used"
  | .pending => some "approval_pending"
  | .rejected => some "approval_rejected"
  | .expired => some "approval_expired"
  | .approved => none

def expireApproved (orderIntentHash : String) (now : PyFloat) : Transaction := fun store =>
  .ok (⟨false, "approval_expired"⟩,
    (store.update orderIntentHash (fun row => row.status = .approved) (·.expire now)).1)

/-- An update that must hit its row, or the transaction has lost a race. -/
def updateOne (store : Store) (orderIntentHash : String) (condition : OrderApproval → Bool)
    (change : OrderApproval → OrderApproval) (reason : String) :
    Except StoreError (Reply × Store) :=
  let (after, count) := store.update orderIntentHash condition change
  if count ≠ 1 then refused "approval_race_lost" store else .ok (⟨true, reason⟩, after)

structure ArmRequest where
  orderIntentHash : String
  approverId : Option String
  channel : String := "cli"
  armTtlSec : Option Int := none
  nowEpoch : Option PyFloat := none
  maxRetries : Int := 5

def ArmRequest.now (request : ArmRequest) (context : CallContext) : PyFloat :=
  request.nowEpoch.getD context.clock

/-- `min(now_epoch + arm_ttl, approval_expires)`. -/
def armedExpiry (now : PyFloat) (ttl : Int) (expires : PyFloat) : PyFloat :=
  if expires.lt (now + .ofInt ttl) then expires else now + .ofInt ttl

def armTransaction (env : Environment) (request : ArmRequest) (now : PyFloat) (ttl : Int) :
    Transaction := fun store =>
  match store.select request.orderIntentHash with
  | none => refused "approval_missing" store
  | some row =>
      match statusRefusal row.status with
      | some reason => refused reason store
      | none =>
          if row.expiresAt.value.lt now then expireApproved request.orderIntentHash now store
          else do
            let armedExpires := armedExpiry now ttl row.expiresAt.value
            let _ ← env.isoText armedExpires
            updateOne store request.orderIntentHash
              (fun row => row.status = .approved && now.le row.expiresAt.value)
              (·.arm now armedExpires request.approverId (some request.channel)) "approval_armed"

def armOrderIntent (env : Environment) (context : CallContext) (request : ArmRequest) :
    Transaction := fun store =>
  if request.orderIntentHash = "" then refused "approval_hash_missing" store
  else do
    let ttl ← env.armTtl request.armTtlSec
    if ttl ≤ 0 then refused "approval_arm_ttl_invalid" store
    else do
      let _ ← env.isoText (request.now context)
      pure (withRetries context request.maxRetries
        (armTransaction env request (request.now context) ttl) store)

/-! ### Consuming -/

structure ConsumeRequest where
  orderIntentHash : String
  approverId : Option String := none
  ttlSec : Option Int := none
  now : Option PyFloat := none
  nowEpoch : Option PyFloat := none
  requireArmed : Bool := false
  maxRetries : Int := 5

def ConsumeRequest.time (request : ConsumeRequest) (context : CallContext) : PyFloat :=
  (request.nowEpoch.or request.now).getD context.clock

/-- The last step of a consumption, which reads the status and the times again. -/
def useApproved (env : Environment) (request : ConsumeRequest) (now : PyFloat) : Transaction :=
  fun store => do
    let _ ← env.isoText now
    updateOne store request.orderIntentHash
      (fun row => row.status = .approved && now.le row.expiresAt.value &&
        (!request.requireArmed || SqlReal.atLeast row.armedExpiresAt now))
      (·.use now request.approverId) "approved_and_used"

def useArmed (env : Environment) (request : ConsumeRequest) (now : PyFloat)
    (armedExpires : Option SqlReal) : Transaction := fun store =>
  match armedExpires with
  | none => refused "approval_not_armed" store
  | some armedExpires =>
      if armedExpires.value.lt now then do
        let _ ← env.isoText now
        .ok (⟨false, "approval_arm_expired"⟩,
          (store.update request.orderIntentHash (fun row => row.status = .approved)
            (·.disarm now)).1)
      else useApproved env request now store

def consumeTransaction (env : Environment) (request : ConsumeRequest) (now : PyFloat) :
    Transaction := fun store =>
  match store.select request.orderIntentHash with
  | none => refused "approval_missing" store
  | some row =>
      match statusRefusal row.status with
      | some reason => refused reason store
      | none =>
          if row.expiresAt.value.lt now then do
            let _ ← env.isoText now
            expireApproved request.orderIntentHash now store
          else if request.requireArmed then useArmed env request now row.armedExpiresAt store
          else useApproved env request now store

def consumeValidApproval (env : Environment) (context : CallContext) (request : ConsumeRequest) :
    Transaction := fun store =>
  if request.orderIntentHash = "" then refused "approval_hash_missing" store
  else do
    let ttl ← env.ttl request.ttlSec
    if ttl ≤ 0 then refused "approval_ttl_invalid" store
    else
      pure (withRetries context request.maxRetries
        (consumeTransaction env request (request.time context)) store)

structure ApproveAndConsumeRequest where
  orderIntentHash : String
  approverId : Option String
  channel : String := "cli"
  ttlSec : Option Int := none
  nowEpoch : Option PyFloat := none
  maxRetries : Int := 5

def ApproveAndConsumeRequest.now (request : ApproveAndConsumeRequest) (context : CallContext) :
    PyFloat :=
  request.nowEpoch.getD context.clock

def ApproveAndConsumeRequest.values (request : ApproveAndConsumeRequest) (now expiresAt : PyFloat) :
    ApprovalValues :=
  { createdAt := now
    expiresAt := expiresAt
    approverId := request.approverId
    channel := request.channel
    status := .approved
    rejectReason := none
    reason := none
    reviewPacketSnapshot := none }

/-- This insert writes no approval time, and on a conflict it keeps the reason, the
snapshot and the approval time of the row that is there. -/
def approveAndConsumeTransaction (request : ApproveAndConsumeRequest) (now expiresAt : PyFloat) :
    Transaction := fun store =>
  if isUsed store request.orderIntentHash then refused "approval_used" store
  else do
    let row ← (request.values now expiresAt).row
    let approved := store.upsert request.orderIntentHash { row with approvedAt := none } fun old =>
      { row with
        reason := old.reason
        reviewPacketSnapshot := old.reviewPacketSnapshot
        approvedAt := old.approvedAt }
    let (after, count) := approved.update request.orderIntentHash
      (fun row => row.status = .approved && now.le row.expiresAt.value)
      (·.use now request.approverId)
    if count ≠ 1 then refused "approval_race_lost" store
    else .ok (⟨true, "approved_and_used"⟩, after)

def approveAndConsumeOrderIntent (env : Environment) (context : CallContext)
    (request : ApproveAndConsumeRequest) : Transaction := fun store =>
  if request.orderIntentHash = "" then refused "approval_hash_missing" store
  else do
    let ttl ← env.ttl request.ttlSec
    if ttl ≤ 0 then refused "approval_ttl_invalid" store
    else do
      let now := request.now context
      let _ ← env.isoText now
      let _ ← env.isoText (now + .ofInt ttl)
      pure (withRetries context request.maxRetries
        (approveAndConsumeTransaction request now (now + .ofInt ttl)) store)

end Algotradify.Core.ApprovalStore
