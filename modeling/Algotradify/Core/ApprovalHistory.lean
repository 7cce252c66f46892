/-
Sequential runs of the approval store, and what the history says of a row.

The status of a row is the last one decided for its hash. Its expiry is that of the
last creation, and an arming that is set was made after that creation.
-/

import Algotradify.Core.ApprovalEffects
import Algotradify.Transition.Run

namespace Algotradify.Core.ApprovalStore

open Py Sql Transition

/-! ### What an entry says -/

abbrev Entry := Call × Outcome

/-- A call at a time is one step; a call that raises leaves the store as it was. -/
def Sequential (env : Environment) : Store → Entry → Store → Prop :=
  Observed fun store call => some (perform env store call)

/-- The status an entry decides for the hash: a creation, an approval, a rejection or
a consumption that was accepted, or the report that the approval is expired. -/
def decides (hash : String) (entry : Entry) : Option OrderApprovalStatus :=
  if entry.1.operation.hash = hash then
    match entry.2 with
    | .ok ⟨true, _⟩ => entry.1.operation.decided
    | .ok ⟨false, reason⟩ => if reason = "approval_expired" then some .expired else none
    | .error _ => none
  else none

def Call.createdExpiry (env : Environment) (call : Call) : Option SqlReal :=
  match call.operation with
  | .createOrderApproval request =>
      match approvalValues env call.context.clock request with
      | .ok (.ok values) => SqlReal.bind values.expiresAt
      | _ => none
  | .approveAndConsumeOrderIntent request =>
      match env.ttl request.ttlSec with
      | .ok ttl => SqlReal.bind (request.now call.context + .ofInt ttl)
      | .error _ => none
  | _ => none

def creates (env : Environment) (hash : String) (entry : Entry) : Option SqlReal :=
  if entry.1.operation.hash = hash then
    match entry.2 with
    | .ok ⟨true, _⟩ => entry.1.createdExpiry env
    | _ => none
  else none

def Arms (env : Environment) (hash : String) (entry : Entry) (armTime : PyFloat) (ttl : Int) :
    Prop :=
  ∃ context request reason,
    entry = (⟨context, .armOrderIntent request⟩, .ok ⟨true, reason⟩) ∧
      request.orderIntentHash = hash ∧ request.now context = armTime ∧
      env.armTtl request.armTtlSec = .ok ttl

/-! ### The row of a history -/

structure Recorded (env : Environment) (hash : String) (history : List Entry)
    (row : OrderApproval) : Prop where
  status : ∃ later, Since (decides hash) history row.status later
  creation : ∃ later, Since (creates env hash) history row.expiresAt later ∧
    ∀ limit, row.armedExpiresAt = some limit →
      ∃ arm ∈ later, ∃ armTime ttl, Arms env hash arm armTime ttl ∧
        limit.value = armedExpiry armTime ttl row.expiresAt.value

/-- Every row of the store says what the history of its hash says. -/
def AllRecorded (env : Environment) (history : List Entry) (store : Store) : Prop :=
  ∀ hash row, store.select hash = some row → Recorded env hash history row

section Recorded

variable {env : Environment} {hash : String} {history : List Entry} {before after : OrderApproval}
variable {entry : Entry}

theorem Recorded.change (recorded : Recorded env hash history before)
    (status : decides hash entry = some after.status ∨
      decides hash entry = none ∧ after.status = before.status)
    (notCreated : creates env hash entry = none) (expires : after.expiresAt = before.expiresAt)
    (arming : ∀ limit, after.armedExpiresAt = some limit →
      before.armedExpiresAt = some limit ∨
        ∃ armTime ttl, Arms env hash entry armTime ttl ∧
          limit.value = armedExpiry armTime ttl after.expiresAt.value) :
    Recorded env hash (history ++ [entry]) after := by
  constructor
  · rcases status with decided | ⟨silent, same⟩
    · exact ⟨[], .here decided⟩
    · obtain ⟨later, since⟩ := recorded.status
      rw [same]
      exact ⟨later ++ [entry], since.snoc silent⟩
  · obtain ⟨later, since, armed⟩ := recorded.creation
    refine ⟨later ++ [entry], ?_, ?_⟩
    · rw [expires]
      exact since.snoc notCreated
    · intro limit set
      rcases arming limit set with old | ⟨armTime, ttl, arms, limited⟩
      · obtain ⟨arm, member, armTime, ttl, arms, limited⟩ := armed limit old
        rw [expires]
        exact ⟨arm, List.mem_append_left _ member, armTime, ttl, arms, limited⟩
      · exact ⟨entry, List.mem_append_right _ (List.mem_singleton_self _), armTime, ttl, arms,
          limited⟩

theorem Recorded.keep (recorded : Recorded env hash history before)
    (silent : decides hash entry = none) (notCreated : creates env hash entry = none) :
    Recorded env hash (history ++ [entry]) before :=
  recorded.change (.inr ⟨silent, rfl⟩) notCreated rfl fun _ set => .inl set

theorem Recorded.create (decided : decides hash entry = some after.status)
    (created : creates env hash entry = some after.expiresAt)
    (disarmed : after.armedExpiresAt = none) :
    Recorded env hash (history ++ [entry]) after := by
  refine ⟨⟨[], .here decided⟩, [], .here created, ?_⟩
  intro limit set
  rw [disarmed] at set
  cases set

end Recorded

/-! ### One call -/

theorem decides_other {hash : String} {entry : Entry} (other : entry.1.operation.hash ≠ hash) :
    decides hash entry = none := by
  unfold decides
  rw [if_neg other]

theorem creates_other {env : Environment} {hash : String} {entry : Entry}
    (other : entry.1.operation.hash ≠ hash) : creates env hash entry = none := by
  unfold creates
  rw [if_neg other]

theorem decides_accepted (context : CallContext) (operation : Operation) (reason : String) :
    decides operation.hash (⟨context, operation⟩, .ok ⟨true, reason⟩) = operation.decided :=
  if_pos rfl

theorem decides_refused (context : CallContext) (operation : Operation) (reason : String) :
    decides operation.hash (⟨context, operation⟩, .ok ⟨false, reason⟩) =
      if reason = "approval_expired" then some .expired else none :=
  if_pos rfl

theorem creates_accepted (env : Environment) (context : CallContext) (operation : Operation)
    (reason : String) : creates env operation.hash (⟨context, operation⟩, .ok ⟨true, reason⟩) =
      Call.createdExpiry env ⟨context, operation⟩ :=
  if_pos rfl

theorem creates_refused (env : Environment) (hash : String) (call : Call) (reason : String) :
    creates env hash (call, .ok ⟨false, reason⟩) = none := by
  unfold creates
  split <;> rfl

theorem AllRecorded.put {env : Environment} {history : List Entry} {store : Store} {entry : Entry}
    {row : OrderApproval} (recorded : AllRecorded env history store)
    (own : Recorded env entry.1.operation.hash (history ++ [entry]) row) :
    AllRecorded env (history ++ [entry]) (store.put entry.1.operation.hash row) := by
  intro hash found selected
  rw [Table.select_put] at selected
  split at selected
  · rename_i same
    cases selected
    rw [same]
    exact own
  · rename_i other
    exact (recorded hash found selected).keep (decides_other (Ne.symm other))
      (creates_other (Ne.symm other))

theorem approvalValues_status {env : Environment} {clock : PyFloat} {request : ApprovalRequest}
    {values : ApprovalValues} (computed : approvalValues env clock request = .ok (.ok values)) :
    OrderApprovalStatus.normalize request.status = .ok values.status := by
  unfold approvalValues at computed
  split at computed
  · cases computed
  split at computed
  · cases computed
  · rename_i normalized
    obtain ⟨_, _, computed⟩ := bind_eq_ok.mp computed
    obtain ⟨_, _, computed⟩ := bind_eq_ok.mp computed
    obtain ⟨_, _, computed⟩ := bind_eq_ok.mp computed
    cases computed
    exact normalized

theorem recorded_effect {env : Environment} {history : List Entry} {context : CallContext}
    {operation : Operation} {reply : Reply} {store after : Store}
    (recorded : AllRecorded env history store)
    (effect : Effect env context store operation reply after) :
    AllRecorded env (history ++ [(⟨context, operation⟩, .ok reply)]) after := by
  cases effect with
  | declined none =>
      obtain ⟨notAccepted, _noRace, expired⟩ := none
      obtain ⟨accepted, reason⟩ := reply
      cases notAccepted
      intro hash row selected
      have kept := recorded hash row selected
      have notCreated := creates_refused env hash ⟨context, operation⟩ reason
      by_cases own : operation.hash = hash
      · subst hash
        have decided := decides_refused context operation reason
        by_cases late : reason = "approval_expired"
        · obtain ⟨old, found, isExpired⟩ := expired late
          rw [selected] at found
          cases found
          rw [if_pos late, ← isExpired] at decided
          exact kept.change (.inl decided) notCreated rfl fun _ set => .inl set
        · rw [if_neg late] at decided
          exact kept.keep decided notCreated
      · exact kept.keep (decides_other own) notCreated
  | @created request values row computed bound _notUsed =>
      obtain ⟨expires, status, disarmed⟩ := row_of_values bound
      have decided := decides_accepted context (.createOrderApproval request)
        (lower values.status.value)
      have created := creates_accepted env context (.createOrderApproval request)
        (lower values.status.value)
      simp only [Operation.decided, approvalValues_status computed] at decided
      simp only [Call.createdExpiry, computed, expires] at created
      refine recorded.put (.create ?_ created disarmed)
      rw [status]
      exact decided
  | @approved intentHash approverId row found _undecided =>
      have decided := decides_accepted context (.approveIntent intentHash approverId) "approved"
      have created := creates_accepted env context (.approveIntent intentHash approverId) "approved"
      exact recorded.put ((recorded _ _ found).change (.inl decided) created rfl
        fun _ set => .inl set)
  | @rejected intentHash approverId reason row found _notUsed =>
      have decided := decides_accepted context (.rejectIntent intentHash approverId reason)
        "rejected"
      have created := creates_accepted env context (.rejectIntent intentHash approverId reason)
        "rejected"
      exact recorded.put ((recorded _ _ found).change (.inl decided) created rfl
        fun _ set => .inl set)
  | @expired _ row now found _undecided =>
      have decided := decides_refused context operation "approval_expired"
      have created := creates_refused env operation.hash ⟨context, operation⟩ "approval_expired"
      exact recorded.put ((recorded _ _ found).change (.inl decided) created rfl
        fun _ set => .inl set)
  | @armed request row ttl limit given found _approved limited =>
      have silent := decides_accepted context (.armOrderIntent request) "approval_armed"
      have created := creates_accepted env context (.armOrderIntent request) "approval_armed"
      refine recorded.put ((recorded _ _ found).change (.inr ⟨silent, rfl⟩) created rfl ?_)
      intro other set
      refine .inr ⟨request.now context, ttl, ⟨context, request, _, rfl, rfl, rfl, given⟩, ?_⟩
      rw [SqlReal.bind_eq_some set]
      exact limited
  | @disarmed request row found _approved =>
      have silent := decides_refused context (.consumeValidApproval request) "approval_arm_expired"
      have created := creates_refused env request.orderIntentHash
        ⟨context, .consumeValidApproval request⟩ "approval_arm_expired"
      refine recorded.put ((recorded _ _ found).change (.inr ⟨silent, rfl⟩) created rfl ?_)
      intro limit set
      cases set
  | @consumed request row found _approved _inTime _armed =>
      have decided := decides_accepted context (.consumeValidApproval request) "approved_and_used"
      have created := creates_accepted env context (.consumeValidApproval request)
        "approved_and_used"
      refine recorded.put ((recorded _ _ found).change (.inl decided) created rfl ?_)
      intro limit set
      cases set
  | @approvedAndConsumed request row ttl given _notUsed used expires disarmed =>
      have decided := decides_accepted context (.approveAndConsumeOrderIntent request)
        "approved_and_used"
      have created := creates_accepted env context (.approveAndConsumeOrderIntent request)
        "approved_and_used"
      simp only [Operation.decided, ← used] at decided
      simp only [Call.createdExpiry, given, expires] at created
      exact recorded.put (.create decided created disarmed)

theorem recorded_step {env : Environment} {history : List Entry} {store after : Store}
    {entry : Entry} (recorded : AllRecorded env history store)
    (stepped : Sequential env store entry after) :
    AllRecorded env (history ++ [entry]) after := by
  obtain ⟨⟨context, operation⟩, outcome⟩ := entry
  have performed : perform env store ⟨context, operation⟩ = (outcome, after) := Option.some.inj stepped
  unfold perform at performed
  split at performed
  · rename_i reply left ran
    cases performed
    exact recorded_effect recorded (run_effect ran)
  · cases performed
    intro hash row selected
    refine (recorded hash row selected).keep ?_ ?_
    · unfold decides
      split <;> rfl
    · unfold creates
      split <;> rfl

/-! ### Whole runs -/

theorem run_recorded {env : Environment} {history : List Entry} {store : Store}
    (run : Run (Sequential env) [] history store) : AllRecorded env history store := by
  refine run.history_invariant (motive := AllRecorded env) ?_ ?_
  · intro hash row selected
    cases selected
  · intro history before entry after recorded stepped
    exact recorded_step recorded stepped

structure Justified (env : Environment) (history : List Entry) (hash : String) (time : PyFloat)
    (requireArmed : Bool) : Prop where
  approved : ∃ later, Since (decides hash) history .approved later
  inTime : ∃ expires later, Since (creates env hash) history expires later ∧
    time.le expires.value = true ∧
    (requireArmed = true → ∃ arm ∈ later, ∃ armTime ttl, Arms env hash arm armTime ttl ∧
      time.le (armTime + .ofInt ttl) = true)

theorem armedExpiry_le {now expires : PyFloat} {ttl : Int} {limit : SqlReal}
    (number : expires ≠ .nan) (limited : limit.value = armedExpiry now ttl expires) :
    limit.value.le (now + .ofInt ttl) = true ∧ limit.value.le expires = true := by
  have notNan := limit.isNumber
  rw [limited] at notNan ⊢
  unfold armedExpiry at notNan ⊢
  split at notNan
  · rename_i earlier
    rw [if_pos earlier]
    exact ⟨PyFloat.le_of_lt earlier, PyFloat.le_refl number⟩
  · rename_i notEarlier
    rw [if_neg notEarlier]
    exact ⟨PyFloat.le_refl notNan, PyFloat.le_of_not_lt notNan number notEarlier⟩

theorem consumed_justified {env : Environment} {history : List Entry} {store after : Store}
    {context : CallContext} {request : ConsumeRequest} {reason : String}
    (recorded : AllRecorded env history store)
    (stepped : Sequential env store
      (⟨context, .consumeValidApproval request⟩, .ok ⟨true, reason⟩) after) :
    Justified env history request.orderIntentHash (request.time context) request.requireArmed := by
  have performed : perform env store ⟨context, .consumeValidApproval request⟩ =
      (.ok ⟨true, reason⟩, after) := Option.some.inj stepped
  unfold perform at performed
  split at performed
  · rename_i reply left ran
    cases performed
    have effect := run_effect ran
    cases effect with
    | declined none => cases none.notAccepted
    | @consumed _ row found approved inTime armed =>
        obtain ⟨⟨laterDecided, decided⟩, later, created, arming⟩ :=
          recorded _ _ found
        rw [approved] at decided
        refine ⟨⟨laterDecided, decided⟩, row.expiresAt, later, created, inTime, ?_⟩
        intro required
        have within := armed required
        cases set : row.armedExpiresAt with
        | none =>
            rw [set] at within
            cases within
        | some limit =>
            rw [set] at within
            obtain ⟨arm, member, armTime, ttl, arms, limited⟩ := arming limit set
            refine ⟨arm, member, armTime, ttl, arms, ?_⟩
            exact PyFloat.le_trans within (armedExpiry_le row.expiresAt.isNumber limited).1
  · cases performed

theorem no_race_lost {env : Environment} {store after : Store} {entry : Entry}
    (stepped : Sequential env store entry after) :
    entry.2 ≠ .ok ⟨false, "approval_race_lost"⟩ := by
  obtain ⟨⟨context, operation⟩, outcome⟩ := entry
  have performed : perform env store ⟨context, operation⟩ = (outcome, after) := Option.some.inj stepped
  unfold perform at performed
  split at performed
  · rename_i reply left ran
    cases performed
    rintro lost
    have reason : reply.reason = "approval_race_lost" := by rw [Except.ok.inj lost]
    have notAccepted : reply.accepted = false := by rw [Except.ok.inj lost]
    cases run_effect ran with
    | declined none => exact none.noRace reason
    | expired => exact absurd reason (by decide)
    | disarmed => exact absurd reason (by decide)
    | created => cases notAccepted
    | approved => cases notAccepted
    | rejected => cases notAccepted
    | armed => cases notAccepted
    | consumed => cases notAccepted
    | approvedAndConsumed => cases notAccepted
  · cases performed
    rintro lost
    cases lost

/-- In every sequential run each consumption that succeeds is justified by the calls
before it, no arm window outlives its approval, and no race is ever lost. -/
theorem consumption_follows_history {env : Environment} {history : List Entry} {store : Store}
    (run : Run (Sequential env) [] history store) :
    (∀ earlier context request reason later,
      history = earlier ++ (⟨context, .consumeValidApproval request⟩, .ok ⟨true, reason⟩) :: later →
      Justified env earlier request.orderIntentHash (request.time context) request.requireArmed) ∧
    (∀ hash row limit, store.select hash = some row → row.armedExpiresAt = some limit →
      limit.value.le row.expiresAt.value = true) ∧
    ∀ entry ∈ history, entry.2 ≠ .ok ⟨false, "approval_race_lost"⟩ := by
  refine ⟨?_, ?_, ?_⟩
  · intro earlier context request reason later cut
    obtain ⟨before, initial, rest⟩ := run.split cut
    obtain ⟨after, stepped, _later⟩ := rest.cons_inv
    exact consumed_justified (run_recorded initial) stepped
  · intro hash row limit selected set
    obtain ⟨later, _created, arming⟩ := (run_recorded run hash row selected).creation
    obtain ⟨_, _, _, _, _, limited⟩ := arming limit set
    exact (armedExpiry_le row.expiresAt.isNumber limited).2
  · intro entry member
    obtain ⟨earlier, later, cut⟩ := List.append_of_mem member
    obtain ⟨before, _initial, rest⟩ := run.split cut
    obtain ⟨after, stepped, _later⟩ := rest.cons_inv
    exact no_race_lost stepped

private def clockOf (epoch : ℚ) : CallContext :=
  ⟨.finite epoch, fun _ => .runs⟩

private def defaultEnvironment : Environment :=
  { orderApprovalTtlSec := none
    approvalTtlSec := some (.int 600)
    orderArmTtlSec := none
    orderArmTtlVariable := none
    utcIso := fun epoch =>
      if epoch = 0 then .ok "1970-01-01T00:00:00Z"
      else if epoch = 60 then .ok "1970-01-01T00:01:00Z"
      else if epoch = 600 then .ok "1970-01-01T00:10:00Z"
      else .error (.valueError "no calendar date") }

private def armedCalls : List Call :=
  [⟨clockOf 0, .createOrderApproval (approveOrderIntent "h1" (some "desk") "cli" none none)⟩,
    ⟨clockOf 0, .armOrderIntent { orderIntentHash := "h1", approverId := some "desk" }⟩]

private def armedConsumption : ConsumeRequest :=
  { orderIntentHash := "h1", requireArmed := true }

/-- An approval that is created, armed for a minute and consumed at its last second. -/
theorem consumption_follows_history_armed :
    Justified defaultEnvironment
      (armedCalls.zip [.ok ⟨true, "approved"⟩, .ok ⟨true, "approval_armed"⟩]) "h1" (.finite 60)
      true := by
  have answered : (trace (fun store call => some (perform defaultEnvironment store call)) []
      (armedCalls ++ [⟨clockOf 60, .consumeValidApproval armedConsumption⟩])).map
        (fun result => result.1.map Prod.snd) =
      some [.ok ⟨true, "approved"⟩, .ok ⟨true, "approval_armed"⟩,
        .ok ⟨true, "approved_and_used"⟩] := by
    decide +kernel
  obtain ⟨store, run⟩ := run_of_answers answered
  exact (consumption_follows_history run).1
    (armedCalls.zip [.ok ⟨true, "approved"⟩, .ok ⟨true, "approval_armed"⟩])
    (clockOf 60) armedConsumption "approved_and_used" [] rfl

end Algotradify.Core.ApprovalStore
