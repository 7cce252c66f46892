/-
The lifecycle of fills: the records of an attempted trade, put in the order of their times.

A record without a time comes after all others. The state can be carried on batch by batch:
what it takes from a batch is its latest status and the latest number of each kind.
-/

import Algotradify.Outcomes.Query

namespace Algotradify.Outcomes.FillLifecycle

open Py Execution

inductive FillLifecycleStatus where
  | orderIntentCreated
  | orderSubmitted
  | orderAccepted
  | orderRejected
  | partiallyFilled
  | filled
  | cancelled
  | exitSubmitted
  | exitFilled
  | positionClosed
  | unknown
deriving DecidableEq, Repr

def terminalStatuses : List FillLifecycleStatus := [.orderRejected, .cancelled, .positionClosed]

def statusAliases : List (String × FillLifecycleStatus) :=
  [("INTENT", .orderIntentCreated), ("ORDER_INTENT", .orderIntentCreated),
    ("ORDER_INTENT_CREATED", .orderIntentCreated), ("SUBMITTED", .orderSubmitted),
    ("ORDER_SUBMITTED", .orderSubmitted), ("OPEN", .orderAccepted), ("ACCEPTED", .orderAccepted),
    ("ORDER_ACCEPTED", .orderAccepted), ("REJECTED", .orderRejected),
    ("ORDER_REJECTED", .orderRejected), ("PARTIAL", .partiallyFilled),
    ("PARTIALLY_FILLED", .partiallyFilled), ("FILLED", .filled), ("COMPLETE", .filled),
    ("CANCELLED", .cancelled), ("CANCELED", .cancelled), ("EXIT_SUBMITTED", .exitSubmitted),
    ("EXIT_FILLED", .exitFilled), ("POSITION_CLOSED", .positionClosed),
    ("CLOSED", .positionClosed)]

def normalizeStatus (value : PyValue) : FillLifecycleStatus :=
  (statusAliases.lookup (norm value)).getD .unknown

structure FillLifecycleEvent where
  candidateId : String
  status : FillLifecycleStatus
  tsEpoch : Option PyFloat
  orderId : Option String
  brokerOrderId : Option String
  quantity : Option PyFloat
  filledQuantity : Option PyFloat
  averagePrice : Option PyFloat
  reason : Option String
  raw : PyDict

/-- `_event_from_record`. -/
def eventFromRecord (row : PyDict) : FillLifecycleEvent :=
  { candidateId := rowCandidateId row
    status := normalizeStatus (firstOf row ["status", "order_status", "event", "lifecycle_status"])
    tsEpoch := rowTime row
    orderId := strOrNone (firstOf row ["order_id", "client_order_id"])
    brokerOrderId := strOrNone (firstOf row ["broker_order_id", "exchange_order_id"])
    quantity := Paper.floatOrNone (firstOf row ["quantity", "qty"])
    filledQuantity := Paper.floatOrNone (firstOf row ["filled_quantity", "filled_qty", "filled"])
    averagePrice := Paper.floatOrNone (firstOf row ["average_price", "avg_price", "fill_price"])
    reason := strOrNone (firstOf row ["reason", "message", "rejection_reason"])
    raw := row }

structure FillLifecycleState where
  candidateId : String
  currentStatus : FillLifecycleStatus
  events : List FillLifecycleEvent
  terminal : Bool
  filledQuantity : Option PyFloat := none
  averagePrice : Option PyFloat := none
  blockers : List String := []
  warnings : List String := []

def firstCandidateId (events : List FillLifecycleEvent) : Option String :=
  (events.find? fun event => event.candidateId ≠ "unknown").map FillLifecycleEvent.candidateId

def latestValue (events : List FillLifecycleEvent) (field : FillLifecycleEvent → Option PyFloat) :
    Option PyFloat :=
  events.reverse.findSome? field

/-- `_warnings`. -/
def lifecycleWarnings (events : List FillLifecycleEvent) : List String :=
  Dedup.messagesOf
    [(events.any fun event => event.status = .unknown, "UNKNOWN_STATUS_EVENT_PRESENT"),
      (events.any fun event => event.candidateId = "unknown", "UNKNOWN_CANDIDATE_EVENT_PRESENT")]

def timeKey (tsEpoch : Option PyFloat) : List KeyPart :=
  [.number (.finite (if tsEpoch.isNone then 1 else 0)), .number (tsEpoch.getD (.finite 0))]

abbrev FiledBefore : FillLifecycleEvent → FillLifecycleEvent → Prop :=
  Sorting.NotAfter KeyPart.same KeyPart.less fun event => timeKey event.tsEpoch

def lifecycleEvents (candidateId : Option String) (records : List PyValue) :
    List FillLifecycleEvent :=
  ((records.filterMap dictRow).map eventFromRecord).filter fun event =>
    (givenText candidateId).all fun id => event.candidateId = id

def resolvedCandidateId (candidateId : Option String) (events : List FillLifecycleEvent) : String :=
  ((givenText candidateId).or (givenText (firstCandidateId events))).getD "unknown"

/-- The state of events that are in order. -/
def stateOf (candidateId : Option String) (events : List FillLifecycleEvent) :
    FillLifecycleState :=
  match events.getLast? with
  | none =>
      { candidateId := resolvedCandidateId candidateId events
        currentStatus := .unknown
        events := []
        terminal := false
        blockers := ["NO_FILL_LIFECYCLE_EVENTS"] }
  | some latest =>
      { candidateId := resolvedCandidateId candidateId events
        currentStatus := latest.status
        events := events
        terminal := decide (latest.status ∈ terminalStatuses)
        filledQuantity := latestValue events FillLifecycleEvent.filledQuantity
        averagePrice := latestValue events FillLifecycleEvent.averagePrice
        blockers := Dedup.messageIf (decide (latest.status = .unknown))
          "UNKNOWN_FILL_LIFECYCLE_STATUS"
        warnings := lifecycleWarnings events }

def normalizeFillLifecycle (candidateId : Option String) (records : List PyValue) :
    FillLifecycleState :=
  stateOf candidateId ((lifecycleEvents candidateId records).insertionSort FiledBefore)

/-! ### Carrying a state on -/

/-- The state after further events, from the states of both parts. -/
def FillLifecycleState.followedBy (candidateId : Option String)
    (earlier later : FillLifecycleState) : FillLifecycleState :=
  { (if later.events.isEmpty then earlier else later) with
    candidateId := resolvedCandidateId candidateId (earlier.events ++ later.events)
    events := earlier.events ++ later.events
    filledQuantity := later.filledQuantity.or earlier.filledQuantity
    averagePrice := later.averagePrice.or earlier.averagePrice
    warnings := ["UNKNOWN_STATUS_EVENT_PRESENT", "UNKNOWN_CANDIDATE_EVENT_PRESENT"].filter
      fun warning => warning ∈ earlier.warnings ∨ warning ∈ later.warnings }

section States

variable (candidateId : Option String) (first second events : List FillLifecycleEvent)

theorem stateOf_fields :
    (stateOf candidateId events).events = events ∧
      (stateOf candidateId events).filledQuantity =
        latestValue events FillLifecycleEvent.filledQuantity ∧
      (stateOf candidateId events).averagePrice =
        latestValue events FillLifecycleEvent.averagePrice ∧
      (stateOf candidateId events).warnings = lifecycleWarnings events := by
  unfold stateOf
  split
  · next none =>
      rw [List.getLast?_eq_none_iff.mp none]
      exact ⟨rfl, rfl, rfl, rfl⟩
  · exact ⟨rfl, rfl, rfl, rfl⟩

theorem latestValue_append (field : FillLifecycleEvent → Option PyFloat) :
    latestValue (first ++ second) field =
      (latestValue second field).or (latestValue first field) := by
  unfold latestValue
  rw [List.reverse_append, List.findSome?_append]

theorem lifecycleWarnings_append : lifecycleWarnings (first ++ second) =
    ["UNKNOWN_STATUS_EVENT_PRESENT", "UNKNOWN_CANDIDATE_EVENT_PRESENT"].filter
      fun warning => warning ∈ lifecycleWarnings first ∨ warning ∈ lifecycleWarnings second := by
  unfold lifecycleWarnings
  rw [List.any_append, List.any_append]
  generalize (first.any fun event => decide (event.status = .unknown)) = status
  generalize (first.any fun event => decide (event.candidateId = "unknown")) = candidate
  generalize (second.any fun event => decide (event.status = .unknown)) = laterStatus
  generalize (second.any fun event => decide (event.candidateId = "unknown")) = laterCandidate
  revert status candidate laterStatus laterCandidate
  decide

theorem stateOf_append : stateOf candidateId (first ++ second) =
    (stateOf candidateId first).followedBy candidateId (stateOf candidateId second) := by
  obtain ⟨earlier, earlierFilled, earlierPrice, earlierWarnings⟩ := stateOf_fields candidateId first
  obtain ⟨later, laterFilled, laterPrice, laterWarnings⟩ := stateOf_fields candidateId second
  unfold FillLifecycleState.followedBy
  rw [earlier, later, earlierFilled, laterFilled, earlierPrice, laterPrice, earlierWarnings,
    laterWarnings, ← latestValue_append, ← latestValue_append, ← lifecycleWarnings_append]
  cases second using List.reverseRecOn with
  | nil =>
      rw [List.append_nil, if_pos List.isEmpty_nil]
      unfold stateOf
      split
      · next none =>
          rw [List.getLast?_eq_none_iff.mp none]
          rfl
      · rfl
  | append_singleton second latest =>
      have some : (second ++ [latest]).isEmpty = false := by simp
      rw [some, if_neg Bool.false_ne_true, ← List.append_assoc]
      unfold stateOf
      rw [List.getLast?_concat, List.getLast?_concat]

end States

/-! ### Batches of records -/

def readKey (event : FillLifecycleEvent) : List KeyPart :=
  timeKey (event.tsEpoch.map readTime)

theorem readKey_comparable : Sorting.Comparable KeyPart.same KeyPart.less readKey := by
  have number : ∀ event : FillLifecycleEvent,
      (event.tsEpoch.map readTime).getD (.finite 0) ≠ .nan := by
    intro event
    cases event.tsEpoch with
    | none => exact PyFloat.noConfusion
    | some ts => exact readTime_ne_nan ts
  intro left right
  exact .cons (KeyPart.comparable_finite _ _)
    (.cons (KeyPart.comparable_number (number left) (number right)) .nil)

section Batches

variable {candidateId : Option String} {records : List PyValue} {batches : List (List PyValue)}

theorem readKey_eq (read : TimesRead records) {event : FillLifecycleEvent}
    (member : event ∈ lifecycleEvents candidateId records) :
    readKey event = timeKey event.tsEpoch := by
  obtain ⟨row, listed, rfl⟩ := List.mem_map.mp (List.mem_of_mem_filter member)
  have known : rowTime row ≠ some .nan := read row listed
  unfold readKey
  change timeKey ((rowTime row).map readTime) = timeKey (rowTime row)
  cases time : rowTime row with
  | none => rfl
  | some ts =>
      have number : ts ≠ .nan := fun nan => known (time.trans (congrArg some nan))
      rw [Option.map_some, readTime, if_neg number]

theorem lifecycleEvents_flatten : lifecycleEvents candidateId batches.flatten =
    batches.flatMap (lifecycleEvents candidateId) := by
  unfold lifecycleEvents
  rw [List.filterMap_flatten, List.map_flatten, List.filter_flatten, List.map_map, List.map_map]
  rfl

/-- The batches follow each other: no event is filed before one of an earlier batch. -/
def Follow (candidateId : Option String) (batches : List (List PyValue)) : Prop :=
  batches.Pairwise fun earlier later => ∀ left ∈ lifecycleEvents candidateId earlier,
    ∀ right ∈ lifecycleEvents candidateId later, FiledBefore left right

/-- Two events of one time are the same event. -/
def TimesApart (candidateId : Option String) (records : List PyValue) : Prop :=
  ∀ left ∈ lifecycleEvents candidateId records, ∀ right ∈ lifecycleEvents candidateId records,
    timeKey left.tsEpoch = timeKey right.tsEpoch → left = right

def sortedEvents (candidateId : Option String) (records : List PyValue) :
    List FillLifecycleEvent :=
  (lifecycleEvents candidateId records).insertionSort FiledBefore

theorem mem_sortedEvents {event : FillLifecycleEvent} :
    event ∈ sortedEvents candidateId records ↔ event ∈ lifecycleEvents candidateId records :=
  (List.perm_insertionSort _ _).mem_iff

theorem sortedEvents_of_batches (read : TimesRead records) (apart : TimesApart candidateId records)
    (arrived : records.Perm batches.flatten) (follow : Follow candidateId batches) :
    sortedEvents candidateId records = batches.flatMap (sortedEvents candidateId) := by
  have perm : (lifecycleEvents candidateId records).Perm
      (batches.flatMap (lifecycleEvents candidateId)) := by
    rw [← lifecycleEvents_flatten]
    exact ((arrived.filterMap dictRow).map eventFromRecord).filter _
  have among : ∀ batch ∈ batches, ∀ event ∈ lifecycleEvents candidateId batch,
      event ∈ lifecycleEvents candidateId records := fun batch listed event member =>
    perm.mem_iff.mpr (List.mem_flatMap.mpr ⟨batch, listed, member⟩)
  have same : ∀ left ∈ lifecycleEvents candidateId records,
      ∀ right ∈ lifecycleEvents candidateId records,
        FiledBefore left right ↔
          Sorting.NotAfter KeyPart.same KeyPart.less readKey left right := by
    intro left inLeft right inRight
    unfold FiledBefore Sorting.NotAfter
    rw [readKey_eq read inLeft, readKey_eq read inRight]
  have resort : ∀ events : List FillLifecycleEvent,
      (∀ event ∈ events, event ∈ lifecycleEvents candidateId records) →
        events.insertionSort FiledBefore =
          events.insertionSort (Sorting.NotAfter KeyPart.same KeyPart.less readKey) :=
    fun events inside => Sorting.insertionSort_congr fun left inLeft right inRight =>
      same left (inside left inLeft) right (inside right inRight)
  have distinct : ∀ left ∈ lifecycleEvents candidateId records,
      ∀ right ∈ lifecycleEvents candidateId records, readKey left = readKey right → left = right := by
    intro left inLeft right inRight keys
    rw [readKey_eq read inLeft, readKey_eq read inRight] at keys
    exact apart left inLeft right inRight keys
  have sorted : (batches.flatMap (sortedEvents candidateId)).Pairwise
      (Sorting.NotAfter KeyPart.same KeyPart.less readKey) := by
    refine List.pairwise_flatten.mpr ⟨?_, List.pairwise_map.mpr ?_⟩
    · intro events listed
      obtain ⟨batch, inBatches, rfl⟩ := List.mem_map.mp listed
      unfold sortedEvents
      rw [resort _ (among batch inBatches)]
      exact Sorting.pairwise_notAfter keyPartLaws readKey_comparable _
    · refine follow.imp_of_mem ?_
      intro earlier later inEarlier inLater filed left inLeft right inRight
      have leftMember := mem_sortedEvents.mp inLeft
      have rightMember := mem_sortedEvents.mp inRight
      exact (same left (among earlier inEarlier left leftMember) right
        (among later inLater right rightMember)).mp (filed left leftMember right rightMember)
  have whole : (lifecycleEvents candidateId records).Perm
      (batches.flatMap (sortedEvents candidateId)) :=
    perm.trans (List.Perm.flatMap_left batches fun batch _ => (List.perm_insertionSort _ _).symm)
  unfold sortedEvents
  rw [resort _ fun _ member => member,
    Sorting.sort_eq_of_perm keyPartLaws readKey_comparable distinct whole, sorted.insertionSort_eq]
  rfl

/-- However the records arrive, the state is that of the batches they come in by their times,
carried on from one batch to the next. -/
theorem lifecycle_carries_on (read : TimesRead records) (apart : TimesApart candidateId records)
    (arrived : records.Perm batches.flatten) (follow : Follow candidateId batches) :
    normalizeFillLifecycle candidateId records =
      batches.foldl (fun state batch =>
          state.followedBy candidateId (normalizeFillLifecycle candidateId batch))
        (normalizeFillLifecycle candidateId []) := by
  have whole : normalizeFillLifecycle candidateId records =
      stateOf candidateId (batches.flatMap (sortedEvents candidateId)) :=
    congrArg (stateOf candidateId) (sortedEvents_of_batches read apart arrived follow)
  rw [whole]
  clear whole read apart arrived follow
  induction batches using List.reverseRecOn with
  | nil => rfl
  | append_singleton batches batch ih =>
      rw [List.flatMap_append, List.flatMap_singleton, stateOf_append, ih, List.foldl_append]
      rfl

end Batches

def submittedRow : PyDict := [("status", .str "SUBMITTED"), ("ts_epoch", .int 1)]

def filledRow : PyDict := [("status", .str "FILLED"), ("ts_epoch", .int 2)]

/-- The record of a fill that arrives before that of its order. -/
theorem lifecycle_carries_on_late :
    normalizeFillLifecycle none [.dict filledRow, .dict submittedRow] =
      ((normalizeFillLifecycle none []).followedBy none
        (normalizeFillLifecycle none [.dict submittedRow])).followedBy none
          (normalizeFillLifecycle none [.dict filledRow]) := by
  have times : timeKey (rowTime filledRow) ≠ timeKey (rowTime submittedRow) := by
    decide +kernel
  apply @lifecycle_carries_on none _ [[.dict submittedRow], [.dict filledRow]]
  · intro row listed
    obtain rfl | rfl := List.mem_pair.mp listed <;> decide +kernel
  · intro left inLeft right inRight same
    obtain rfl | rfl := List.mem_pair.mp inLeft <;> obtain rfl | rfl := List.mem_pair.mp inRight
    · rfl
    · exact absurd same times
    · exact absurd same.symm times
    · rfl
  · exact List.Perm.swap _ _ []
  · refine List.pairwise_pair.mpr ?_
    intro left inLeft right inRight
    rw [List.mem_singleton.mp inLeft, List.mem_singleton.mp inRight]
    decide +kernel

end Algotradify.Outcomes.FillLifecycle
