/-
Three views of the inserted ticks: the cache of the last tick of each token, the window of recent
times, and the rows of the table.

Times are exact. The reading of a date text and the text of a time are parameters, and so is the
integer that the table keeps for a token.
-/

import Algotradify.Core.OhlcBuffer
import Algotradify.Core.TickStore
import Algotradify.Core.Watermarks
import Algotradify.Timed.Windows

namespace Algotradify.Core.TickStore

open Py Transition

variable {ticks : List TickRow} {times : List ℚ}

/-! ### Times -/

/-- `datetime.fromtimestamp(value, tz=timezone.utc)` in microseconds, if it does not raise. -/
def utcMicros : PyFloat → Option ℤ
  | .finite seconds =>
      let time := Py.roundHalfEven (seconds * 1000000)
      if OhlcBuffer.inYears time then some time else none
  | _ => none

/-- `dt.timestamp()`. -/
def ofMicros (time : ℤ) : PyFloat := .finite (time / 1000000)

/-- What `normalize_epoch_seconds` makes of a number that is no time in seconds. -/
def scaleEpoch (raw : PyFloat) : Option PyFloat :=
  if raw.le (.finite 0) then none
  else if (PyFloat.finite (10 ^ 15)).le raw.abs then some (raw / .finite (10 ^ 6))
  else if (PyFloat.finite (10 ^ 12)).le raw.abs then some (raw / .finite (10 ^ 3))
  else some raw

def normalizeNumber (value : PyFloat) : Option PyFloat :=
  match utcMicros value with
  | some time => some (ofMicros time)
  | none => scaleEpoch value

/-- `normalize_epoch_seconds`, with the reading of a date text. -/
def normalizeEpochSeconds (readDate : String → Option ℤ) (value : PyValue) : Option PyFloat :=
  match value with
  | .str text =>
      let dated := (strip text).toList.any fun char => char = '-' ∨ char = '/'
      match if dated then readDate (strip text) else none with
      | some time => some (ofMicros time)
      | none => (toFloat (.str text)).toOption.bind scaleEpoch
  | other => (toFloat other).toOption.bind normalizeNumber

/-! ### Inserting -/

/-- The arguments of a call of `insert_tick`, and the reading of its clock. -/
structure TickCall where
  ts : PyValue
  token : PyValue
  lastPrice : PyValue
  volume : PyValue
  oi : PyValue
  now : ℚ

/-- What `_LAST_TICK_BY_TOKEN` holds for a token. -/
structure CachedTick where
  ltp : Option PyFloat
  tsEpoch : PyFloat
deriving DecidableEq, Repr

structure TickMemory where
  tickWindow : List PyFloat := []
  lastTickEpoch : Option PyFloat := none
  lastTickByToken : List (ℤ × CachedTick) := []

/-- The greatest length of `_tick_window`. -/
def windowCapacity : ℕ := 200000

/-- `float(last_price) if last_price is not None else None`. -/
def priceOf (lastPrice : PyValue) : Except PyError (Option PyFloat) :=
  if lastPrice.isNone then .ok none else (toFloat lastPrice).map some

def cacheEntry (row : TickRow) : Option (ℤ × CachedTick) :=
  match toInt row.instrumentToken, priceOf row.lastPrice with
  | .ok token, .ok ltp => some (token, { ltp := ltp, tsEpoch := row.timestampEpoch })
  | _, _ => none

/-- What `insert_tick` keeps in memory: `record_tick_epoch`, and the cache. -/
def TickMemory.record (memory : TickMemory) (row : TickRow) : TickMemory :=
  { tickWindow := Risk.pushBounded windowCapacity memory.tickWindow row.timestampEpoch
    lastTickEpoch := some row.timestampEpoch
    lastTickByToken :=
      match cacheEntry row with
      | some entry => Assoc.set memory.lastTickByToken entry.1 entry.2
      | none => memory.lastTickByToken }

section Insert

variable (readDate : String → Option ℤ) (isoText : ℤ → String)

def TickCall.row (call : TickCall) : Except PyError TickRow :=
  let tsEpoch := (normalizeEpochSeconds readDate call.ts).getD (.finite call.now)
  match utcMicros tsEpoch with
  | none => .error (.valueError "year is out of range")
  | some time =>
      .ok (tickRow (isoText time) call.token call.lastPrice call.volume call.oi tsEpoch)

/-- `insert_tick`, when rows are written by a flusher. -/
def insertTick (memory : TickMemory) (store : Store) (call : TickCall) :
    Except PyError (TickMemory × Store) := do
  let row ← call.row readDate isoText
  pure (memory.record row, store.enqueueRow row)

end Insert

/-! ### Reading -/

/-- `msgs_last_min`: the window that is left, and its length. -/
def TickMemory.msgsLastMin (memory : TickMemory) (now : ℚ) : ℕ :=
  (memory.tickWindow.dropWhile fun time => (PyFloat.finite 60).lt (.finite now - time)).length

structure TickView where
  ltp : Option PyFloat
  tsEpoch : Option PyFloat
  source : String
deriving DecidableEq, Repr

def newer (left right : TickRow) : Bool := right.timestampEpoch.lt left.timestampEpoch

/-- `get_latest_tick_db` on the rows of the table: `ORDER BY timestamp_epoch DESC LIMIT 1` among
those of the token. -/
def getLatestTickDb (tokenColumn : PyValue → Option ℤ) (ticks : List TickRow) (token : ℤ) :
    Option TickView :=
  (Sorting.choose newer (ticks.filter fun row => tokenColumn row.instrumentToken = some token)).map
    fun row =>
      { ltp := (priceOf row.lastPrice).toOption.join
        tsEpoch := normalizeNumber row.timestampEpoch
        source := "sqlite" }

/-- `get_last_tick` of an integer token, with the memory before the table. -/
def getLastTick (tokenColumn : PyValue → Option ℤ) (memory : TickMemory) (ticks : List TickRow)
    (token : ℤ) : Option TickView :=
  match memory.lastTickByToken.lookup token with
  | some cached => some { ltp := cached.ltp, tsEpoch := some cached.tsEpoch, source := "memory" }
  | none => getLatestTickDb tokenColumn ticks token

/-! ### Runs -/

structure Feed where
  memory : TickMemory
  store : Store

/-- A call of `insert_tick`, or a move of a flusher. -/
inductive FeedEvent where
  | insertTick (call : TickCall)
  | flush (move : Move)

def Feed.start (flushers : ℕ) : Feed :=
  { memory := {}
    store := TickStore.start flushers }

def TickRow.token (row : TickRow) : Option ℤ := (toInt row.instrumentToken).toOption

def ofToken (rows : List TickRow) (token : ℤ) : List TickRow :=
  rows.filter fun row => row.token = some token

def Newest (rows : List TickRow) (epoch : PyFloat) : Prop :=
  epoch ∈ rows.map TickRow.timestampEpoch ∧ ∀ row ∈ rows, row.timestampEpoch.le epoch = true

def withinMinute (now : ℚ) (time : PyFloat) : Bool :=
  (PyFloat.finite now - time).abs.le (.finite 60)

structure Agrees (tokenColumn : PyValue → Option ℤ) (rows : List TickRow) (memory : TickMemory)
    (ticks : List TickRow) (now : ℚ) : Prop where
  unknown : ∀ token, ofToken rows token = [] →
    getLastTick tokenColumn memory ticks token = none ∧
      getLatestTickDb tokenColumn ticks token = none
  known : ∀ token, ofToken rows token ≠ [] → ∃ epoch cached stored,
    Newest (ofToken rows token) epoch ∧
      getLastTick tokenColumn memory ticks token = some cached ∧ cached.source = "memory" ∧
      cached.tsEpoch = some epoch ∧
      getLatestTickDb tokenColumn ticks token = some stored ∧ stored.tsEpoch = some epoch
  last : rows ≠ [] → ∃ epoch, Newest rows epoch ∧ memory.lastTickEpoch = some epoch
  count : memory.msgsLastMin now =
    min windowCapacity (rows.countP fun row => withinMinute now row.timestampEpoch)

def memoryOf (rows : List TickRow) : TickMemory := rows.foldl TickMemory.record {}

section InOrder

variable {tokenColumn : PyValue → Option ℤ} {rows : List TickRow} {now : ℚ}

theorem le_antisymm {left right : PyFloat} (less : left.le right = true)
    (more : right.le left = true) : left = right := by
  by_contra different
  rcases Bool.or_eq_true_iff.mp less with below | same
  · rw [PyFloat.not_lt_of_le more] at below
    cases below
  · cases left <;> cases right <;> simp_all [PyFloat.eq]

def Timed (rows : List TickRow) : Prop :=
  ∀ row ∈ rows, ∃ time : ℚ, row.timestampEpoch = .finite time

theorem Timed.number (timed : Timed rows) : ∀ row ∈ rows, row.timestampEpoch ≠ .nan := by
  intro row member
  obtain ⟨time, isTime⟩ := timed row member
  rw [isTime]
  exact PyFloat.noConfusion

theorem Timed.ofToken (timed : Timed rows) (token : ℤ) : Timed (ofToken rows token) :=
  fun row member => timed row (List.mem_of_mem_filter member)

end InOrder

/-! ### Whole runs -/

section Runs

variable (readDate : String → Option ℤ) (isoText : ℤ → String)

def FeedEvent.row : FeedEvent → Option TickRow
  | insertTick call => (call.row readDate isoText).toOption
  | flush _ => none

variable {readDate isoText}

structure Follows (rows : List TickRow) (feed : Feed) : Prop where
  memory : feed.memory = memoryOf rows
  store : Conserves rows feed.store
  timed : Timed rows

end Runs

/-! ### A tick in step, and a late one -/

def tickAt (seconds : ℚ) : TickCall :=
  { ts := .float (.finite seconds)
    token := .int 256265
    lastPrice := .float (.finite 100)
    volume := .none
    oi := .none
    now := 1767225600 }

def rowAt (seconds : ℚ) : TickRow :=
  tickRow "2026-01-01T00:00:00Z" (.int 256265) (.float (.finite 100)) .none .none (.finite seconds)

end Algotradify.Core.TickStore
