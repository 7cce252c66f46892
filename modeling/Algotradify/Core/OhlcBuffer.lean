/-
The buffer of one-minute bars: ticks update the latest bar or append one, and bars of another
source are appended as they are.

Times are wall clock times with the offset of their zone, in microseconds; the zone of the
exchange has one offset. What raises is swallowed, with what was changed before.

Bars over runs of ticks and seeded bars: their order, their prices, and the ticks that they
hold.

A buffer keeps them true as long as no tick comes for a minute before its latest bar, no price
is NaN, and the bars that seed it are well formed and later ones.
-/

import Algotradify.Py.Floats

namespace Algotradify.Core.OhlcBuffer

open Py

variable {price : PyFloat}

/-! ### Times -/

structure Stamp where
  wall : ℤ
  offset : ℤ
deriving DecidableEq, Repr

def Stamp.instant (stamp : Stamp) : ℤ := stamp.wall - stamp.offset

/-- `replace(second=0, microsecond=0)`. -/
def Stamp.minute (stamp : Stamp) : Stamp :=
  { stamp with wall := stamp.wall - stamp.wall % 60000000 }

/-- The offset of `IST_TZ`. -/
def istOffset : ℤ := 19800000000

def inYears (time : ℤ) : Bool :=
  decide (-62135596800000000 ≤ time ∧ time < 253402300800000000)

/-- `datetime.fromtimestamp(ts, tz=IST_TZ)`, if it does not raise. -/
def fromTimestamp : PyFloat → Option Stamp
  | .finite seconds =>
      let time := roundHalfEven (seconds * 1000000)
      if inYears time && inYears (time + istOffset) then
        some { wall := time + istOffset, offset := istOffset }
      else none
  | _ => none

inductive TickTime where
  | missing
  | number (value : PyFloat)
  | naive (wall : ℤ)
  | aware (stamp : Stamp)
  | other

def TickTime.stamp (now : Stamp) : TickTime → Option Stamp
  | .missing => some now
  | .number value => if value.truthy then fromTimestamp value else some now
  | .naive wall => some { wall := wall, offset := istOffset }
  | .aware stamp => some stamp
  | .other => none

/-! ### Bars -/

structure Bar where
  ts : Stamp
  openPrice : PyValue
  high : PyValue
  low : PyValue
  close : PyValue
  volume : PyValue

def number? : PyValue → Option PyFloat
  | .bool flag => some (.finite (if flag then 1 else 0))
  | .int value => some (.finite value)
  | .float value => some value
  | _ => none

/-- `max(held, price)`, if it does not raise. -/
def maxValue (held : PyValue) (price : PyFloat) : Option PyValue :=
  (number? held).map fun number => if number.lt price then .float price else held

/-- `min(held, price)`. -/
def minValue (held : PyValue) (price : PyFloat) : Option PyValue :=
  (number? held).map fun number => if price.lt number then .float price else held

/-- `bar["volume"] += volume or 0`. -/
def addVolume (bar : Bar) (volume : Option PyFloat) : Bar :=
  match volume, number? bar.volume with
  | some volume, some held => { bar with volume := .float (held + volume) }
  | _, _ => bar

def Bar.update (bar : Bar) (price : PyFloat) (volume : Option PyFloat) : Bar :=
  match maxValue bar.high price, minValue bar.low price with
  | none, _ => bar
  | some high, none => { bar with high := high }
  | some high, some low =>
      addVolume { bar with high := high, low := low, close := .float price } volume

def Bar.ofTick (ts : Stamp) (price : PyFloat) (volume : Option PyFloat) : Bar :=
  { ts := ts
    openPrice := .float price
    high := .float price
    low := .float price
    close := .float price
    volume := (volume.map PyValue.float).getD (.int 0) }

/-! ### The buffer of a symbol -/

/-- `append` to a deque of bounded length. -/
def push (maxLen : ℕ) (bars : List Bar) (bar : Bar) : List Bar :=
  (bars ++ [bar]).drop (bars.length + 1 - maxLen)

def tickBars (maxLen : ℕ) (bars : List Bar) (bucket : Stamp) (price : PyFloat)
    (volume : Option PyFloat) : List Bar :=
  match bars.getLast? with
  | none => push maxLen bars (.ofTick bucket price volume)
  | some last =>
      if last.ts.instant = bucket.instant then bars.dropLast ++ [last.update price volume]
      else push maxLen bars (.ofTick bucket price volume)

/-- The time of a seeded bar: `date` or `ts`, where a value without `replace` is read as an ISO
format and skipped if that fails. A text raises. -/
inductive SeedTime where
  | skipped
  | naive (wall : ℤ)
  | aware (stamp : Stamp)
  | text

structure Seed where
  time : SeedTime
  openPrice : PyValue
  high : PyValue
  low : PyValue
  close : PyValue
  volume : PyValue

def Seed.bar (seed : Seed) (stamp : Stamp) : Bar :=
  { ts := stamp.minute
    openPrice := seed.openPrice
    high := seed.high
    low := seed.low
    close := seed.close
    volume := seed.volume.or (.int 0) }

def seededBars : List Seed → List Bar
  | [] => []
  | seed :: rest =>
      match seed.time with
      | .skipped => seededBars rest
      | .text => []
      | .naive wall => seed.bar { wall := wall, offset := istOffset } :: seededBars rest
      | .aware stamp => seed.bar stamp :: seededBars rest

def seedBars (maxLen : ℕ) (bars : List Bar) (seeds : List Seed) : List Bar :=
  (seededBars seeds).foldl (push maxLen) bars

/-! ### Calls -/

/-- `self._bars`. -/
abbrev Buffers := List (String × List Bar)

def getBars (buffers : Buffers) (symbol : String) : List Bar :=
  (buffers.lookup symbol).getD []

structure Tick where
  symbol : String
  price : Option PyFloat
  volume : Option PyFloat
  ts : TickTime
  now : Stamp

def Tick.bucket (tick : Tick) : Option Stamp :=
  (tick.ts.stamp tick.now).map Stamp.minute

def updateTick (maxLen : ℕ) (buffers : Buffers) (tick : Tick) : Buffers :=
  match tick.price, tick.bucket with
  | some price, some bucket =>
      Assoc.set buffers tick.symbol
        (tickBars maxLen (getBars buffers tick.symbol) bucket price tick.volume)
  | _, _ => buffers

inductive BufferCall where
  | tick (tick : Tick)
  | seed (symbol : String) (seeds : List Seed)

def BufferCall.apply (maxLen : ℕ) (buffers : Buffers) : BufferCall → Buffers
  | .tick given => updateTick maxLen buffers given
  | .seed symbol seeds =>
      Assoc.set buffers symbol (seedBars maxLen (getBars buffers symbol) seeds)

def afterCalls (maxLen : ℕ) (calls : List BufferCall) : Buffers :=
  calls.foldl (BufferCall.apply maxLen) []

/-! ### Runs -/

def Bar.minute (bar : Bar) : ℤ := bar.ts.instant

structure Bar.Formed (bar : Bar) (opened high low close : PyFloat) : Prop where
  ofOpen : number? bar.openPrice = some opened
  ofHigh : number? bar.high = some high
  ofLow : number? bar.low = some low
  ofClose : number? bar.close = some close
  openAbove : low.le opened = true
  openBelow : opened.le high = true
  closeAbove : low.le close = true
  closeBelow : close.le high = true

def Bar.IsFormed (bar : Bar) : Prop :=
  ∃ opened high low close, bar.Formed opened high low close

def Bar.Holds (bar : Bar) (price : PyFloat) : Prop :=
  ∃ high low, number? bar.high = some high ∧ number? bar.low = some low ∧
    low.le price = true ∧ price.le high = true

/-! ### One bar -/

theorem number?_maxValue {held : PyValue} {number : PyFloat} (read : number? held = some number)
    (ofNumber : number ≠ .nan) (ofPrice : price ≠ .nan) :
    ∃ value greater, maxValue held price = some value ∧ number? value = some greater ∧
      number.le greater = true ∧ price.le greater = true := by
  unfold maxValue
  rw [read, Option.map_some]
  by_cases more : number.lt price = true
  · refine ⟨.float price, price, ?_, rfl, PyFloat.le_of_lt more, PyFloat.le_refl ofPrice⟩
    rw [if_pos more]
  · refine ⟨held, number, ?_, read, PyFloat.le_refl ofNumber, ?_⟩
    · rw [if_neg more]
    · exact PyFloat.le_of_not_lt ofPrice ofNumber more

theorem number?_minValue {held : PyValue} {number : PyFloat} (read : number? held = some number)
    (ofNumber : number ≠ .nan) (ofPrice : price ≠ .nan) :
    ∃ value lesser, minValue held price = some value ∧ number? value = some lesser ∧
      lesser.le number = true ∧ lesser.le price = true := by
  unfold minValue
  rw [read, Option.map_some]
  by_cases less : price.lt number = true
  · refine ⟨.float price, price, ?_, rfl, PyFloat.le_of_lt less, PyFloat.le_refl ofPrice⟩
    rw [if_pos less]
  · refine ⟨held, number, ?_, read, PyFloat.le_refl ofNumber, ?_⟩
    · rw [if_neg less]
    · exact PyFloat.le_of_not_lt ofNumber ofPrice less

theorem ne_nan_of_le {left right : PyFloat} (atMost : left.le right = true) :
    left ≠ .nan ∧ right ≠ .nan := by
  constructor
  · rintro rfl
    cases right <;> cases atMost
  · rintro rfl
    cases left <;> cases atMost

theorem addVolume_eq (bar : Bar) (volume : Option PyFloat) :
    (addVolume bar volume).ts = bar.ts ∧ (addVolume bar volume).openPrice = bar.openPrice ∧
      (addVolume bar volume).high = bar.high ∧ (addVolume bar volume).low = bar.low ∧
      (addVolume bar volume).close = bar.close := by
  unfold addVolume
  split <;> exact ⟨rfl, rfl, rfl, rfl, rfl⟩

/-- What an update does to a well-formed bar: it keeps its prices and takes the new one in. -/
structure Widens (before after : Bar) (price : PyFloat) : Prop where
  minute : after.minute = before.minute
  formed : after.IsFormed
  taken : after.Holds price
  kept : ∀ other, before.Holds other → after.Holds other

theorem Bar.Formed.widens {bar : Bar} {opened high low close : PyFloat}
    (formed : bar.Formed opened high low close) (number : price ≠ .nan) (volume : Option PyFloat) :
    Widens bar (bar.update price volume) price := by
  obtain ⟨highValue, newHigh, ofMax, readHigh, highUp, priceUp⟩ := number?_maxValue formed.ofHigh
    (ne_nan_of_le formed.openBelow).2 number
  obtain ⟨lowValue, newLow, ofMin, readLow, lowDown, priceDown⟩ := number?_minValue formed.ofLow
    (ne_nan_of_le formed.openAbove).1 number
  have updated : bar.update price volume =
      addVolume { bar with high := highValue, low := lowValue, close := .float price } volume := by
    unfold Bar.update
    rw [ofMax, ofMin]
  obtain ⟨ts, openPrice, highEq, lowEq, closeEq⟩ :=
    addVolume_eq { bar with high := highValue, low := lowValue, close := .float price } volume
  rw [← updated] at ts openPrice highEq lowEq closeEq
  have nowHigh : number? (bar.update price volume).high = some newHigh := by
    rw [highEq]
    exact readHigh
  have nowLow : number? (bar.update price volume).low = some newLow := by
    rw [lowEq]
    exact readLow
  constructor
  · unfold Bar.minute
    rw [ts]
  · refine ⟨opened, newHigh, newLow, price, ?_⟩
    constructor
    · rw [openPrice]
      exact formed.ofOpen
    · exact nowHigh
    · exact nowLow
    · rw [closeEq]
      rfl
    · exact PyFloat.le_trans lowDown formed.openAbove
    · exact PyFloat.le_trans formed.openBelow highUp
    · exact priceDown
    · exact priceUp
  · exact ⟨newHigh, newLow, nowHigh, nowLow, priceDown, priceUp⟩
  · intro other holds
    obtain ⟨oldHigh, oldLow, isHigh, isLow, aboveLow, belowHigh⟩ := holds
    cases Option.some.inj (isHigh.symm.trans formed.ofHigh)
    cases Option.some.inj (isLow.symm.trans formed.ofLow)
    exact ⟨newHigh, newLow, nowHigh, nowLow, PyFloat.le_trans lowDown aboveLow,
      PyFloat.le_trans belowHigh highUp⟩

theorem isFormed_ofTick (ts : Stamp) (number : price ≠ .nan) (volume : Option PyFloat) :
    (Bar.ofTick ts price volume).IsFormed := by
  have same := PyFloat.le_refl number
  exact ⟨price, price, price, price, rfl, rfl, rfl, rfl, same, same, same, same⟩

theorem holds_ofTick (ts : Stamp) (number : price ≠ .nan) (volume : Option PyFloat) :
    (Bar.ofTick ts price volume).Holds price :=
  ⟨price, price, rfl, rfl, PyFloat.le_refl number, PyFloat.le_refl number⟩

/-! ### One buffer -/

section Push

variable {maxLen : ℕ} {bars : List Bar} {bar : Bar}

theorem push_sublist : (push maxLen bars bar).Sublist (bars ++ [bar]) :=
  List.drop_sublist _ _

theorem getLast?_push {last : Bar} (isLast : (push maxLen bars bar).getLast? = some last) :
    last = bar := by
  unfold push at isLast
  rw [List.getLast?_drop] at isLast
  split at isLast
  · cases isLast
  · rw [List.getLast?_concat] at isLast
    exact (Option.some.inj isLast).symm

theorem push_eq_nil (empty : push maxLen bars bar = []) : maxLen = 0 := by
  unfold push at empty
  rw [List.drop_eq_nil_iff, List.length_append, List.length_singleton] at empty
  omega

end Push

/-- The bars of a buffer with the minutes and prices of the ticks that it has taken. -/
structure Kept (maxLen : ℕ) (bars : List Bar) (ticks : List (ℤ × PyFloat)) : Prop where
  ordered : bars.Pairwise fun before after => before.minute < after.minute
  formed : ∀ bar ∈ bars, bar.IsFormed
  inside : ∀ tick ∈ ticks, ∀ bar ∈ bars, bar.minute = tick.1 → bar.Holds tick.2
  latest : ∀ tick ∈ ticks, ∀ last, bars.getLast? = some last → tick.1 ≤ last.minute
  started : bars = [] → maxLen = 0 ∨ ticks = []

section Kept

variable {maxLen : ℕ} {bars : List Bar} {ticks : List (ℤ × PyFloat)}

theorem Kept.le_last (kept : Kept maxLen bars ticks) {last : Bar}
    (isLast : bars.getLast? = some last) {bar : Bar} (member : bar ∈ bars) :
    bar.minute ≤ last.minute := by
  have ordered := kept.ordered
  obtain ⟨front, rfl⟩ := List.getLast?_eq_some_iff.mp isLast
  rcases List.mem_append.mp member with old | new
  · exact le_of_lt ((List.pairwise_append.mp ordered).2.2 bar old last (List.mem_singleton_self _))
  · rw [List.mem_singleton.mp new]

theorem Kept.before (kept : Kept maxLen bars ticks) {minute : ℤ}
    (later : ∀ last, bars.getLast? = some last → last.minute < minute) {earlier : Bar}
    (member : earlier ∈ bars) : earlier.minute < minute := by
  cases isLast : bars.getLast? with
  | none =>
      rw [List.getLast?_eq_none_iff.mp isLast] at member
      cases member
  | some last => exact lt_of_le_of_lt (kept.le_last isLast member) (later last isLast)

theorem Kept.push (kept : Kept maxLen bars ticks) {bar : Bar} (formed : bar.IsFormed)
    (later : ∀ last, bars.getLast? = some last → last.minute < bar.minute) :
    Kept maxLen (push maxLen bars bar) ticks := by
  have ticked : ∀ tick ∈ ticks, OhlcBuffer.push maxLen bars bar ≠ [] → tick.1 < bar.minute := by
    intro tick member some
    cases isLast : bars.getLast? with
    | none =>
        rcases kept.started (List.getLast?_eq_none_iff.mp isLast) with zero | none
        · refine absurd ?_ some
          subst zero
          unfold OhlcBuffer.push
          rw [List.drop_eq_nil_iff, List.length_append, List.length_singleton]
          omega
        · rw [none] at member
          cases member
    | some last => exact lt_of_le_of_lt (kept.latest tick member last isLast) (later last isLast)
  constructor
  · apply List.Pairwise.sublist push_sublist
    rw [List.pairwise_append]
    refine ⟨kept.ordered, List.pairwise_singleton _ _, ?_⟩
    intro earlier member own same
    rw [List.mem_singleton.mp same]
    exact kept.before later member
  · intro own member
    rcases List.mem_append.mp (push_sublist.mem member) with old | new
    · exact kept.formed own old
    · rw [List.mem_singleton.mp new]
      exact formed
  · intro tick present own member same
    rcases List.mem_append.mp (push_sublist.mem member) with old | new
    · exact kept.inside tick present own old same
    · rw [List.mem_singleton.mp new] at same
      have early := ticked tick present (List.ne_nil_of_mem member)
      omega
  · intro tick present last isLast
    have some : OhlcBuffer.push maxLen bars bar ≠ [] := by
      intro empty
      rw [empty] at isLast
      cases isLast
    rw [getLast?_push isLast]
    exact le_of_lt (ticked tick present some)
  · intro empty
    exact .inl (push_eq_nil empty)

theorem Kept.replaceLast (kept : Kept maxLen bars ticks) {last after : Bar}
    (isLast : bars.getLast? = some last) (widens : Widens last after price) :
    Kept maxLen (bars.dropLast ++ [after]) (ticks ++ [(last.minute, price)]) := by
  obtain ⟨front, rfl⟩ := List.getLast?_eq_some_iff.mp isLast
  rw [List.dropLast_concat]
  have ends := List.mem_append_right front (List.mem_singleton_self last)
  have front_before : ∀ bar ∈ front, bar.minute < last.minute := by
    intro bar member
    exact (List.pairwise_append.mp kept.ordered).2.2 bar member last (List.mem_singleton_self _)
  constructor
  · rw [List.pairwise_append]
    refine ⟨(List.pairwise_append.mp kept.ordered).1, List.pairwise_singleton _ _, ?_⟩
    intro bar member own same
    rw [List.mem_singleton.mp same, widens.minute]
    exact front_before bar member
  · intro bar member
    rcases List.mem_append.mp member with old | new
    · exact kept.formed bar (List.mem_append_left _ old)
    · rw [List.mem_singleton.mp new]
      exact widens.formed
  · intro tick present bar member same
    rcases List.mem_append.mp member with old | new
    · rcases List.mem_append.mp present with earlier | own
      · exact kept.inside tick earlier bar (List.mem_append_left _ old) same
      · have less := front_before bar old
        rw [List.mem_singleton.mp own] at same
        change bar.minute = last.minute at same
        omega
    · rw [List.mem_singleton.mp new] at same ⊢
      rcases List.mem_append.mp present with earlier | own
      · rw [widens.minute] at same
        exact widens.kept _ (kept.inside tick earlier last ends same)
      · rw [List.mem_singleton.mp own]
        exact widens.taken
  · intro tick present other isOther
    rw [List.getLast?_concat] at isOther
    rw [← Option.some.inj isOther, widens.minute]
    rcases List.mem_append.mp present with earlier | own
    · exact kept.latest tick earlier last isLast
    · rw [List.mem_singleton.mp own]
  · intro empty
    simp at empty

theorem Kept.tick (kept : Kept maxLen bars ticks) {bucket : Stamp} (number : price ≠ .nan)
    (later : ∀ last, bars.getLast? = some last → last.minute ≤ bucket.instant)
    (volume : Option PyFloat) :
    Kept maxLen (tickBars maxLen bars bucket price volume) (ticks ++ [(bucket.instant, price)]) := by
  have appended (after : ∀ last, bars.getLast? = some last → last.minute < bucket.instant) :
      Kept maxLen (OhlcBuffer.push maxLen bars (.ofTick bucket price volume))
        (ticks ++ [(bucket.instant, price)]) := by
    have pushed := kept.push (isFormed_ofTick bucket number volume) after
    constructor
    · exact pushed.ordered
    · exact pushed.formed
    · intro tick present bar member same
      rcases List.mem_append.mp present with old | new
      · exact pushed.inside tick old bar member same
      · rw [List.mem_singleton.mp new] at same ⊢
        rcases List.mem_append.mp (push_sublist.mem member) with earlier | own
        · have less := kept.before after earlier
          change bar.minute = bucket.instant at same
          omega
        · rw [List.mem_singleton.mp own]
          exact holds_ofTick bucket number volume
    · intro tick present last isLast
      rcases List.mem_append.mp present with old | new
      · exact pushed.latest tick old last isLast
      · rw [List.mem_singleton.mp new, getLast?_push isLast]
        exact le_refl _
    · intro empty
      exact .inl (push_eq_nil empty)
  unfold tickBars
  cases isLast : bars.getLast? with
  | none =>
      simp only
      apply appended
      intro last impossible
      rw [isLast] at impossible
      cases impossible
  | some last =>
      simp only
      have atMost := later last isLast
      by_cases same : last.ts.instant = bucket.instant
      · rw [if_pos same, ← same]
        obtain ⟨opened, high, low, close, formed⟩ :=
          kept.formed last (List.mem_of_getLast? isLast)
        exact kept.replaceLast isLast (formed.widens number volume)
      · rw [if_neg same]
        apply appended
        intro other isOther
        rw [← Option.some.inj (isLast.symm.trans isOther)]
        exact lt_of_le_of_ne atMost same

end Kept

/-! ### Runs -/

def BufferCall.taken (symbol : String) : BufferCall → Option (ℤ × PyFloat)
  | .tick given =>
      if given.symbol = symbol then
        given.price.bind fun price => given.bucket.map fun bucket => (bucket.instant, price)
      else none
  | .seed _ _ => none

def takenTicks (symbol : String) (calls : List BufferCall) : List (ℤ × PyFloat) :=
  calls.filterMap (BufferCall.taken symbol)

/-- The bars of every symbol are in order and well formed, and hold the prices of the ticks of
their minutes. -/
structure BarsSound (maxLen : ℕ) (calls : List BufferCall) (symbol : String) : Prop where
  ordered : (getBars (afterCalls maxLen calls) symbol).Pairwise
    fun before after => before.minute < after.minute
  formed : ∀ bar ∈ getBars (afterCalls maxLen calls) symbol, bar.IsFormed
  inside : ∀ tick ∈ takenTicks symbol calls,
    ∀ bar ∈ getBars (afterCalls maxLen calls) symbol, bar.minute = tick.1 → bar.Holds tick.2

/-- A tick has a number for its price and no minute before the latest bar, and seeded bars are
well formed and later than the latest bar, one after the other. -/
def InOrder (buffers : Buffers) : BufferCall → Prop
  | .tick given => ∀ price bucket, given.price = some price → given.bucket = some bucket →
      price ≠ .nan ∧ ∀ last, (getBars buffers given.symbol).getLast? = some last →
        last.minute ≤ bucket.instant
  | .seed symbol seeds => (∀ bar ∈ seededBars seeds, bar.IsFormed) ∧
      ((getBars buffers symbol).getLast?.toList ++ seededBars seeds).Pairwise
        fun before after => before.minute < after.minute

theorem Kept.seeds {maxLen : ℕ} {bars : List Bar} {ticks : List (ℤ × PyFloat)}
    (kept : Kept maxLen bars ticks) {added : List Bar} (formed : ∀ bar ∈ added, bar.IsFormed)
    (ordered : (bars.getLast?.toList ++ added).Pairwise
      fun before after => before.minute < after.minute) :
    Kept maxLen (added.foldl (OhlcBuffer.push maxLen) bars) ticks := by
  induction added generalizing bars with
  | nil => exact kept
  | cons bar rest ih =>
      have parts := List.pairwise_append.mp ordered
      have tail := List.pairwise_cons.mp parts.2.1
      have later : ∀ last, bars.getLast? = some last → last.minute < bar.minute := by
        intro last isLast
        exact parts.2.2 last (by simp [isLast]) bar List.mem_cons_self
      apply ih (kept.push (formed bar List.mem_cons_self) later)
      · intro own member
        exact formed own (List.mem_cons_of_mem bar member)
      · rw [List.pairwise_append]
        refine ⟨?_, tail.2, ?_⟩
        · cases (OhlcBuffer.push maxLen bars bar).getLast? with
          | none => exact List.Pairwise.nil
          | some last => exact List.pairwise_singleton _ _
        · intro last isLast own member
          rw [getLast?_push (Option.mem_toList.mp isLast)]
          exact tail.1 own member

theorem getBars_set (buffers : Buffers) (symbol other : String) (bars : List Bar) :
    getBars (Assoc.set buffers symbol bars) other =
      if other = symbol then bars else getBars buffers other := by
  unfold getBars
  rw [Assoc.lookup_set]
  split <;> rfl

theorem kept_apply {maxLen : ℕ} {buffers : Buffers} {call : BufferCall} {symbol : String}
    {ticks : List (ℤ × PyFloat)} (kept : Kept maxLen (getBars buffers symbol) ticks)
    (inOrder : InOrder buffers call) :
    Kept maxLen (getBars (call.apply maxLen buffers) symbol)
      (ticks ++ (call.taken symbol).toList) := by
  cases call with
  | seed own seeds =>
      change Kept maxLen (getBars (Assoc.set buffers own _) symbol) (ticks ++ [])
      rw [List.append_nil, getBars_set]
      by_cases same : symbol = own
      · subst same
        rw [if_pos rfl]
        exact kept.seeds inOrder.1 inOrder.2
      · rw [if_neg same]
        exact kept
  | tick given =>
      change Kept maxLen (getBars (updateTick maxLen buffers given) symbol) _
      have unchanged (same : updateTick maxLen buffers given = buffers)
          (none : (BufferCall.tick given).taken symbol = none) :
          Kept maxLen (getBars (updateTick maxLen buffers given) symbol)
            (ticks ++ ((BufferCall.tick given).taken symbol).toList) := by
        rw [same, none, Option.toList_none, List.append_nil]
        exact kept
      cases isPrice : given.price with
      | none =>
          apply unchanged
          · simp only [updateTick, isPrice]
          · simp [BufferCall.taken, isPrice]
      | some price =>
          cases isBucket : given.bucket with
          | none =>
              apply unchanged
              · simp only [updateTick, isPrice, isBucket]
              · simp [BufferCall.taken, isPrice, isBucket]
          | some bucket =>
              have updated : updateTick maxLen buffers given =
                  Assoc.set buffers given.symbol (tickBars maxLen
                    (getBars buffers given.symbol) bucket price given.volume) := by
                simp only [updateTick, isPrice, isBucket]
              rw [updated, getBars_set]
              by_cases same : symbol = given.symbol
              · subst same
                have taken : (BufferCall.tick given).taken given.symbol =
                    some (bucket.instant, price) := by
                  simp [BufferCall.taken, isPrice, isBucket]
                rw [if_pos rfl, taken]
                obtain ⟨number, later⟩ := inOrder price bucket isPrice isBucket
                exact kept.tick number later given.volume
              · have other : (BufferCall.tick given).taken symbol = none := by
                  simp only [BufferCall.taken, isPrice, isBucket]
                  exact if_neg fun equal => same equal.symm
                rw [if_neg same, other, Option.toList_none, List.append_nil]
                exact kept

theorem kept_afterCalls (maxLen : ℕ) (symbol : String) (calls : List BufferCall)
    (inOrder : ∀ earlier call later, calls = earlier ++ call :: later →
      InOrder (afterCalls maxLen earlier) call) :
    Kept maxLen (getBars (afterCalls maxLen calls) symbol) (takenTicks symbol calls) := by
  induction calls using List.reverseRecOn with
  | nil =>
      constructor
      · exact List.Pairwise.nil
      · intro bar impossible
        cases impossible
      · intro tick impossible
        cases impossible
      · intro tick impossible
        cases impossible
      · intro _
        exact .inr rfl
  | append_singleton calls call ih =>
      have before := ih (by
        intro earlier own later split
        apply inOrder earlier own (later ++ [call])
        rw [split, List.append_assoc]
        rfl)
      have after := kept_apply before (inOrder calls call [] rfl)
      have ticks : takenTicks symbol (calls ++ [call]) =
          takenTicks symbol calls ++ (call.taken symbol).toList := by
        unfold takenTicks
        rw [List.filterMap_append]
        cases held : call.taken symbol <;> simp [held]
      have state : afterCalls maxLen (calls ++ [call]) =
          call.apply maxLen (afterCalls maxLen calls) := by
        unfold afterCalls
        rw [List.foldl_append]
        rfl
      rw [ticks, state]
      exact after

/-- In a run whose calls come in order, the bars of every symbol are sound in every state. -/
theorem bars_sound_of_inOrder (maxLen : ℕ) (calls : List BufferCall)
    (inOrder : ∀ earlier call later, calls = earlier ++ call :: later →
      InOrder (afterCalls maxLen earlier) call) :
    ∀ earlier later, calls = earlier ++ later → ∀ symbol, BarsSound maxLen earlier symbol := by
  intro earlier later split symbol
  have kept := kept_afterCalls maxLen symbol earlier (by
    intro front call back inner
    apply inOrder front call (back ++ later)
    rw [split, inner, List.append_assoc]
    rfl)
  exact ⟨kept.ordered, kept.formed, kept.inside⟩

private def tickAt (minute : ℤ) (price : ℚ) : BufferCall :=
  .tick
    { symbol := "NIFTY"
      price := some (.finite price)
      volume := none
      ts := .aware { wall := minute * 60000000, offset := 0 }
      now := { wall := 0, offset := 0 } }

/-- Two ticks of one minute. -/
theorem bars_sound_of_inOrder_minute :
    BarsSound 500 [tickAt 1 100, tickAt 1 101] "NIFTY" := by
  refine bars_sound_of_inOrder 500 [tickAt 1 100, tickAt 1 101] ?_ _ [] rfl "NIFTY"
  intro earlier call later split
  rcases earlier with _ | ⟨first, _ | ⟨second, rest⟩⟩
  · obtain ⟨rfl, -⟩ := List.cons.inj split
    intro price bucket isPrice isBucket
    cases Option.some.inj isPrice
    refine ⟨by simp, ?_⟩
    intro last impossible
    cases impossible
  · obtain ⟨rfl, tail⟩ := List.cons.inj split
    obtain ⟨rfl, -⟩ := List.cons.inj tail
    intro price bucket isPrice isBucket
    cases Option.some.inj isPrice
    cases Option.some.inj isBucket
    refine ⟨by simp, ?_⟩
    intro last isLast
    have minute : ((getBars (afterCalls 500 [tickAt 1 100]) "NIFTY").getLast?).map Bar.minute =
        some 60000000 := rfl
    change (getBars (afterCalls 500 [tickAt 1 100]) "NIFTY").getLast? = some last at isLast
    rw [isLast] at minute
    rw [Option.some.inj minute]
    decide
  · simp at split

/-- A tick that comes late is put behind the bar of a later minute. -/
theorem late_tick_behind : ¬ ∀ (maxLen : ℕ) (calls : List BufferCall) (symbol : String),
    BarsSound maxLen calls symbol := by
  intro sound
  have ordered := List.pairwise_map.mpr
    (sound 500 [tickAt 2 100, tickAt 1 101] "NIFTY").ordered
  have minutes : (getBars (afterCalls 500 [tickAt 2 100, tickAt 1 101]) "NIFTY").map Bar.minute =
      [120000000, 60000000] := rfl
  rw [minutes] at ordered
  exact absurd ordered (by decide)

end Algotradify.Core.OhlcBuffer
