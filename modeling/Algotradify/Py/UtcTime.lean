/-
UTC times with microseconds: their ISO texts, the reading of these texts, and what the
order of the texts says about the order of the times.

The text leaves out a fraction that is zero. A whole second then ends with the letter of
the zone, which stands behind the point of a fraction.
-/

import Mathlib.Data.String.Basic
import Algotradify.Sorting.FixedWidth

namespace Algotradify.Py

open Sorting

/-! ### Times -/

structure DateTime where
  year : ℕ
  month : ℕ
  day : ℕ
  hour : ℕ
  minute : ℕ
  second : ℕ
  microsecond : ℕ
deriving DecidableEq

def isLeap (year : ℕ) : Bool :=
  year % 4 = 0 && (year % 100 != 0 || year % 400 = 0)

def daysInMonth (year month : ℕ) : ℕ :=
  if month = 2 then if isLeap year then 29 else 28
  else if month ∈ [4, 6, 9, 11] then 30
  else 31

def DateTime.isValid (time : DateTime) : Bool :=
  1 ≤ time.year && time.year ≤ 9999 && 1 ≤ time.month && time.month ≤ 12 && 1 ≤ time.day &&
    time.day ≤ daysInMonth time.year time.month && time.hour < 24 && time.minute < 60 &&
    time.second < 60 && time.microsecond < 1000000

structure UtcTime where
  fields : DateTime
  valid : fields.isValid = true
deriving DecidableEq

namespace UtcTime

def secondFields (time : UtcTime) : List ℕ :=
  [time.fields.year, time.fields.month, time.fields.day, time.fields.hour, time.fields.minute,
    time.fields.second]

def key (time : UtcTime) : List ℕ :=
  time.secondFields ++ [time.fields.microsecond]

def AtMost (first second : UtcTime) : Prop :=
  first.key ≤ second.key

theorem ranges (time : UtcTime) : time.fields.year < 10 ^ 4 ∧ time.fields.month < 10 ^ 2 ∧
    time.fields.day < 10 ^ 2 ∧ time.fields.hour < 10 ^ 2 ∧ time.fields.minute < 10 ^ 2 ∧
    time.fields.second < 10 ^ 2 ∧ time.fields.microsecond < 10 ^ 6 := by
  have valid := time.valid
  simp only [DateTime.isValid, Bool.and_eq_true, decide_eq_true_eq] at valid
  have days : daysInMonth time.fields.year time.fields.month ≤ 31 := by
    unfold daysInMonth
    split
    · split <;> omega
    split <;> omega
  omega

/-! ### Texts -/

/-- `YYYY-MM-DDTHH:MM:SS`, before what follows. -/
def stamp (time : DateTime) (rest : List Char) : List Char :=
  fixedWidth 4 time.year ++ '-' :: (fixedWidth 2 time.month ++ '-' :: (fixedWidth 2 time.day ++
    'T' :: (fixedWidth 2 time.hour ++ ':' :: (fixedWidth 2 time.minute ++
      ':' :: (fixedWidth 2 time.second ++ rest)))))

def fraction (time : DateTime) : List Char :=
  if time.microsecond = 0 then [] else '.' :: fixedWidth 6 time.microsecond

def zone : List Char := "+00:00".toList

def isoformat (time : UtcTime) : List Char :=
  stamp time.fields (fraction time.fields ++ zone)

/-- `ts.isoformat().replace("+00:00", "Z")`. -/
def text (time : UtcTime) : String :=
  String.ofList (stamp time.fields (fraction time.fields ++ ['Z']))

def takeFraction : List Char → Option (ℕ × List Char)
  | '.' :: rest => takeNumber 6 rest
  | rest => some (0, rest)

/-- `datetime.fromisoformat`, for the texts that `isoformat` writes of a time in UTC. -/
def fromIsoformat (chars : List Char) : Option UtcTime := do
  let (year, rest) ← takeNumber 4 chars
  let rest ← takeChar '-' rest
  let (month, rest) ← takeNumber 2 rest
  let rest ← takeChar '-' rest
  let (day, rest) ← takeNumber 2 rest
  let rest ← takeChar 'T' rest
  let (hour, rest) ← takeNumber 2 rest
  let rest ← takeChar ':' rest
  let (minute, rest) ← takeNumber 2 rest
  let rest ← takeChar ':' rest
  let (second, rest) ← takeNumber 2 rest
  let (microsecond, rest) ← takeFraction rest
  let fields : DateTime :=
    { year := year
      month := month
      day := day
      hour := hour
      minute := minute
      second := second
      microsecond := microsecond }
  if proper : rest = zone ∧ fields.isValid = true then
    some { fields := fields, valid := proper.2 }
  else none

theorem takeFraction_fraction (time : UtcTime) :
    takeFraction (fraction time.fields ++ zone) = some (time.fields.microsecond, zone) := by
  unfold fraction
  by_cases whole : time.fields.microsecond = 0
  · rw [if_pos whole, whole]
    rfl
  · rw [if_neg whole]
    exact takeNumber_fixedWidth time.ranges.2.2.2.2.2.2 zone

theorem fromIsoformat_isoformat (time : UtcTime) : fromIsoformat time.isoformat = some time := by
  obtain ⟨year, month, day, hour, minute, second, _⟩ := time.ranges
  unfold fromIsoformat isoformat stamp
  simp only [takeNumber_fixedWidth, takeChar_cons, takeFraction_fraction, year, month, day, hour,
    minute, second, Option.bind_eq_bind, Option.bind_some]
  exact dif_pos ⟨trivial, time.valid⟩

/-! ### Order -/

/-- Where a fraction stands among the texts of one second: a whole second comes last. -/
def textRank (time : UtcTime) : ℕ :=
  if time.fields.microsecond = 0 then 1000000 else time.fields.microsecond

theorem fraction_lt_iff (first second : UtcTime) :
    fraction first.fields ++ ['Z'] < fraction second.fields ++ ['Z'] ↔
      first.textRank < second.textRank := by
  have low := first.ranges.2.2.2.2.2.2
  have high := second.ranges.2.2.2.2.2.2
  have letter : '.' < 'Z' := by decide
  unfold fraction textRank
  by_cases whole : first.fields.microsecond = 0
  · by_cases other : second.fields.microsecond = 0
    · simp [whole, other]
    · rw [if_pos whole, if_neg other, if_pos whole, if_neg other, List.nil_append,
        List.cons_append, List.cons_lt_cons_iff]
      have apart : ¬ 'Z' < '.' := by decide
      have different : 'Z' ≠ '.' := by decide
      simp only [apart, different, false_and, or_self, false_iff]
      omega
  · by_cases other : second.fields.microsecond = 0
    · rw [if_neg whole, if_pos other, if_neg whole, if_pos other, List.nil_append,
        List.cons_append, List.cons_lt_cons_iff]
      simp only [letter, true_or, true_iff]
      omega
    · rw [if_neg whole, if_neg other, if_neg whole, if_neg other, List.cons_append,
        List.cons_append, separator_lt_iff, block_lt_iff low high]
      have irrefl := List.lt_irrefl ['Z']
      simp only [irrefl, and_false, or_false]

theorem text_lt_iff (first second : UtcTime) :
    first.text < second.text ↔
      first.secondFields ++ [first.textRank] < second.secondFields ++ [second.textRank] := by
  obtain ⟨year, month, day, hour, minute, fullSecond, _⟩ := first.ranges
  obtain ⟨year', month', day', hour', minute', fullSecond', _⟩ := second.ranges
  unfold text stamp secondFields
  rw [String.lt_iff_toList_lt, String.toList_ofList, String.toList_ofList,
    block_lt_iff year year', separator_lt_iff, block_lt_iff month month', separator_lt_iff,
    block_lt_iff day day', separator_lt_iff, block_lt_iff hour hour', separator_lt_iff,
    block_lt_iff minute minute', separator_lt_iff, block_lt_iff fullSecond fullSecond',
    fraction_lt_iff]
  simp only [List.cons_append, List.nil_append, List.cons_lt_cons_iff, List.lt_irrefl, and_false,
    or_false]

structure SplitsSecond (whole within : UtcTime) : Prop where
  same : whole.secondFields = within.secondFields
  isWhole : whole.fields.microsecond = 0
  isWithin : within.fields.microsecond ≠ 0

theorem SplitsSecond.reversed {whole within : UtcTime} (splits : SplitsSecond whole within) :
    ¬within.AtMost whole ∧ within.text < whole.text := by
  have below := within.ranges.2.2.2.2.2.2
  constructor
  · unfold AtMost key
    rw [not_le, splits.same, append_lt_append rfl]
    refine .inr ⟨rfl, ?_⟩
    rw [List.cons_lt_cons_iff, splits.isWhole]
    exact .inl (Nat.pos_of_ne_zero splits.isWithin)
  · rw [text_lt_iff, splits.same, append_lt_append rfl]
    refine .inr ⟨rfl, ?_⟩
    unfold textRank
    rw [if_pos splits.isWhole, if_neg splits.isWithin, List.cons_lt_cons_iff]
    exact .inl below

theorem atMost_of_text_le {first second : UtcTime} (ordered : first.text ≤ second.text)
    (unsplit : ¬SplitsSecond second first) : first.AtMost second := by
  have length : second.secondFields.length = first.secondFields.length := rfl
  have notLess : ¬second.text < first.text := not_lt.mpr ordered
  rw [text_lt_iff, append_lt_append length] at notLess
  unfold AtMost key
  rw [← not_lt, append_lt_append length]
  rintro (earlier | ⟨same, earlier⟩)
  · exact notLess (.inl earlier)
  · apply notLess
    refine .inr ⟨same, ?_⟩
    rw [List.cons_lt_cons_iff] at earlier ⊢
    have less : second.fields.microsecond < first.fields.microsecond := by
      simpa using earlier
    have fractional : second.fields.microsecond ≠ 0 :=
      fun whole => unsplit ⟨same, whole, by omega⟩
    unfold textRank
    rw [if_neg fractional, if_neg (by omega)]
    exact .inl less

end UtcTime

end Algotradify.Py
