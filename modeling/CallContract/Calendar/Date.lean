import CallContract.Text.Digit

/-!
# Date — days of the proleptic Gregorian calendar

A date lies in one of the years 1 to 9999.  Days are also counted: the first day of year 1 has ordinal 1.
-/

namespace CallContract.Calendar

open CallContract.Text

/-- A number in decimal, padded with zeros to `width`. -/
def padded (width n : Nat) : List Char :=
  let digits := natDigits n
  List.replicate (width - digits.length) '0' ++ digits

def isLeap (year : Nat) : Bool := year % 4 = 0 && (year % 100 ≠ 0 || year % 400 = 0)

def daysInMonth (year month : Nat) : Nat :=
  if month = 2 then if isLeap year then 29 else 28
  else if month = 4 ∨ month = 6 ∨ month = 9 ∨ month = 11 then 30
  else 31

structure Date where
  year : Nat
  month : Nat
  day : Nat
  valid : 1 ≤ year ∧ year ≤ 9999 ∧ 1 ≤ month ∧ month ≤ 12 ∧ 1 ≤ day ∧ day ≤ daysInMonth year month
  deriving DecidableEq

namespace Date

/-- The date with the given parts, if there is one. -/
def ofParts? (year month day : Nat) : Option Date :=
  if h : 1 ≤ year ∧ year ≤ 9999 ∧ 1 ≤ month ∧ month ≤ 12 ∧ 1 ≤ day ∧ day ≤ daysInMonth year month then
    some ⟨year, month, day, h⟩
  else none

@[simp] theorem ofParts?_self (d : Date) : ofParts? d.year d.month d.day = some d := by
  simp [ofParts?, d.valid]

/-! ## Counting days -/

def daysBeforeYear (year : Nat) : Nat :=
  let y := year - 1
  365 * y + y / 4 - y / 100 + y / 400

/-- The number of days of a year before a month. -/
def daysBeforeMonth (year : Nat) : Nat → Nat
  | 0 => 0
  | 1 => 0
  | month + 1 => daysBeforeMonth year month + daysInMonth year month

-- The day of the year, counted from 1.
def dayOfYear (d : Date) : Nat := daysBeforeMonth d.year d.month + d.day

-- The count of days up to and including the date.
def ordinal (d : Date) : Nat := daysBeforeYear d.year + d.dayOfYear

-- The weekday, Monday being 0.
def weekday (d : Date) : Nat := (d.ordinal + 6) % 7

/-- The year that holds the day with an ordinal, by cycles of 400, 100, 4 years and one. -/
def yearOfOrdinal (ordinal : Nat) : Nat :=
  let n := ordinal - 1
  let r := n % 146097
  let centuries := min (r / 36524) 3
  let r4 := r - centuries * 36524
  let quads := r4 / 1461
  let r1 := r4 % 1461
  let years := min (r1 / 365) 3
  400 * (n / 146097) + 100 * centuries + 4 * quads + years + 1

/-- The month and day of a day of a year; `left` months are still to be tried after `month`. -/
def monthDayFrom (year month day : Nat) : Nat → Nat × Nat
  | 0 => (month, day)
  | left + 1 =>
    let days := daysInMonth year month
    if day ≤ days then (month, day) else monthDayFrom year (month + 1) (day - days) left

def monthDay (year dayOfYear : Nat) : Nat × Nat := monthDayFrom year 1 dayOfYear 11

/-- The date with an ordinal; `none` outside of the years 1 to 9999. -/
def ofOrdinal? (ordinal : Int) : Option Date :=
  if ordinal < 1 then none
  else
    let year := yearOfOrdinal ordinal.toNat
    let (month, day) := monthDay year (ordinal.toNat - daysBeforeYear year)
    ofParts? year month day

-- The date that is a number of days later.
def addDays? (d : Date) (days : Int) : Option Date := ofOrdinal? (d.ordinal + days)

/-- The date of a day of a week of a year: week 1 holds the fourth of January, and day 1 is Monday. -/
def ofWeek? (year week day : Nat) : Option Date := do
  let jan4 ← ofParts? year 1 4
  let monday ← jan4.addDays? (-(jan4.weekday : Int))
  monday.addDays? ((week - 1) * 7 + (day - 1) : Nat)

/-! ## Writing -/

/-- Year, month and day with leading zeros and hyphens between. -/
def toText (d : Date) : List Char :=
  padded 4 d.year ++ '-' :: padded 2 d.month ++ '-' :: padded 2 d.day

end Date

end CallContract.Calendar
