import CallContract.Calendar.TimeOfDay

/-!
# ZoneRules — the offsets of a region through time

A region starts with its local mean time, changes its offset at listed instants, and may then alternate every year
between standard and daylight time.  Instants are seconds since the start of 1970 in universal time, offsets are
seconds east of Greenwich.
-/

namespace CallContract.Calendar

/-- A day of each year, the `week`-th of its weekday in the month or the last one for week 5, Sunday being 0, and
the second of that day by the clock then in force. -/
structure YearlyChange where
  month : Nat
  week : Nat
  weekday : Nat
  second : Int
  deriving DecidableEq

/-- The yearly alternation of two offsets. -/
structure YearlyRule where
  standard : Int
  daylight : Int
  begins : YearlyChange
  ends : YearlyChange
  deriving DecidableEq

/-- The offset at the beginning, the changes as instants with the offset from then on, and what happens after the
last one. -/
structure ZoneRules where
  initial : Int
  changes : List (Int × Int)
  yearly? : Option YearlyRule
  deriving DecidableEq

-- The ordinal of the first day of 1970.
def epochOrdinal : Int := 719163

namespace YearlyChange

/-- The day of the month on which the change falls. -/
def dayIn (c : YearlyChange) (year : Nat) : Nat :=
  let firstWeekday := (Date.daysBeforeYear year + Date.daysBeforeMonth year c.month + 1) % 7
  let day := 1 + (c.weekday + 7 - firstWeekday) % 7 + 7 * (c.week - 1)
  if daysInMonth year c.month < day then day - 7 else day

/-- The change in a year, in seconds of the clock then in force since the start of 1970. -/
def wallSecond (c : YearlyChange) (year : Nat) : Int :=
  let ordinal := Date.daysBeforeYear year + Date.daysBeforeMonth year c.month + c.dayIn year
  ((ordinal : Int) - epochOrdinal) * 86400 + c.second

end YearlyChange

namespace YearlyRule

/-- The offset in the part of the year that an instant falls into, given the two instants of change. -/
def select (r : YearlyRule) (first last now : Int) : Int :=
  let isDaylight := if first < last then first ≤ now && now < last else !(last ≤ now && now < first)
  if isDaylight then r.daylight else r.standard

/-- The offset at an instant of universal time in a year. -/
def atInstant (r : YearlyRule) (year : Nat) (second : Int) : Int :=
  r.select (r.begins.wallSecond year - r.standard) (r.ends.wallSecond year - r.daylight) second

/-- The offset at a local time in a year.  A time that the clock skips has the offset before the change; a time that
it shows twice has the earlier offset first, and the later one if `later` holds. -/
def atWall (r : YearlyRule) (year : Nat) (second : Int) (later : Bool) : Int :=
  let gain := r.daylight - r.standard
  if later then r.select (r.begins.wallSecond year) (r.ends.wallSecond year - gain) second
  else r.select (r.begins.wallSecond year + gain) (r.ends.wallSecond year) second

end YearlyRule

namespace ZoneRules

/-- The offset of the last change that has happened, with whether that was the last one listed. -/
def lastChange (current : Int) (happened : Int → Int → Int → Bool) : List (Int × Int) → Int × Bool
  | [] => (current, true)
  | (instant, offset) :: rest =>
    if happened instant current offset then lastChange offset happened rest else (current, false)

/-- The offset at an instant of universal time in a year. -/
def atInstant (z : ZoneRules) (year : Nat) (second : Int) : Int :=
  match lastChange z.initial (fun instant _ _ => decide (instant ≤ second)) z.changes, z.yearly? with
  | (_, true), some rule => rule.atInstant year second
  | (offset, _), _ => offset

def atWall (z : ZoneRules) (year : Nat) (second : Int) (later : Bool) : Int :=
  let happened := fun (instant old new : Int) =>
    decide (instant + (if later then min old new else max old new) ≤ second)
  match lastChange z.initial happened z.changes, z.yearly? with
  | (_, true), some rule => rule.atWall year second later
  | (offset, _), _ => offset

-- The rules of a clock that keeps one offset.
def constant (offset : Int) : ZoneRules := ⟨offset, [], none⟩

end ZoneRules

end CallContract.Calendar
