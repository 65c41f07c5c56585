import CallContract.Calendar.Timestamp

/-!
# Iso — reading ISO 8601

A date is a year, a year and month, a calendar date, a week date or an ordinal date, with hyphens throughout or not at
all; any one character separates it from the time.  Number fields are cut by position and read as integers.
-/

namespace CallContract.Calendar

open CallContract.Number

/-- Why a text gives no timestamp. -/
inductive ReadError
  /-- The text is not of the expected form, or a part is out of its range. -/
  | malformed
  /-- The text is well formed and its date falls outside of the years 1 to 9999. -/
  | outOfYears
  /-- A number in the text is too long to be divided. -/
  | tooPrecise
  deriving DecidableEq

namespace Iso

-- The integer in a field of `width` characters.
def field? (s : List Char) (width : Nat) : Option Int := Whole.ofText? (s.take width)

-- A natural number as a part of a date or time; negative numbers are out of range.
def part? (n : Int) : Option Nat := if 0 ≤ n then some n.toNat else none

/-! ## Dates -/

/-- A date in calendar form: its parts as written and the text after it. -/
def calendarDate? (s : List Char) : Option ((Int × Int × Int) × List Char) := do
  if s.length < 4 then none
  let year ← field? s 4
  let rest := s.drop 4
  if rest.isEmpty then return ((year, 1, 1), [])
  let dashed := rest.head? = some '-'
  let rest := if dashed then rest.drop 1 else rest
  if rest.length < 2 then none
  let month ← field? rest 2
  let rest := rest.drop 2
  if rest.isEmpty then if dashed then return ((year, month, 1), []) else none
  if dashed ∧ rest.head? ≠ some '-' then none
  let rest := if dashed then rest.drop 1 else rest
  if rest.length < 2 then none
  let day ← field? rest 2
  return ((year, month, day), rest.drop 2)

def weekDate (year : Int) (dashed : Bool) (s : List Char) : Except ReadError (Date × List Char) := do
  let some week := field? s 2 | throw .malformed
  let rest := s.drop 2
  let (day, rest) ←
    if rest.isEmpty then pure (1, rest)
    else if (rest.head? = some '-') ≠ dashed then throw .malformed
    else
      let rest := if dashed then rest.drop 1 else rest
      match field? rest 1 with
      | some day => pure (day, rest.drop 1)
      | none => throw .malformed
  if ¬(0 < week ∧ week < 54 ∧ 0 < day ∧ day < 8 ∧ 1 ≤ year ∧ year ≤ 9999) then throw .malformed
  match Date.ofWeek? year.toNat week.toNat day.toNat with
  | some date => return (date, rest)
  | none => throw .outOfYears

/-- A date given by the day of the year, and the text after it. -/
def ordinalDate? (year : Int) (s : List Char) : Option (Date × List Char) := do
  if s.length < 3 then none
  let day ← field? s 3
  let year ← part? year
  if day < 1 ∨ (if isLeap year then 366 else 365) < day then none
  let (month, day) := Date.monthDay year day.toNat
  let date ← Date.ofParts? year month day
  return (date, s.drop 3)

/-- A date in week or ordinal form, and the text after it. -/
def weekOrOrdinalDate (s : List Char) : Except ReadError (Date × List Char) := do
  if s.length < 4 then throw .malformed
  let some year := field? s 4 | throw .malformed
  let rest := s.drop 4
  let dashed := rest.head? = some '-'
  let rest := if dashed then rest.drop 1 else rest
  if rest.head? = some 'W' then weekDate year dashed (rest.drop 1)
  else
    match ordinalDate? year rest with
    | some found => return found
    | none => throw .malformed

/-! ## Times -/

/-- An offset: `Z`, or a sign with hours and perhaps minutes. -/
def zone? (s : List Char) : Option Zone :=
  if s = ['Z'] ∨ s = ['z'] then some .statedUtc
  else if s.length ≠ 3 ∧ s.length ≠ 5 ∧ s.length ≠ 6 then none
  else do
    let sign : Int ← match s.head? with
      | some '-' => some (-1)
      | some '+' => some 1
      | _ => none
    let hours ← field? (s.drop 1) 2
    let rest := s.drop 3
    let minutes ←
      if rest.isEmpty then some 0
      else Whole.ofText? (if rest.head? = some ':' then rest.drop 1 else rest)
    if hours = 0 ∧ minutes = 0 then return .statedUtc
    if 59 < minutes ∨ 23 < hours then none
    return .statedOffset none (sign * (hours * 60 + minutes) * 60)

/-- The parts of a time as they are read: hour, minute, second, microsecond, and the zone. -/
structure ClockParts where
  hour : Int := 0
  minute : Int := 0
  second : Int := 0
  micro : Int := 0
  zone? : Option Zone := none

/-- A fraction of a second: its first six digits, and the text after it. -/
def fraction? (s : List Char) : Option (Nat × List Char) :=
  match s with
  | c :: rest =>
    let digits := rest.takeWhile Char.isDigit
    if (c = '.' ∨ c = ',') ∧ digits ≠ [] then
      let kept := digits.take 6
      let value := Text.digitsValue (kept.map fun d => d.toNat - 48)
      some (value * Nat.pow 10 (6 - kept.length), rest.drop digits.length)
    else none
  | [] => none

/-- Reads the parts of a time in at most six rounds, of which `left` are still to be made: hour, minute, second and
fraction, and two rounds in which only a zone may stand.  `colons` tells whether the minute followed a colon. -/
def clockFrom (parts : ClockParts) (colons : Bool) (s : List Char) : Nat → Option (ClockParts × List Char)
  | 0 => some (parts, s)
  | left + 1 =>
    if s.isEmpty then some (parts, s)
    else if s.head? = some '-' ∨ s.head? = some '+' ∨ s.head? = some 'Z' ∨ s.head? = some 'z' then do
      let zone ← zone? s
      return ({ parts with zone? := some zone }, [])
    else
      match left with
      | 5 => do
        let hour ← field? s 2
        clockFrom { parts with hour } colons (s.drop 2) left
      | 4 => do
        let colons := s.head? = some ':'
        let s := if colons then s.drop 1 else s
        let minute ← field? s 2
        clockFrom { parts with minute } colons (s.drop 2) left
      | 3 => do
        if colons ∧ s.head? ≠ some ':' then none
        let s := if colons then s.drop 1 else s
        let second ← field? s 2
        clockFrom { parts with second } colons (s.drop 2) left
      | 2 =>
        match fraction? s with
        | some (micro, rest) => clockFrom { parts with micro } colons rest left
        | none => clockFrom parts colons s left
      | _ => clockFrom parts colons s left

/-- A time.  Hour 24 is only allowed at the end of the day. -/
def clock? (s : List Char) : Option ClockParts := do
  if s.length < 2 then none
  let (parts, rest) ← clockFrom {} false s 6
  if ¬rest.isEmpty then none
  if parts.hour = 24 ∧ ¬(parts.minute = 0 ∧ parts.second = 0 ∧ parts.micro = 0) then none
  return parts

/-! ## Timestamps -/

/-- The timestamp of a date and the parts of a time; hour 24 is midnight of the next day. -/
def assemble (date : Date) (parts : ClockParts) : Except ReadError Timestamp := do
  let nextDay := parts.hour = 24
  let time := do
    let hour ← part? (if nextDay then 0 else parts.hour)
    let minute ← part? parts.minute
    let second ← part? parts.second
    let micro ← part? parts.micro
    TimeOfDay.ofParts? hour minute second micro
  let some time := time | throw .malformed
  if nextDay then
    match date.addDays? 1 with
    | some date => return ⟨date, time, parts.zone?, false⟩
    | none => throw .outOfYears
  else return ⟨date, time, parts.zone?, false⟩

/-- The date with parts as they are written. -/
def writtenDate? (parts : Int × Int × Int) : Option Date := do
  let year ← part? parts.1
  let month ← part? parts.2.1
  let day ← part? parts.2.2
  Date.ofParts? year month day

/-- Reads a date or a date and time.  A text with a character outside of ASCII is malformed. -/
def timestamp (s : List Char) : Except ReadError Timestamp := do
  if s.any fun c => 127 < c.toNat then throw .malformed
  let (written, rest) ← match calendarDate? s with
    | some (parts, rest) => pure (Sum.inl parts, rest)
    | none => do
      let (date, rest) ← weekOrOrdinalDate s
      pure (Sum.inr date, rest)
  let parts ← if rest.isEmpty then pure {} else
    match clock? (rest.drop 1) with
    | some parts => pure parts
    | none => throw .malformed
  let date ← match written with
    | .inr date => pure date
    | .inl parts =>
      match writtenDate? parts with
      | some date => pure date
      | none => throw .malformed
  assemble date parts

end Iso

end CallContract.Calendar
