import CallContract.Calendar.FreeForm.Parts
import CallContract.Calendar.Iso

/-!
# Reading — dates and times in free form

The tokens of a text are read from left to right.  Each round takes one token and perhaps some of its successors, and
fills in fields of the result.  What the text leaves open comes from a reference date, and the clock of the host has
names that a text may use.
-/

namespace CallContract.Calendar.FreeForm

open CallContract.Text

/-- What has been read so far. -/
structure Fields where
  parts : Parts := {}
  weekday? : Option Nat := none
  hour? : Option Nat := none
  minute? : Option Nat := none
  second? : Option Nat := none
  micro? : Option Nat := none
  meridiem? : Option Nat := none
  zoneName? : Option Token := none
  zoneOffset? : Option Int := none
  /-- The sign that comes next counts the other way: it follows the name of a zone. -/
  reversedSign : Bool := false

def need {α : Type} : Option α → Except ReadError α
  | some a => .ok a
  | none => .error .malformed

def isMark (c : Char) (t : Option Token) : Bool := t = some [c]

/-! ## Times -/

/-- The hour by a clock with two halves of the day. -/
def adjustHour (hour meridiem : Nat) : Nat :=
  if hour < 12 ∧ meridiem = 1 then hour + 12
  else if hour = 12 ∧ meridiem = 0 then 0
  else hour

/-- A number of minutes: whole minutes, and seconds if there is a fraction. -/
def minutesOf (q : Quantity) : Except ReadError (Nat × Option Nat) :=
  match q.fraction? with
  | none => .error .tooPrecise
  | some f => .ok (q.floor, if f.units = 0 then none else some f.sixtieths)

/-- A number of seconds: whole seconds, and microseconds from the first six digits of the fraction. -/
def secondsOf? (t : Token) : Option (Nat × Nat) := do
  let whole := t.takeWhile (· ≠ '.')
  let second ← integer? whole
  if whole.length = t.length then return (second, 0)
  let fraction := t.drop (whole.length + 1)
  let micro ← integer? ((fraction ++ List.replicate (6 - fraction.length) '0').take 6)
  if fraction.contains '.' then none
  return (second, micro)

/-- Sets the hour, the minute or the second by a number with a unit. -/
def setUnit (f : Fields) (t : Token) (q : Quantity) : Nat → Except ReadError Fields
  | 0 =>
    match q.fraction? with
    | none => .error .tooPrecise
    | some rest =>
      .ok { f with
        hour? := some q.floor
        minute? := if rest.units = 0 then f.minute? else some rest.sixtieths }
  | 1 => do
    let (minute, second?) ← minutesOf q
    return { f with minute? := some minute, second? }
  | 2 => do
    let (second, micro) ← need (secondsOf? t)
    return { f with second? := some second, micro? := some micro }
  | _ => .ok f

/-- Where the unit of the number at place `i` stands: behind it, behind it and a space, before it, or before it and a
space at the end of the text. -/
def unitPlace? (tokens : Array Token) (i : Nat) : Option Nat :=
  let isUnit := fun (k : Nat) => (tokens[k]?.bind unit?).isSome
  if isUnit (i + 1) then some (i + 1)
  else if isMark ' ' tokens[i + 1]? ∧ isUnit (i + 2) then some (i + 2)
  else if 0 < i ∧ isUnit (i - 1) then some (i - 1)
  else if 1 < i ∧ i + 1 = tokens.size ∧ isMark ' ' tokens[i - 1]? ∧ isUnit (i - 2) then some (i - 2)
  else none

/-- Whether a word can be the name of a zone: a time has been read but no zone, and the word has at most five
capitals or names universal time. -/
def canNameZone (f : Fields) (t : Token) : Bool :=
  f.hour?.isSome && f.zoneName?.isNone && f.zoneOffset?.isNone && t.length ≤ 5
    && (t.all (fun c => 'A' ≤ c && c ≤ 'Z') || t = ['z'])

/-! ## Numbers -/

def addToken (f : Fields) (t : Token) (role : Option Role) : Except ReadError Fields := do
  let parts ← need (f.parts.appendToken? t role)
  return { f with parts }

/-- Appends a month by its name or a number. -/
def addMonthOrToken (f : Fields) (t : Token) : Except ReadError Fields :=
  match month? t with
  | some month => do
    let parts ← need (f.parts.append? month false (some .month))
    return { f with parts }
  | none => addToken f t none

/-- A number of eight, twelve or fourteen characters: a date, and perhaps a time. -/
def compactDate (f : Fields) (t : Token) : Except ReadError Fields := do
  let f ← addToken f (t.take 4) (some .year)
  let f ← addToken f ((t.drop 4).take 2) none
  let f ← addToken f ((t.drop 6).take 2) none
  if t.length ≤ 8 then return f
  let hour ← need (integer? ((t.drop 8).take 2))
  let minute ← need (integer? ((t.drop 10).take 2))
  let f := { f with hour? := some hour, minute? := some minute }
  if t.length ≤ 12 then return f
  let second ← need (integer? (t.drop 12))
  return { f with second? := some second }

/-- A number of six digits: a date if none has begun, or else a time. -/
def sixDigits (f : Fields) (t : Token) : Except ReadError Fields := do
  if f.parts.values.isEmpty ∧ ¬t.contains '.' then
    let f ← addToken f (t.take 2) none
    let f ← addToken f ((t.drop 2).take 2) none
    addToken f (t.drop 4) none
  else
    let hour ← need (integer? (t.take 2))
    let minute ← need (integer? ((t.drop 2).take 2))
    let (second, micro) ← need (secondsOf? (t.drop 4))
    return { f with hour? := some hour, minute? := some minute, second? := some second, micro? := some micro }

/-- A number followed by a colon: hour, minute and perhaps second.  Answers with the number of further tokens taken. -/
def colonTime (tokens : Array Token) (i : Nat) (f : Fields) (q : Quantity) : Except ReadError (Fields × Nat) := do
  let minutes ← need (tokens[i + 2]?.bind Quantity.ofToken?)
  let (minute, second?) ← minutesOf minutes
  let f := { f with hour? := some q.floor, minute? := some minute, second? }
  if isMark ':' tokens[i + 3]? ∧ i + 4 < tokens.size then
    let (second, micro) ← need (tokens[i + 4]?.bind secondsOf?)
    return ({ f with second? := some second, micro? := some micro }, 4)
  else return (f, 2)

/-- A number followed by a hyphen, slash or point: two or three members of a date. -/
def separatedDate (tokens : Array Token) (i : Nat) (f : Fields) (t : Token) : Except ReadError (Fields × Nat) := do
  let f ← addToken f t none
  match tokens[i + 2]? with
  | none => return (f, 1)
  | some second =>
    if isFiller second then return (f, 1)
    let f ←
      if second.all isDigitLike then addToken f second none
      else if (month? second).isSome then addMonthOrToken f second
      else throw .malformed
    if (tokens[i + 3]?).isSome ∧ tokens[i + 3]? = tokens[i + 1]? then
      let f ← addMonthOrToken f (← need tokens[i + 4]?)
      return (f, 4)
    else return (f, 2)

/-- Reads a number and perhaps some of its successors, and tells how many. -/
def readNumber (tokens : Array Token) (i : Nat) (f : Fields) (t : Token) (q : Quantity) :
    Except ReadError (Fields × Nat) := do
  let next := tokens[i + 1]?
  if f.parts.values.length = 3 ∧ (t.length = 2 ∨ t.length = 4) ∧ f.hour?.isNone
      ∧ ¬isMark ':' next ∧ (next.bind unit?).isNone then
    let hour ← need (integer? (t.take 2))
    let minute? ← if t.length = 4 then (need (integer? (t.drop 2))).map some else pure f.minute?
    return ({ f with hour? := some hour, minute? }, 0)
  else if t.length = 6 ∨ (6 < t.length ∧ t.findIdx? (· = '.') = some 6) then
    return (← sixDigits f t, 0)
  else if t.length = 8 ∨ t.length = 12 ∨ t.length = 14 then
    return (← compactDate f t, 0)
  else match unitPlace? tokens i with
  | some place =>
    let unit ← need (tokens[place]?.bind unit?)
    if i < place then return (← setUnit f t q unit, place - i)
    else return (← setUnit f t q (unit + 1), 0)
  | none =>
    if i + 2 < tokens.size ∧ isMark ':' next then colonTime tokens i f q
    else if isMark '-' next ∨ isMark '/' next ∨ isMark '.' next then separatedDate tokens i f t
    else if next.all isFiller then
      match tokens[i + 2]?.bind meridiem? with
      | some half => return ({ f with hour? := some (adjustHour q.floor half) }, 2)
      | none =>
        let parts ← need (f.parts.appendQuantity? q)
        return ({ f with parts }, 1)
    else match next.bind meridiem?, decide (q.units < 24 * Nat.pow 10 q.scale) with
    | some half, true => return ({ f with hour? := some (adjustHour q.floor half) }, 1)
    | _, _ =>
      if f.parts.canBeDay q then
        let parts ← need (f.parts.appendQuantity? q)
        return ({ f with parts }, 0)
      else throw .malformed

/-! ## Words and signs -/

/-- The year nearest to the reference year among those that end in two given digits: at most fifty years back and less
than fifty ahead. -/
def widenYear (reference year : Nat) : Nat :=
  if 100 ≤ year then year
  else
    let year := year + reference / 100 * 100
    if reference + 50 ≤ year then year - 100
    else if year + 50 < reference then year + 100
    else year

/-- A month by name, followed perhaps by a hyphen or slash and a number or two, or by `of` and a year.  Anything else
behind `of` is passed over. -/
def readMonth (reference : Nat) (tokens : Array Token) (i : Nat) (f : Fields) (month : Nat) :
    Except ReadError (Fields × Nat) := do
  let parts ← need (f.parts.append? month false (some .month))
  let f := { f with parts }
  let next := tokens[i + 1]?
  if isMark '-' next ∨ isMark '/' next then
    let f ← addToken f (← need tokens[i + 2]?) none
    if (tokens[i + 3]?).isSome ∧ tokens[i + 3]? = next then
      let f ← addToken f (← need tokens[i + 4]?) none
      return (f, 4)
    else return (f, 2)
  else if i + 4 < tokens.size ∧ isMark ' ' next ∧ isMark ' ' tokens[i + 3]? ∧ tokens[i + 2]?.any isOf then
    let object ← need tokens[i + 4]?
    if object.all isDigitLike then
      let year ← need (integer? object)
      let parts ← need (f.parts.append? (widenYear reference year) true (some .year))
      return ({ f with parts }, 4)
    else return (f, 4)
  else return (f, 0)

/-- The name of a zone, followed perhaps by a sign that then counts the other way. -/
def readZoneName (tokens : Array Token) (i : Nat) (f : Fields) (t : Token) : Fields :=
  let signed := isMark '+' tokens[i + 1]? || isMark '-' tokens[i + 1]?
  if signed then
    { f with zoneName? := if namesUtc t then none else some t, zoneOffset? := none, reversedSign := true }
  else { f with zoneName? := some t, zoneOffset? := if t = ['z'] then some 0 else none }

/-- A sign behind a time: an offset of hours, or of hours and minutes, and perhaps a name of three letters or more in
parentheses. -/
def readOffset (tokens : Array Token) (i : Nat) (f : Fields) (positive : Bool) : Except ReadError (Fields × Nat) := do
  let amount ← need tokens[i + 1]?
  let positive := positive != f.reversedSign
  let (hours, minutes, taken) ←
    if amount.length = 4 then
      pure (← need (integer? (amount.take 2)), ← need (integer? (amount.drop 2)), 0)
    else if isMark ':' tokens[i + 2]? then
      pure (← need (integer? amount), ← need (tokens[i + 3]?.bind integer?), 2)
    else if amount.length ≤ 2 then pure (← need (integer? amount), 0, 0)
    else throw .malformed
  let seconds : Int := hours * 3600 + minutes * 60
  let f := { f with zoneOffset? := some (if positive then seconds else -seconds), reversedSign := false }
  let j := i + taken
  let name := tokens[j + 4]?
  if tokens[j + 2]?.any isFiller ∧ isMark '(' tokens[j + 3]? ∧ isMark ')' tokens[j + 5]?
      ∧ name.any (fun t => 3 ≤ t.length ∧ canNameZone { f with zoneOffset? := none } t) then
    return ({ f with zoneName? := name }, taken + 5)
  else return (f, taken + 1)

def isNotFinite (t : Token) : Bool := ["nan", "inf", "infinity"].contains (String.ofList (lower t))

/-- Reads the token at place `i` and perhaps some of its successors, and tells how many. -/
def readToken (reference : Nat) (tokens : Array Token) (i : Nat) (f : Fields) (t : Token) :
    Except ReadError (Fields × Nat) :=
  if isNotFinite t then .error .malformed
  else match Quantity.ofToken? t with
  | some q => readNumber tokens i f t q
  | none =>
    match weekday? t with
    | some weekday => .ok ({ f with weekday? := some weekday }, 0)
    | none =>
      match month? t with
      | some month => readMonth reference tokens i f month
      | none =>
        match meridiem? t with
        | some half =>
          match f.hour? with
          | some hour =>
            if hour ≤ 12 then .ok ({ f with hour? := some (adjustHour hour half), meridiem? := some half }, 0)
            else .error .malformed
          | none => .error .malformed
        | none =>
          if canNameZone f t then .ok (readZoneName tokens i f t, 0)
          else if f.hour?.isSome ∧ (t = ['+'] ∨ t = ['-']) then readOffset tokens i f (t = ['+'])
          else if isFiller t then .ok (f, 0)
          else .error .malformed

/-- Reads the tokens from place `i` on. -/
def readFrom (reference : Nat) (tokens : Array Token) (i : Nat) (f : Fields) : Except ReadError Fields :=
  if h : i < tokens.size then
    match readToken reference tokens i f tokens[i] with
    | .ok (f, taken) => readFrom reference tokens (i + taken + 1) f
    | .error e => .error e
  else .ok f
  termination_by tokens.size - i

/-! ## The result -/

def Fields.isBlank (f : Fields) (year month day : Option Nat) : Bool :=
  year.isNone && month.isNone && day.isNone && f.weekday?.isNone && f.hour?.isNone && f.minute?.isNone
    && f.second?.isNone && f.micro?.isNone && f.zoneName?.isNone && f.zoneOffset?.isNone && f.meridiem?.isNone

/-- The name and the offset of the zone that was read.  `Z` and an offset of zero without a name are named `UTC`; a name
of universal time has no other offset. -/
def Fields.zoneMark (f : Fields) : Option Token × Option Int :=
  if f.zoneName? = some ['Z'] ∨ f.zoneName? = some ['z'] ∨ (f.zoneName?.isNone ∧ f.zoneOffset? = some 0) then
    (some "UTC".toList, some 0)
  else if f.zoneName?.any namesUtc then (f.zoneName?, some 0)
  else (f.zoneName?, f.zoneOffset?)

/-- The zone of a name and an offset; a name without an offset means nothing. -/
def statedZone? (name? : Option Token) : Option Int → Option Zone
  | some 0 => some .statedUtc
  | some seconds => some (.statedOffset (name?.map String.ofList) seconds)
  | none => none

/-- The zone that was read for a local time, and whether the later of two equal local times is meant.  A name of the
clock of the host stands for the zone of the host: for the later time if only that has the name, and for universal time
if neither has. -/
def Fields.zone? (f : Fields) (clock : HostClock) (year : Nat) (second : Int) : Option Zone × Bool :=
  let (name?, offset?) := f.zoneMark
  match name?.map String.ofList with
  | none => (statedZone? name? offset?, false)
  | some name =>
    if clock.isNamed name then
      let nameAt := fun (later : Bool) => clock.name (clock.isDaylightAtWall year second later)
      let later := decide (nameAt false ≠ name) && decide (nameAt true = name)
      if nameAt later ≠ name ∧ name?.any namesUtc then (some .statedUtc, later) else (some (.host clock), later)
    else (statedZone? name? offset?, false)

/-- Whether an offset counts at most 999,999,999 whole days; a text with a longer one cannot be read. -/
def isCountable : Zone → Bool
  | .statedOffset _ seconds => (seconds / 86400).natAbs ≤ 999999999
  | _ => true

/-- The date with the parts that were read; the others come from the reference date, whose day gives way to the last
day of a shorter month. -/
def completeDate (reference : Date) (year? month? day? weekday? : Option Nat) : Except ReadError Date := do
  let year := year?.getD reference.year
  let month := month?.getD reference.month
  let day := match day? with
    | some day => day
    | none => min reference.day (daysInMonth year month)
  let date ← need (Date.ofParts? year month day)
  match weekday?, day? with
  | some weekday, none => need (date.addDays? ((7 - date.weekday + weekday) % 7 : Nat))
  | _, _ => return date

def timestamp (reference : Date) (clock : HostClock) (s : List Char) : Except ReadError Timestamp := do
  let f ← readFrom reference.year (tokens s).toArray 0 {}
  let (year?, month?, day?) ← need f.parts.resolve?
  if f.isBlank year? month? day? then throw .malformed
  let year? := year?.map fun year => if f.parts.withCentury then year else widenYear reference.year year
  let date ← completeDate reference year? month? day? f.weekday?
  let time ← need (TimeOfDay.ofParts? (f.hour?.getD 0) (f.minute?.getD 0) (f.second?.getD 0) (f.micro?.getD 0))
  let wall : Timestamp := ⟨date, time, none, false⟩
  let (zone?, later) := f.zone? clock date.year (wall.wallMicros / 1000000)
  if zone?.all isCountable then return ⟨date, time, zone?, later⟩ else throw .malformed

end CallContract.Calendar.FreeForm
