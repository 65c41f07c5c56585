import CallContract.Value
import CallContract.Number.Whole
import CallContract.Text.Quoted
import CallContract.Text.Split

/-!
# Written — the two texts of a value

The written form shows the kind of a value and is used in messages.  The displayed form shows the content alone.
Neither exists for a value with an integer of too many digits or with collections too deep within each other, and a
timestamp whose offset cannot be used has no displayed form.
-/

namespace CallContract.Value

open CallContract.Calendar CallContract.Number CallContract.Text

/-! ## Parts -/

-- The parts joined with a comma and a space.
def commaJoined (parts : List (List Char)) : List Char := joinWith [',', ' '] parts

/-- A word followed by arguments in parentheses. -/
def applied (word : String) (arguments : List (List Char)) : List Char :=
  word.toList ++ '(' :: commaJoined arguments ++ [')']

def named (name : String) (argument : List Char) : List Char := name.toList ++ '=' :: argument

def digits (n : Int) : List Char := Whole.digitsText n

/-- An amount of time in whole days, seconds and microseconds, of which the zero parts are left out. -/
def writtenDuration (micros : Int) : List Char :=
  let days := micros / 86400000000
  let rest := micros % 86400000000
  let parts := [("days", days), ("seconds", rest / 1000000), ("microseconds", rest % 1000000)]
  let shown := parts.filter (·.2 ≠ 0)
  applied "datetime.timedelta" (if shown.isEmpty then [['0']] else shown.map fun p => named p.1 (digits p.2))

def writtenZone : Zone → List Char
  | .region name _ => applied "zoneinfo.ZoneInfo" [named "key" (quoted name.toList)]
  | .utc => "datetime.timezone.utc".toList
  | .fixed micros => applied "datetime.timezone" [writtenDuration micros]
  | .statedUtc => applied "tzutc" []
  | .statedOffset name seconds =>
    applied "tzoffset" [match name with
      | some name => quoted name.toList
      | none => "None".toList, digits seconds]
  | .host _ => applied "tzlocal" []

/-- Hour and minute, and the second and microsecond as far as one of those after them is not zero. -/
def writtenClock (t : TimeOfDay) : List (List Char) :=
  [digits t.hour, digits t.minute]
    ++ (if t.second = 0 ∧ t.micro = 0 then [] else [digits t.second])
    ++ (if t.micro = 0 then [] else [digits t.micro])

def writtenDate (d : Date) : List (List Char) := [digits d.year, digits d.month, digits d.day]

def writtenTimestamp (t : Timestamp) : List Char :=
  applied "datetime.datetime" (writtenDate t.date ++ writtenClock t.time
    ++ (if t.later then [named "fold" ['1']] else [])
    ++ (match t.zone? with
      | some z => [named "tzinfo" (writtenZone z)]
      | none => []))

def writtenTime (t : ClockTime) : List Char :=
  applied "datetime.time" (writtenClock t.time
    ++ (match t.offset? with
      | some micros => [named "tzinfo" (writtenZone (Zone.ofOffset micros))]
      | none => [])
    ++ (if t.later then [named "fold" ['1']] else []))

def writtenLocale (l : Locale) : List Char :=
  applied "Locale" [named "language" (quoted l.language.toList), named "country" (quoted l.country.toList),
    named "variant" (quoted l.variant.toList)]

def braced (parts : List (List Char)) : List Char := '\x7b' :: commaJoined parts ++ ['\x7d']

/-! ## The written form -/

/-- Why a value has no written form. -/
inductive Unwritten
  /-- An integer has too many digits to be written. -/
  | tooManyDigits
  /-- Collections lie too deep within each other. -/
  | tooNested
  deriving DecidableEq

mutual

def written (room : Room) : Value → Except Unwritten (List Char)
  | .null => .ok "None".toList
  | .bool b => .ok (if b then "True" else "False").toList
  | .int n => match Whole.toText? n with
    | some s => .ok s
    | none => .error .tooManyDigits
  | .float x => .ok x.toText
  | .decimal d => .ok (applied "Decimal" [quoted d.toText])
  | .text s => .ok (quoted s.toList)
  | .list _ items => (writtenAll (room.inside? .writing .list) items).map fun parts => '[' :: commaJoined parts ++ [']']
  | .tuple items => (writtenAll (room.inside? .writing .tuple) items).map fun parts =>
    match parts with
    | [part] => '(' :: part ++ [',', ')']
    | parts => '(' :: commaJoined parts ++ [')']
  | .set frozen items => (writtenAll (room.inside? .writing .set) items).map fun parts =>
    if frozen then applied "frozenset" (if parts.isEmpty then [] else [braced parts])
    else if parts.isEmpty then applied "set" [] else braced parts
  | .map readOnly entries => (writtenEntries (room.inside? .writing (mapShape readOnly)) entries).map fun parts =>
    if readOnly then applied "mappingproxy" [braced parts] else braced parts
  | .date d => .ok (applied "datetime.date" (writtenDate d))
  | .timestamp t => .ok (writtenTimestamp t)
  | .time t => .ok (writtenTime t)
  | .zone z => .ok (writtenZone z)
  | .locale l => .ok (writtenLocale l)
  | .bytes b => .ok (quotedBytes b)
  | .object _ name => .ok (applied "Opaque" [quoted name.toList])

/-- The written forms of the members of a collection, given the room inside of it. -/
def writtenAll (inside? : Option Room) : List Value → Except Unwritten (List (List Char))
  | [] => .ok []
  | v :: rest => match inside? with
    | none => .error .tooNested
    | some room => do
      let v ← written room v
      let rest ← writtenAll inside? rest
      return v :: rest

/-- The written forms of the entries of a map. -/
def writtenEntries (inside? : Option Room) : List (String × Value) → Except Unwritten (List (List Char))
  | [] => .ok []
  | (k, v) :: rest => match inside? with
    | none => .error .tooNested
    | some room => do
      let v ← written room v
      let rest ← writtenEntries inside? rest
      return (quoted k.toList ++ ':' :: ' ' :: v) :: rest

end

/-! ## The displayed form -/

/-- Why a value has no displayed form. -/
inductive Undisplayed
  | unwritten (reason : Unwritten)
  /-- The offset of a timestamp cannot be used. -/
  | offsetTooLong
  deriving DecidableEq

def displayedZone : Zone → List Char
  | .region name _ => name.toList
  | .utc => "UTC".toList
  | .fixed micros => "UTC".toList ++ offsetText micros
  | z => writtenZone z

/-- The displayed form of a value: text and numbers as they are, dates and times in ISO form. -/
def displayed (room : Room) : Value → Except Undisplayed (List Char)
  | .text s => .ok s.toList
  | .decimal d => .ok d.toText
  | .date d => .ok d.toText
  | .timestamp t =>
    if t.hasUsableOffset then
      .ok (t.date.toText ++ ' ' :: t.time.toText ++ (match t.offset? with
        | some micros => offsetText micros
        | none => []))
    else .error .offsetTooLong
  | .time t => .ok t.toText
  | .zone z => .ok (displayedZone z)
  | .locale l => .ok l.toText.toList
  | v => (written room v).mapError .unwritten

end CallContract.Value
