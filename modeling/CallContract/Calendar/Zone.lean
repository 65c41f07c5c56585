import CallContract.Calendar.ZoneRules
import CallContract.Calendar.ZoneNames
import CallContract.Text.Quoted

/-!
# Zone — time zones

A zone is a region with its rules, universal time, or a fixed offset.  A timestamp read from text carries a mark of
its own: universal time as marked in the text, the zone of the host, or an offset in seconds with the name that
stood beside it.
-/

namespace CallContract.Calendar

open CallContract.Text

/-- The clock of the host: its standard time and its daylight time, which are the same where there is only one, and
when either of them is in force. -/
structure HostClock where
  standardName : String
  daylightName : String
  standard : Int
  daylight : Int
  rules : ZoneRules
  deriving DecidableEq

namespace HostClock

-- The clock of a host that keeps universal time.
def universal : HostClock := ⟨"UTC", "UTC", 0, 0, .constant 0⟩

def hasDaylight (h : HostClock) : Bool := h.standard ≠ h.daylight

def isNamed (h : HostClock) (name : String) : Bool := name = h.standardName || name = h.daylightName

/-- Whether daylight time is in force at an instant. -/
def isDaylightAtInstant (h : HostClock) (year : Nat) (second : Int) : Bool :=
  h.hasDaylight && h.rules.atInstant year second ≠ h.standard

/-- Whether daylight time is in force at a local time.  The time is taken for standard time; of an hour that the clock
shows twice the first one is daylight time. -/
def isDaylightAtWall (h : HostClock) (year : Nat) (second : Int) (later : Bool) : Bool :=
  let asStandard := fun (second : Int) => h.isDaylightAtInstant year (second - h.standard)
  let isAmbiguous := !asStandard second && asStandard (second - (h.daylight - h.standard))
  if isAmbiguous then !later else asStandard second

def offset (h : HostClock) (isDaylight : Bool) : Int := if isDaylight then h.daylight else h.standard

def name (h : HostClock) (isDaylight : Bool) : String := if isDaylight then h.daylightName else h.standardName

end HostClock

inductive Zone
  /-- A region of the time-zone database, with its rules there. -/
  | region (name : String) (rules : ZoneRules)
  | utc
  /-- A fixed offset in microseconds, not zero. -/
  | fixed (micros : Int)
  /-- Universal time as a text states it. -/
  | statedUtc
  /-- An offset in seconds as a text states it, with the name beside it. -/
  | statedOffset (name : Option String) (seconds : Int)
  /-- The zone of the host. -/
  | host (clock : HostClock)
  deriving DecidableEq

namespace Zone

-- The zone with a fixed offset; offset zero is universal time.
def ofOffset (micros : Int) : Zone := if micros = 0 then .utc else .fixed micros

/-- The offset in microseconds at a local time, given in seconds since the start of 1970. -/
def offsetAtWall (z : Zone) (year : Nat) (second : Int) (later : Bool) : Int :=
  match z with
  | .region _ rules => rules.atWall year second later * 1000000
  | .utc | .statedUtc => 0
  | .fixed micros => micros
  | .statedOffset _ seconds => seconds * 1000000
  | .host clock => clock.offset (clock.isDaylightAtWall year second later) * 1000000

/-- The offset in microseconds at an instant, given in seconds since the start of 1970. -/
def offsetAtInstant (z : Zone) (year : Nat) (second : Int) : Int :=
  match z with
  | .region _ rules => rules.atInstant year second * 1000000
  | .utc | .statedUtc => 0
  | .fixed micros => micros
  | .statedOffset _ seconds => seconds * 1000000
  | .host clock => clock.offset (clock.isDaylightAtInstant year second) * 1000000

/-- Whether the zone of the host is one that a text states: it has no daylight time, and the same offset under the same
name. -/
def hostIsStated (clock : HostClock) : Zone → Bool
  | .statedUtc => !clock.hasDaylight && clock.standard = 0 && (clock.standardName = "UTC" || clock.standardName = "GMT")
  | .statedOffset name seconds => !clock.hasDaylight && clock.standard = seconds && name = some clock.standardName
  | _ => false

/-- Equality of zones.  Those that a text states are compared by their offsets, whatever their names. -/
def equals : Zone → Zone → Bool
  | .statedUtc, .statedOffset _ seconds | .statedOffset _ seconds, .statedUtc => seconds = 0
  | .statedOffset _ seconds, .statedOffset _ seconds' => seconds = seconds'
  | .host clock, .host clock' => clock.standard = clock'.standard && clock.daylight = clock'.daylight
  | .host clock, z | z, .host clock => hostIsStated clock z
  | x, y => x = y

/-- Whether a zone can be a member of a set.  Those that a text states cannot, nor can the zone of the host. -/
def isHashable : Zone → Bool
  | .statedUtc | .statedOffset _ _ | .host _ => false
  | _ => true

end Zone

end CallContract.Calendar
