import CallContract.Calendar.Zone
import CallContract.Number.Double

/-!
# Timestamp — a local date and time, with or without a zone

A local time that the clock shows twice stands for the earlier instant unless `later` is set.
-/

namespace CallContract.Calendar

open CallContract.Number

structure Timestamp where
  date : Date
  time : TimeOfDay
  zone? : Option Zone
  later : Bool
  deriving DecidableEq

namespace Timestamp

/-- The local time in microseconds since the start of 1970. -/
def wallMicros (t : Timestamp) : Int :=
  ((t.date.ordinal : Int) - epochOrdinal) * 86400000000 + t.time.micros

/-- The local time at a number of microseconds since the start of 1970; `none` outside of the years 1 to 9999. -/
def ofWallMicros? (n : Int) (zone? : Option Zone) (later : Bool) : Option Timestamp :=
  (Date.ofOrdinal? (n / 86400000000 + epochOrdinal)).map fun date =>
    ⟨date, TimeOfDay.ofMicros (n % 86400000000).toNat, zone?, later⟩

/-- The offset from universal time in microseconds; `none` without a zone. -/
def offset? (t : Timestamp) : Option Int :=
  t.zone?.map fun zone => zone.offsetAtWall t.date.year (t.wallMicros / 1000000) t.later

/-- Whether the offset, if there is one, is less than a day.  Nothing can be reckoned with a longer one, which only a
text can state. -/
def hasUsableOffset (t : Timestamp) : Bool := t.offset?.all fun micros => micros.natAbs < 86400000000

-- The instant in microseconds since the start of 1970 in universal time; `none` without a zone.
def instant? (t : Timestamp) : Option Int := t.offset?.map (t.wallMicros - ·)

/-- Moves an instant of universal time to a zone. -/
def inZone? (instant : Int) (zone : Zone) : Option Timestamp := do
  let utc ← ofWallMicros? instant (some .utc) false
  let offset := zone.offsetAtInstant utc.date.year (instant / 1000000)
  let shown ← ofWallMicros? (instant + offset) (some zone) false
  let first := zone.offsetAtWall shown.date.year (shown.wallMicros / 1000000) false
  return { shown with later := first ≠ offset }

-- The local date and time in ISO form without the offset.
def wallText (t : Timestamp) : List Char := t.date.toText ++ 'T' :: t.time.toText

/-- The ISO form with the offset, if there is one. -/
def toText (t : Timestamp) : List Char :=
  t.wallText ++ (match t.offset? with
    | some micros => offsetText micros
    | none => [])

/-! ## Epoch time -/

/-- The whole and fractional part of a finite number of seconds as microseconds: the fraction is scaled to
microseconds as a binary64 number and then rounded, ties to even. -/
def epochMicros (negative : Bool) (mantissa : Nat) (exponent : Int) : Int :=
  let (num, den) := Double.magnitude mantissa exponent
  let whole := num / den
  let scaled := Double.ofRatio false (num % den * 1000000) den
  let micros := match scaled with
    | .finite _ m e => let (p, q) := Double.magnitude m e; roundHalfEven p q
    | _ => 0
  let total : Int := whole * 1000000 + micros
  if negative then -total else total

/-- The timestamp of a binary64 number of milliseconds since the start of 1970, in a zone. -/
def ofEpochMillis? (millis : Double) (zone : Zone) : Option Timestamp :=
  match millis.divNat 1000 with
  | .finite negative mantissa exponent => inZone? (epochMicros negative mantissa exponent) zone
  | _ => none

end Timestamp

end CallContract.Calendar
