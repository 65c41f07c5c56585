import CallContract.Calendar.FreeForm.Reading
import CallContract.Calendar.Iso
import CallContract.Calendar.Patterns
import CallContract.Conversion.Scalar

/-!
# Moment — converting to dates, timestamps and times

Text is read in ISO form first.  Only a timestamp may also be written in free form, in which missing parts are taken
from the current date.
-/

namespace CallContract.Conversion

open CallContract.Calendar CallContract.Number CallContract.Text

/-- A date in text: a year with its month, a full date, or the date of an ISO text, as the length tells. -/
def dateOfText? (s : List Char) : Option Date :=
  if s.length = 7 then Date.ofMonthPattern? s
  else if s.length = 10 then Date.ofDayPattern? s
  else match Iso.timestamp s with
    | .ok t => some t.date
    | .error _ => none

def toDate (room : Room) (field? : Option String) (v : Value) : Except Fault Value :=
  if isNothing v then .ok .null
  else match v with
    | .timestamp t => .ok (.date t.date)
    | .date d => .ok (.date d)
    | .text s => match dateOfText? (trim s.toList) with
      | some d => .ok (.date d)
      | none => .error (Fault.ofMismatch room .date v field?)
    | v => .error (Fault.ofMismatch room .date v field?)

/-- A timestamp in text: the ISO form, or else the free form. -/
def timestampOfText (world : World) (s : List Char) : Except ReadError Timestamp :=
  match Iso.timestamp s with
  | .ok t => .ok t
  | .error .malformed => match FreeForm.timestamp world.today world.clock s with
    | .error .outOfYears => .error .malformed
    | r => r
  | .error e => .error e

/-- Reads a timestamp.  What names no zone is taken to be in `zone`; a number counts milliseconds since the start of
1970. -/
def toTimestamp (world : World) (zone : Zone) (field? : Option String) (v : Value) : Except Fault Value :=
  let refused := Except.error (Fault.ofMismatch world.room .timestamp v field?)
  let known := fun (t? : Option Timestamp) => match t? with
    | some t => .ok (Value.timestamp t)
    | none => refused
  if isNothing v then .ok .null
  else match v with
    | .timestamp t => .ok (.timestamp t)
    | .date d => .ok (.timestamp ⟨d, .midnight, some zone, false⟩)
    | .int n => known ((Double.ofInt? n).bind (Timestamp.ofEpochMillis? · zone))
    | .float x => known (Timestamp.ofEpochMillis? x zone)
    | .text s => match timestampOfText world (trim s.toList) with
      | .ok t => .ok (.timestamp { t with zone? := some (t.zone?.getD zone) })
      | .error .malformed => refused
      | .error .outOfYears => .error .outOfYears
      | .error .tooPrecise => .error .tooPrecise
    | _ => refused

def toTime (room : Room) (field? : Option String) (v : Value) : Except Fault Value :=
  if isNothing v then .ok .null
  else match v with
    | .time t => .ok (.time t)
    | .timestamp t => .ok (.time ⟨t.time, none, t.later⟩)
    | .text s => match ClockTime.ofText? (trim s.toList) with
      | some t => .ok (.time t)
      | none => .error (Fault.ofMismatch room .time v field?)
    | v => .error (Fault.ofMismatch room .time v field?)

end CallContract.Conversion
