import CallContract.Conversion.Fault
import CallContract.Number.Localized
import CallContract.Text.Casing
import CallContract.World

/-!
# Scalar — converting to numbers, booleans, locales, zones and text

Null and empty text convert to null.  A value that has the wanted kind stays as it is; other values are read from their
displayed form.
-/

namespace CallContract.Conversion

open CallContract.Calendar CallContract.Number CallContract.Text

/-- Whether a value stands for nothing: null or empty text. -/
def isNothing : Value → Bool
  | .null => true
  | .text s => s = ""
  | _ => false

/-- The text of a number in the displayed form of a value, with its separators normalized. -/
def numberText? (room : Room) (locale? : Option Locale) (v : Value) : Option (List Char) :=
  (v.displayed room).toOption.map (Separators.ofLocale? locale?).plain

/-- Reads an integer.  Numbers that are not integral and booleans are refused. -/
def toInteger (room : Room) (locale? : Option Locale) (field? : Option String) (v : Value) : Except Fault Value :=
  let refused := Except.error (Fault.ofMismatch room .integer v field?)
  let known := fun (n? : Option Int) => match n? with
    | some n => .ok (Value.int n)
    | none => refused
  if isNothing v then .ok .null
  else match v with
    | .bool _ => refused
    | .int n => .ok (.int n)
    | .float x => known x.toInt?
    | .decimal d => known d.toInt?
    | v => known ((numberText? room locale? v).bind Whole.ofText?)

/-- Reads a binary64 number.  Booleans and integers beyond the range are refused. -/
def toFloat (room : Room) (locale? : Option Locale) (field? : Option String) (v : Value) : Except Fault Value :=
  let refused := Except.error (Fault.ofMismatch room .float v field?)
  let known := fun (x? : Option Double) => match x? with
    | some x => .ok (Value.float x)
    | none => refused
  if isNothing v then .ok .null
  else match v with
    | .bool _ => refused
    | .int n => known (Double.ofInt? n)
    | .float x => .ok (.float x)
    | .decimal d => known (Double.ofDecimal? d)
    | v => known ((numberText? room locale? v).bind Double.ofText?)

/-- Reads a decimal.  A binary64 number is read from its written form. -/
def toDecimal (room : Room) (locale? : Option Locale) (field? : Option String) (v : Value) : Except Fault Value :=
  let refused := Except.error (Fault.ofMismatch room .decimal v field?)
  let known := fun (d? : Option Decimal) => match d? with
    | some d => .ok (Value.decimal d)
    | none => refused
  if isNothing v then .ok .null
  else match v with
    | .bool _ => refused
    | .decimal d => .ok (.decimal d)
    | .int n => .ok (.decimal (Decimal.ofInt n))
    | .float x => known (Decimal.ofText? x.toText)
    | v => known ((numberText? room locale? v).bind Decimal.ofText?)

def trueWords : List String := ["true", "1", "yes", "on", "y"]
def falseWords : List String := ["false", "0", "no", "off", "n"]

/-- Reads a boolean from its word in any case. -/
def toBoolean (room : Room) (field? : Option String) (v : Value) : Except Fault Value :=
  if isNothing v then .ok .null
  else match v with
    | .bool b => .ok (.bool b)
    | v => match v.displayed room with
      | .error reason => .error (Fault.ofUndisplayed reason)
      | .ok shown =>
        let word := String.ofList (lower (trim shown))
        if trueWords.contains word then .ok (.bool true)
        else if falseWords.contains word then .ok (.bool false)
        else .error (Fault.ofMismatch room .boolean v field?)

def toLocale (room : Room) (field? : Option String) (v : Value) : Except Fault Value :=
  if isNothing v then .ok .null
  else match v with
    | .locale l => .ok (.locale l)
    | .text s => match Locale.ofText? s with
      | some l => .ok (.locale l)
      | none => .error (Fault.ofMismatch room .locale v field?)
    | v => .error (Fault.ofMismatch room .locale v field?)

/-- The region of a name in the time-zone database. -/
def zoneOfName? (world : World) (s : String) : Option Zone :=
  let name := String.ofList (trim s.toList)
  if isZoneName name then some (.region name (world.rulesOf name)) else none

def toTimeZone (world : World) (field? : Option String) (v : Value) : Except Fault Value :=
  if isNothing v then .ok .null
  else match v with
    | .zone z => .ok (.zone z)
    | .text s => match zoneOfName? world s with
      | some z => .ok (.zone z)
      | none => .error (Fault.ofMismatch world.room .timeZone v field?)
    | v => .error (Fault.ofMismatch world.room .timeZone v field?)

/-- The text of a scalar: dates and times in ISO form, booleans as words, numbers with the decimal mark of the
locale. -/
def toText (room : Room) (locale? : Option Locale) (field? : Option String) (v : Value) : Except Fault Value :=
  let shown := fun (s : List Char) => Except.ok (Value.text (String.ofList s))
  let localized := fun (s : List Char) => shown ((Separators.ofLocale? locale?).localize s)
  match v with
  | .null => .ok .null
  | .text s => .ok (.text s)
  | .bool b => shown (if b then "true" else "false").toList
  | .timestamp t => if t.hasUsableOffset then shown t.toText else .error .offsetTooLong
  | .date d => shown d.toText
  | .time t => shown t.toText
  | .zone (.region name _) => .ok (.text name)
  | .float x => localized x.toText
  | .decimal d => localized d.toText
  | .int n => match Whole.toText? n with
    | some s => shown s
    | none => .error .tooManyDigits
  | .locale l => .ok (.text l.toText)
  | v => .error (Fault.ofMismatch room .text v field?)

end CallContract.Conversion
