import CallContract.Conversion.Collection
import CallContract.Conversion.Moment
import CallContract.SemanticType

/-!
# ByType — converting to a declared type

A value that has the declared form stays as it is, except that an integer becomes the floating-point or decimal number
that the type asks for.  Tags of the application leave every value alone.
-/

namespace CallContract.Conversion

open CallContract.Calendar

/-- What a conversion goes by. -/
structure Guide where
  world : World
  locale? : Option Locale := none
  /-- The zone of what names none. -/
  zone : Zone := .utc
  field? : Option String := none

/-- Converts a value that has not the declared form. -/
def convertKnown (g : Guide) (t : SemanticType) (v : Value) : Except Fault Value :=
  match t with
  | .string => toText g.world.room g.locale? g.field? v
  | .boolean => toBoolean g.world.room g.field? v
  | .integer | .long | .bigInteger => toInteger g.world.room g.locale? g.field? v
  | .float | .double => toFloat g.world.room g.locale? g.field? v
  | .bigDecimal => toDecimal g.world.room g.locale? g.field? v
  | .timestamp => toTimestamp g.world g.zone g.field? v
  | .date => toDate g.world.room g.field? v
  | .time => toTime g.world.room g.field? v
  | .list | .collection => toList g.world.room "," g.field? v
  | .set => toSet g.world.room g.field? v
  | .map => toMap g.world.room g.field? v
  | .locale => toLocale g.world.room g.field? v
  | .timeZone => toTimeZone g.world g.field? v
  | .object | .genericValue | .genericEntity => .ok v

/-- Whether a value is left alone because it has the declared form already. -/
def isSettled (t : SemanticType) (v : Value) : Bool :=
  !t.isFloating && t ≠ .bigDecimal && t.admitsPresent v

/-- Converts a value to the type of a tag.  Empty text converts to null for every type but text. -/
def convert (g : Guide) (tag : String) (v : Value) : Except Fault Value :=
  match SemanticType.ofTag? tag with
  | none | some .object | some .genericValue | some .genericEntity => .ok v
  | some t =>
    if v.isNull then .ok v
    else if t ≠ .string ∧ isNothing v then .ok .null
    else if isSettled t v then .ok v
    else (convertKnown g t v).mapError (Fault.declaredAs tag)

end CallContract.Conversion
