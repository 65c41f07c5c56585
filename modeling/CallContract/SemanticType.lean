import CallContract.Value

/-!
# SemanticType — the types that parameters declare

A parameter names its type by a short or a qualified tag.  Other tags are types of the application, which say nothing
about the form of a value.
-/

namespace CallContract

inductive SemanticType
  | string | boolean | integer | long | float | double | bigDecimal | bigInteger
  | timestamp | date | time | list | map | set | collection | locale | timeZone
  | object | genericValue | genericEntity
  deriving DecidableEq, Inhabited

namespace SemanticType

def name : SemanticType → String
  | .string => "String"
  | .boolean => "Boolean"
  | .integer => "Integer"
  | .long => "Long"
  | .float => "Float"
  | .double => "Double"
  | .bigDecimal => "BigDecimal"
  | .bigInteger => "BigInteger"
  | .timestamp => "Timestamp"
  | .date => "Date"
  | .time => "Time"
  | .list => "List"
  | .map => "Map"
  | .set => "Set"
  | .collection => "Collection"
  | .locale => "Locale"
  | .timeZone => "TimeZone"
  | .object => "Object"
  | .genericValue => "GenericValue"
  | .genericEntity => "GenericEntity"

def all : List SemanticType :=
  [.string, .boolean, .integer, .long, .float, .double, .bigDecimal, .bigInteger, .timestamp, .date, .time, .list,
    .map, .set, .collection, .locale, .timeZone, .object, .genericValue, .genericEntity]

/-- The package of the qualified tag; the entity types have none. -/
def package? : SemanticType → Option String
  | .string | .boolean | .integer | .long | .float | .double | .object => some "java.lang"
  | .bigDecimal | .bigInteger => some "java.math"
  | .timestamp | .date | .time => some "java.sql"
  | .list | .map | .set | .collection | .locale | .timeZone => some "java.util"
  | .genericValue | .genericEntity => none

def qualifiedName? (t : SemanticType) : Option String := t.package?.map (· ++ "." ++ t.name)

/-- The type of a tag; `none` for a type of the application. -/
def ofTag? (tag : String) : Option SemanticType :=
  all.find? fun t => t.name = tag || t.qualifiedName? = some tag

def isIntegral (t : SemanticType) : Bool := t = .integer || t = .long || t = .bigInteger

def isFloating (t : SemanticType) : Bool := t = .float || t = .double

/-- Whether a value that is not null has the form that a type asks for. -/
def admitsPresent (t : SemanticType) (v : Value) : Bool :=
  match t, v with
  | .string, .text _ => true
  | .boolean, .bool _ => true
  | .integer, .int _ | .long, .int _ | .bigInteger, .int _ => true
  | .float, .float _ | .float, .int _ | .double, .float _ | .double, .int _ => true
  | .bigDecimal, .decimal _ | .bigDecimal, .int _ => true
  | .timestamp, .timestamp _ => true
  | .date, .date _ => true
  | .time, .time _ => true
  | .list, .list _ _ | .list, .tuple _ => true
  | .set, .set _ _ => true
  | .collection, .list _ _ | .collection, .tuple _ | .collection, .set _ _ => true
  | .map, .map _ _ | .genericValue, .map _ _ | .genericEntity, .map _ _ => true
  | .locale, .locale _ => true
  | .timeZone, .zone _ => true
  | .object, _ => true
  | _, _ => false

/-- Whether a value fits a tag.  Null fits every tag, and every value fits a tag of the application. -/
def admits (tag : String) (v : Value) : Bool :=
  v.isNull || match ofTag? tag with
    | some t => t.admitsPresent v
    | none => true

/-- The short tag of a type, or the tag as it is. -/
def shownName (tag : String) : String :=
  match ofTag? tag with
  | some t => t.name
  | none => tag

def isText (tag : String) : Bool := ofTag? tag = some .string

end SemanticType

end CallContract
