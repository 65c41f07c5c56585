import CallContract.Value.Equal
import CallContract.Value.Written

/-!
# Fault — why a value cannot be converted

Most values that do not convert are mismatches: the converter expected something else.  The other faults lie beyond
what a converter can judge.
-/

namespace CallContract

open CallContract.Number

/-- What a converter reads. -/
inductive Expectation
  | locale | timeZone | integer | float | decimal | boolean | date | timestamp | time | text | list | map
  deriving DecidableEq, Inhabited

namespace Expectation

def words : Expectation → String
  | .locale => "Locale"
  | .timeZone => "TimeZone"
  | .integer => "int"
  | .float => "float"
  | .decimal => "Decimal"
  | .boolean => "bool"
  | .date => "date (YYYY-MM-DD)"
  | .timestamp => "datetime"
  | .time => "time (HH:MM:SS)"
  | .text => "string-convertible scalar"
  | .list => "list"
  | .map => "map (JSON object)"

/-- The name of the type that was expected. -/
def typeName : Expectation → String
  | .date => "Date"
  | .timestamp => "Timestamp"
  | .time => "Time"
  | .text => "String"
  | .list => "List"
  | .map => "Map"
  | e => e.words

end Expectation

/-- A value that is not what was expected. -/
structure Mismatch where
  expected : Expectation
  value : Value
  /-- The written form of the value. -/
  written : String
  field? : Option String
  typeName : String

def Mismatch.message (m : Mismatch) : String :=
  "Expected " ++ m.expected.words ++ ", got " ++ m.value.kind ++ ": " ++ m.written

inductive Fault
  | mismatch (m : Mismatch)
  /-- A value cannot be a member of a set. -/
  | notMember
  /-- The offset of a timestamp from universal time is a day or more. -/
  | offsetTooLong
  /-- A text names a moment outside of the years 1 to 9999. -/
  | outOfYears
  /-- A number in a text is too long to be divided. -/
  | tooPrecise
  /-- A separator without characters. -/
  | emptySeparator
  /-- An integer with too many digits to be written. -/
  | tooManyDigits
  /-- Collections in a value, or objects and arrays in a text, lie too deep within each other. -/
  | tooNested

namespace Fault

/-- The text of a fault that is no mismatch. -/
def reason : Fault → String
  | .mismatch m => m.message
  | .notMember => "unhashable type"
  | .offsetTooLong =>
    "offset must be a timedelta strictly between -timedelta(hours=24) and timedelta(hours=24)."
  | .outOfYears => "date value out of range"
  | .tooPrecise => "the result has too many digits"
  | .emptySeparator => "empty separator"
  | .tooNested => "collections are nested too deeply"
  | .tooManyDigits => Whole.limitMessage ""

def ofUnwritten : Value.Unwritten → Fault
  | .tooManyDigits => .tooManyDigits
  | .tooNested => .tooNested

def ofUndisplayed : Value.Undisplayed → Fault
  | .unwritten reason => ofUnwritten reason
  | .offsetTooLong => .offsetTooLong

/-- The mismatch of a value, which needs the value's written form. -/
def ofMismatch (room : Room) (expected : Expectation) (value : Value) (field? : Option String) : Fault :=
  match value.written room with
  | .ok written => .mismatch ⟨expected, value, String.ofList written, field?, expected.typeName⟩
  | .error reason => ofUnwritten reason

/-- Why a value with a part that is an obstacle cannot be a member of a set. -/
def ofObstacle : Value → Fault
  | .timestamp _ => .offsetTooLong
  | _ => .notMember

def ofSetFault : Value.SetFault → Fault
  | .obstacle part => ofObstacle part
  | .tooNested => .tooNested

/-- A mismatch under the tag of the declared type. -/
def declaredAs (tag : String) : Fault → Fault
  | .mismatch m => .mismatch { m with typeName := tag }
  | f => f

end Fault

end CallContract
