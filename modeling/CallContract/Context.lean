import CallContract.Conversion.ByType
import CallContract.Settings
import CallContract.Views

/-!
# Context — the arguments and results of a call

A context is a map from names to values.  It may carry the locale and the time zone that its texts are written in, and
the response of a call.  Another value may stand where a context should: names can be sought in texts and collections,
but only a map has values at names.
-/

namespace CallContract

open CallContract.Calendar

/-- Why work on a context ends early. -/
inductive ContextFault
  | definition (d : DefinitionFault)
  | conversion (f : Fault)
  | default (f : DefaultFault)
  /-- A read-only map cannot be changed. -/
  | notWritable
  /-- A value that is no map stands where a context should. -/
  | notAMap
  /-- A name is sought in a value that has no parts, or the value at a name is wanted from one that is no map. -/
  | notReadable

/-- How a context can be used. -/
inductive Access
  | writable
  | readOnly
  /-- The context is no map. -/
  | none
  deriving DecidableEq

/-- A context on which work is done, with what has been recorded. -/
structure ContextWork where
  access : Access := .writable
  entries : Entries Value := []
  failures : List Mismatch := []
  journal : Journal := []
  /-- How often the counter of defaults has been used. -/
  uses : Nat := 0

-- An action on a context; a failing one keeps what was done before.
abbrev ContextAction := EStateM ContextFault ContextWork

namespace Context

/-! ## Values as contexts -/

-- The context that is meant by a value: an empty one by null and what else counts as false.
def given (v : Value) : Value := if v.isTruthy then v else .ofEntries []

def entries : Value → Except ContextFault (Entries Value)
  | .map _ entries => .ok entries
  | _ => .error .notAMap

def isText (s : String) : Value → Bool
  | .text t => t = s
  | _ => false

/-- Whether a name is a key of a map, a part of a text, or a member of a collection. -/
def has (name : String) : Value → Except ContextFault Bool
  | .map _ entries => .ok (Entries.has name entries)
  | .text s => .ok (Text.occursIn name.toList s.toList)
  | .list _ items | .tuple items | .set _ items => .ok (items.any (isText name))
  | _ => .error .notReadable

/-- The value at a name that is there, which only a map gives. -/
def lookup? (name : String) : Value → Except ContextFault (Option Value)
  | .map _ entries => .ok (Entries.get? name entries)
  | v => match has name v with
    | .ok false => .ok none
    | .ok true => .error .notReadable
    | .error fault => .error fault

/-- The keys of a map, the characters of a text, or the members of a collection. -/
def keys : Value → Except ContextFault (List Value)
  | .map _ entries => .ok ((Entries.keys entries).map .text)
  | .text s => .ok (s.toList.map fun c => .text (String.singleton c))
  | .list _ items | .tuple items | .set _ items => .ok items
  | .bytes b => .ok (b.map fun x => .int x.toNat)
  | _ => .error .notReadable

/-- What keeps a value from being compared with the names of parameters. -/
def keyObstacle? : Value → Option Value
  | .set _ _ => none
  | v => v.obstacle?

def present? (key : String) (entries : Entries Value) : Option Value :=
  (Entries.get? key entries).filter (!·.isNull)

/-- Whether a context reports that a call has failed. -/
def reportsError (v : Value) : Except ContextFault Bool := do
  let context := given v
  if ← has Mode.responseKey context then
    match Entries.get? Mode.responseKey (← entries context) with
    | some (.text response) => return response = "error" || response = "fail"
    | _ => return false
  else return false

/-! ## Work on a context -/

def access : Value → Access
  | .map readOnly _ => if readOnly then .readOnly else .writable
  | _ => .none

def begin (v : Value) (uses : Nat) : ContextWork :=
  { access := access v, entries := (entries v).toOption.getD [], uses }

/-- The context after work that started with `v`. -/
def finished (v : Value) (w : ContextWork) : Value :=
  match v with
  | .map readOnly _ => .map readOnly w.entries
  | v => v

def found {α : Type} : Except ContextFault α → ContextAction α
  | .ok a => pure a
  | .error fault => throw fault

def read : ContextAction (Entries Value) := do
  let w ← get
  if w.access = .none then throw .notAMap
  return w.entries

def write (key : String) (v : Value) : ContextAction Unit := do
  let w ← get
  if w.access ≠ .writable then throw .notWritable
  set { w with entries := Entries.put key v w.entries }

/-! ## Failures -/

/-- The record of a value that did not convert. -/
def failureRecord (service? : Option String) (m : Mismatch) : Record :=
  let field := m.field?.getD "None"
  { level := .warning
    channel := .coercion
    message := "Type conversion of [" ++ field ++ "] failed for service [" ++ service?.getD "None" ++ "]: " ++ m.message
    details? := some { event := "type_conversion_failure", service?, param? := some field } }

def noteFailure (service? : Option String) (m : Mismatch) (w : ContextWork) : ContextWork :=
  { w with failures := w.failures ++ [m], journal := w.journal ++ [failureRecord service? m] }

/-- The result of a conversion, or else a substitute: a mismatch is recorded, and other faults end the work. -/
def orElseNoting (service? : Option String) (substitute : Value) : Except Fault Value → ContextAction Value
  | .ok v => pure v
  | .error (.mismatch m) => do
    modify (noteFailure service? m)
    return substitute
  | .error fault => throw (.conversion fault)

/-! ## Locale and zone -/

/-- What a context carries under a key, or else a substitute; a value that cannot be read is recorded. -/
def carried {α : Type} (key : String) (read : Option String → Value → Except Fault Value) (pick? : Value → Option α)
    (substitute : α) (source : Entries Value) : ContextAction α := do
  match present? key source with
  | none => return substitute
  | some v => return (pick? (← orElseNoting none .null (read (some key) v))).getD substitute

-- The locale that a context carries, or else the one of the settings.
def locale (settings : Settings) (room : Room) : Entries Value → ContextAction Locale :=
  carried Mode.localeKey (Conversion.toLocale room) Value.locale? settings.locale

-- The time zone that a context carries, or else the one of the settings.
def timeZone (settings : Settings) (world : World) : Entries Value → ContextAction Zone :=
  carried Mode.timeZoneKey (Conversion.toTimeZone world) Value.zone? (settings.timeZone world)

/-! ## Names -/

/-- A name behind a word, with its first letter in upper case. -/
def joinedName (word? : Option String) (name : String) : String :=
  match word?.filter (· ≠ "") with
  | none => name
  | some word => word ++ String.ofList (Text.upper (name.toList.take 1)) ++ String.ofList (name.toList.drop 1)

/-- The entries whose key starts with a text, under the rest of their keys. -/
def gatherMap (start : String) (source : Entries Value) : Entries Value :=
  source.filterMap fun (key, v) =>
    if start.toList.isPrefixOf key.toList then some (String.ofList (key.toList.drop start.length), v) else none

def gatherList (ending : String) (source : Entries Value) : List Value :=
  source.filterMap fun (key, v) => if ending.toList.isSuffixOf key.toList then some v else none

end Context

end CallContract
