import CallContract.Validator

/-!
# Param — one parameter of a service

A parameter has a name, a type tag, a direction and policies.  Building one turns a system mode into its direction and
marks the parameter as reserved.
-/

namespace CallContract

/-- Which markup the text of a parameter may carry. -/
inductive MarkupPolicy
  | none | safe | any
  deriving DecidableEq, Inhabited

namespace MarkupPolicy

def name : MarkupPolicy → String
  | .none => "none"
  | .safe => "safe"
  | .any => "any"

def ofName? (name : String) : Option MarkupPolicy :=
  [MarkupPolicy.none, .safe, .any].find? fun p => p.name = name

end MarkupPolicy

/-- A default that is worked out anew at every use. -/
inductive Producer
  /-- The number of uses so far in the session. -/
  | counter
  | newList
  | newMap
  | null
  /-- Fails whenever it is used. -/
  | failing
  deriving DecidableEq

inductive Default
  | value (v : Value)
  | produced (p : Producer)

namespace Default

instance : Inhabited Default := ⟨.value .null⟩

def isMissing : Default → Bool
  | .value v => v.isNull
  | .produced _ => false

end Default

/-- Why a default gives no value. -/
inductive DefaultFault
  | failed
  | notCopied (fault : Value.CopyFault)
  deriving DecidableEq

structure Param where
  name : String
  type : String := "String"
  mode : Mode := .input
  optional : Bool := false
  internal : Bool := false
  markup : MarkupPolicy := .none
  default : Default := .value .null
  /-- Keys with this prefix are gathered into a map. -/
  mapPrefix? : Option String := .none
  /-- Keys with this suffix are gathered into a list. -/
  listSuffix? : Option String := .none
  validators : List Validator := []
  typeConvert : Bool := false
  entityName? : Option String := .none
  fieldName? : Option String := .none
  formLabel? : Option String := .none
  formDisplay : Bool := true
  description : String := ""
  system : Bool := false

namespace Param

instance : Inhabited Param := ⟨{ name := "" }⟩

-- Whether an optional text is there and not empty.
def isGiven (text? : Option String) : Bool := text?.any (· ≠ "")

/-- The final form of a parameter with a listed mode. -/
def settled (p : Param) (markup : MarkupPolicy) : Param :=
  { p with mode := p.mode.base, system := p.system || p.mode.base ≠ p.mode, markup }

/-- The policy of a name, or else the one that the parameter has. -/
def policy (p : Param) (policyName? : Option String) : Except BuildFault MarkupPolicy :=
  match policyName? with
  | .none => .ok p.markup
  | some policyName => match MarkupPolicy.ofName? policyName with
    | some markup => .ok markup
    | .none => .error (.notListed policyName "AllowHtml")

/-- Checks a parameter and puts it into its final form; the markup policy may still be a text. -/
def build (p : Param) (policyName? : Option String) : Except BuildFault Param :=
  if !p.mode.isListed then .error (.definition (.invalidMode p.mode.name))
  else match p.policy policyName? with
    | .error fault => .error fault
    | .ok markup =>
      if isGiven p.mapPrefix? && isGiven p.listSuffix? then .error (.definition (.bothGroupings p.name))
      else .ok (p.settled markup)

-- A copy, which is checked again.
def clone (p : Param) : Except BuildFault Param := p.build .none

/-- The default of a parameter, given the number of uses of the counter so far; the second part is that number
afterwards. -/
def produceDefault (p : Param) (room : Room) (uses : Nat) : Except DefaultFault (Value × Nat) :=
  match p.default with
  | .value v => match v.copy room with
    | .ok v => .ok (v, uses)
    | .error fault => .error (.notCopied fault)
  | .produced .counter => .ok (.int (uses + 1 : Nat), uses + 1)
  | .produced .newList => .ok (.newList [], uses)
  | .produced .newMap => .ok (.ofEntries [], uses)
  | .produced .null => .ok (.null, uses)
  | .produced .failing => .error .failed

/-! ## Fields by name -/

def nullableText? : Value → Option (Option String)
  | .null => some .none
  | .text s => some (some s)
  | _ => .none

/-- The parameter with one of its fields set, without checks; `none` for a field that it does not have or a value that
the field cannot hold. -/
def setField? (p : Param) (field : String) (d : Default) : Option Param :=
  match field, d with
  | "default_value", d => some { p with default := d }
  | "name", .value (.text s) => some { p with name := s }
  | "type", .value (.text s) => some { p with type := s }
  | "mode", .value (.text s) => some { p with mode := .ofName s }
  | "description", .value (.text s) => some { p with description := s }
  | "optional", .value (.bool b) => some { p with optional := b }
  | "internal", .value (.bool b) => some { p with internal := b }
  | "type_convert", .value (.bool b) => some { p with typeConvert := b }
  | "form_display", .value (.bool b) => some { p with formDisplay := b }
  | "system", .value (.bool b) => some { p with system := b }
  | "string_map_prefix", .value v => (nullableText? v).map fun t => { p with mapPrefix? := t }
  | "string_list_suffix", .value v => (nullableText? v).map fun t => { p with listSuffix? := t }
  | "entity_name", .value v => (nullableText? v).map fun t => { p with entityName? := t }
  | "field_name", .value v => (nullableText? v).map fun t => { p with fieldName? := t }
  | "form_label", .value v => (nullableText? v).map fun t => { p with formLabel? := t }
  | _, _ => .none

-- The first message that a validator has for failing.
def failMessage? (p : Param) : Option String := p.validators.findSome? fun v => v.failMessage?.filter (· ≠ "")

end Param

end CallContract
