import CallContract.Context
import CallContract.Markup.Finding

/-!
# Validation — whether a context fits a contract

The checks are made in order: required parameters are there, no other keys are, values pass their validators or have
the declared form, and texts that go in carry no markup.  The first check that fails reports everything it has found.
-/

namespace CallContract.Validation

open CallContract.Context

/-! ## Violations -/

/-- The check that has failed. -/
inductive Check
  | required | known | typed | plain
  /-- Any check. -/
  | any
  deriving DecidableEq

def Check.code : Check → String
  | .required => "missing_required"
  | .known => "unknown_parameter"
  | .typed => "type_mismatch"
  | .plain => "html_policy"
  | .any => "validation_failed"

/-- All that one check has found. -/
structure Violation where
  check : Check
  messages : List String
  service : String
  direction : String
  /-- The names concerned: texts, unless something that is no map stands where a context should. -/
  names : List Value

namespace Violation

/-- The number of messages, in a sentence. -/
def summary (v : Violation) : String :=
  toString v.messages.length ++ " " ++ v.check.code ++ " error(s) for service [" ++ v.service ++ "] (" ++ v.direction
    ++ ")"

-- The messages in a row, or the summary when there are none.
def text (v : Violation) : String := if v.messages.isEmpty then v.summary else "; ".intercalate v.messages

end Violation

/-- Why a context is not accepted. -/
inductive Failure
  | violation (v : Violation)
  | definition (d : DefinitionFault)
  | importing (f : ImportFault)
  | conversion (f : Fault)
  | markup (r : Markup.Refusal)
  | context (f : ContextFault)
  /-- A parameter has been renamed and is not found under its name. -/
  | lostParam (name : String)

/-- What has been recorded, and the predicates that have been asked, with what they were asked about. -/
structure Trace where
  journal : Journal := []
  calls : List (String × Value) := []

-- A check; a failing one keeps its records.
abbrev Checking := EStateM Failure Trace

/-- What is being checked. -/
structure Subject where
  store : Store
  contract : Contract
  direction : Direction
  /-- What stands where the context should. -/
  given : Value
  locale? : Option Locale
  /-- What finds markup in texts. -/
  find : Markup.Finder
  room : Room

namespace Subject

variable (x : Subject)

-- The context; what is no map has no entries.
def context : Entries Value := (entries x.given).toOption.getD []

def demandMap : Checking Unit :=
  match entries x.given with
  | .ok _ => pure ()
  | .error fault => throw (.context fault)

def fieldName (name : String) : String := x.contract.name ++ "." ++ name

/-- What a check reports: nothing, or all that it has found. -/
def report (check : Check) (found : List (Value × List String)) : Checking Unit :=
  let failed := found.filter (!·.2.isEmpty)
  if failed.isEmpty then pure ()
  else throw (.violation
    { check, messages := failed.flatMap (·.2), service := x.contract.name, direction := x.direction.name,
      names := failed.map (·.1) })

def param (name : String) : Checking Param :=
  match Entries.get? name x.contract.params with
  | some id => pure (x.store.param id)
  | none => throw (.lostParam name)

/-! ## Required and known names -/

def requiredNames : List String := x.store.namesFor x.contract (.plain x.direction) false true

def declaredNames : List String := x.store.namesFor x.contract (.plain x.direction) true true

def missingMessage (name : String) : String :=
  "The following required parameter is missing: [" ++ x.fieldName name ++ "]"

def checkRequired : Checking Unit := do
  if !x.requiredNames.isEmpty then x.demandMap
  let missing := x.requiredNames.filter fun name => (present? name x.context).isNone
  let found ← missing.mapM fun name => do
    let p ← x.param name
    return (.text name, [p.failMessage?.getD (x.missingMessage name)])
  x.report .required found

/-- The keys of the context, each of which can be compared with names. -/
def keys : Checking (List Value) :=
  match Context.keys x.given with
  | .error fault => throw (.context fault)
  | .ok keys => match keys.findSome? keyObstacle? with
    | some obstacle => throw (.conversion (Fault.ofObstacle obstacle))
    | none => pure keys

/-- Whether a key belongs to a declared or reserved parameter. -/
def isKnown : Value → Bool
  | .text key => x.declaredNames.contains key || (Mode.reserved x.direction).contains key
  | _ => false

def unknownMessage (key : String) : String := "Unknown parameter found: [" ++ x.fieldName key ++ "]"

def checkKnown : Checking Unit := do
  let unknown := (← x.keys).filter fun key => !x.isKnown key
  let found ← unknown.mapM fun key => match key.displayed x.room with
    | .ok shown => pure (key, [x.unknownMessage (String.ofList shown)])
    | .error reason => throw (.conversion (Fault.ofUndisplayed reason))
  x.report .known found

/-! ## Types and validators -/

def typeMessage (p : Param) (v : Value) : String :=
  "Type check failed for field [" ++ x.fieldName p.name ++ "]; expected type is ["
    ++ SemanticType.shownName p.type ++ "]; actual type is [" ++ v.kind ++ "]"

def failedMessage (p : Param) (validator : Validator) : String :=
  (validator.failMessage?.filter (· ≠ "")).getD
    ("The following parameter failed validation [" ++ validator.name ++ "]: [" ++ x.fieldName p.name ++ "]")

/-- The record of a predicate that gave no answer. -/
def raisedRecord (p : Param) (validator : Validator) : Record :=
  { level := .error
    channel := .validation
    message := "Validator [" ++ validator.name ++ "] raised for field [" ++ x.fieldName p.name ++ "]"
    details? := some { event := "validator_error", service? := some x.contract.name, param? := some p.name } }

/-- What a validator looks at: the value, or its text. -/
def argument (p : Param) (validator : Validator) (v : Value) : Checking Value :=
  if validator.seesText then
    match Conversion.toText x.room x.locale? (some p.name) v with
    | .ok text => pure text
    | .error (.mismatch _) => match v.displayed x.room with
      | .ok shown => pure (.text (String.ofList shown))
      | .error reason => throw (.conversion (Fault.ofUndisplayed reason))
    | .error fault => throw (.conversion fault)
  else pure v

/-- Asks a predicate; one that gives no answer counts as failed. -/
def ask (p : Param) (validator : Validator) (holds : Predicate) (v : Value) : Checking (List String) :=
  match holds v with
  | some true => pure []
  | some false => pure [x.failedMessage p validator]
  | none => do
    modify fun t => { t with journal := t.journal ++ [x.raisedRecord p validator] }
    return [x.failedMessage p validator]

/-- Asks a predicate and keeps what it was asked about, if that can be shown. -/
def askOpenly (p : Param) (validator : Validator) (holds : Predicate) (v : Value) : Checking (List String) := do
  if v.canBeShown then modify fun t => { t with calls := t.calls ++ [(validator.name, v)] }
  x.ask p validator holds v

/-- The messages of one validator about a value. -/
def runValidator (p : Param) (v : Value) (validator : Validator) : Checking (List String) :=
  match validator.rule with
  | .declaredType =>
    if SemanticType.admits p.type v then pure []
    else pure [(validator.failMessage?.filter (· ≠ "")).getD (x.typeMessage p v)]
  | .predicate holds => do x.askOpenly p validator holds (← x.argument p validator v)
  | .imported path => match Predicate.load path with
    | .error fault => throw (.importing fault)
    | .ok holds => do x.ask p validator holds (← x.argument p validator v)

/-- The messages about the value of a parameter. -/
def judge (p : Param) (v : Value) : Checking (List String) :=
  if p.validators.isEmpty then pure (if SemanticType.admits p.type v then [] else [x.typeMessage p v])
  else do return (← p.validators.mapM (x.runValidator p v)).flatten

/-- The declared names that have a value, with their values. -/
def presentValues : List (String × Value) :=
  x.declaredNames.filterMap fun name => (present? name x.context).map ((name, ·))

/-- Every value passes its validators or has the declared form. -/
def checkTyped : Checking Unit := do
  if !x.declaredNames.isEmpty then x.demandMap
  let found ← x.presentValues.mapM fun (name, v) => do
    let p ← x.param name
    return (.text name, ← x.judge p v)
  x.report .typed found

/-! ## Markup -/

def plainTexts : List (String × String) :=
  (x.store.inputs x.contract).filterMap fun p =>
    if p.markup ≠ .any ∧ SemanticType.isText p.type then
      match Entries.get? p.name x.context with
      | some (.text s) => some (p.name, s)
      | _ => none
    else none

def checkPlain : Checking Unit := do
  let found ← x.plainTexts.mapM fun (name, s) =>
    match Markup.messages x.find (x.fieldName name) s with
    | .ok messages => pure (.text name, messages)
    | .error refusal => throw (.markup refusal)
  x.report .plain found

/-! ## All checks -/

/-- The checks in order.  Markup matters only for what goes in. -/
def checks : Checking Unit := do
  x.checkRequired
  x.checkKnown
  x.checkTyped
  if x.direction = .input then x.checkPlain

def violationRecord (v : Violation) : Record :=
  { level := .error
    channel := .validation
    message := "Service [" ++ x.contract.name ++ "] " ++ x.direction.name ++ " validation failed: " ++ v.text
    details? := some { event := v.check.code, service? := some x.contract.name, names? := some v.names } }

/-- The checks, whose violation is recorded. -/
def recordedChecks : Checking Unit := fun t =>
  match x.checks t with
  | .error (.violation v) t => .error (.violation v) { t with journal := t.journal ++ [x.violationRecord v] }
  | r => r

end Subject

/-- The direction that a mode is validated for: that of its name before the first hyphen. -/
def direction? (mode : Mode) : Option Direction :=
  match mode.cut with
  | .plain .input => some .input
  | .plain .output => some .output
  | _ => none

/-- Validates a context for a mode; `find` finds the markup.  Results that report an error are not checked. -/
def validateWith (find : Markup.Finder) (room : Room) (s : Store) (c : Contract) (context : Value) (mode : Mode)
    (locale? : Option Locale) (isRecorded : Bool) : Checking Unit :=
  match direction? mode with
  | none => throw (.definition (.invalidValidationMode mode.name c.name))
  | some direction =>
    let x : Subject := { store := s, contract := c, direction, given := given context, locale?, find, room }
    match if direction = .output then reportsError context else .ok false with
    | .error fault => throw (.context fault)
    | .ok true => pure ()
    | .ok false => if isRecorded then x.recordedChecks else x.checks

-- Validates a context for a mode.
def validate : Room → Store → Contract → Value → Mode → Option Locale → Bool → Checking Unit :=
  validateWith Markup.find?

/-- Whether a context is valid for going in; only a violation makes it invalid. -/
def isValid (room : Room) (s : Store) (c : Contract) (context : Value) (locale? : Option Locale) :
    Checking Bool := fun t =>
  match validate room s c context .input locale? false t with
  | .ok _ t => .ok true t
  | .error (.violation _) t => .ok false t
  | .error f t => .error f t

end CallContract.Validation
