import CallContract.Journal
import CallContract.Patch

/-!
# Contract — the parameters of a service and what describes it

A contract refers to its parameters by identity, since two contracts may hold the same parameter.  It also names the
contracts whose parameters it inherits, the patches to apply afterwards, and the earlier definition it supersedes.
-/

namespace CallContract

open CallContract.Text

abbrev ParamId := Nat

abbrev ContractId := Nat

/-- The name of a contract whose parameters are inherited; through an optional reference they become optional. -/
structure Reference where
  serviceName : String
  optional : Bool := false
  deriving DecidableEq, Inhabited

namespace Reference

def ofFields (fields : Fields) : Except BuildFault Reference :=
  match fields.text "service_name", fields.flag "optional" false with
  | .ok serviceName, .ok optional => .ok { serviceName, optional }
  | name, optional =>
    .error (.refusedFields (Fields.faultOf "service_name" name ++ Fields.faultOf "optional" optional))

-- The references without those to a name that an earlier one has.
def distinct (refs : List Reference) : List Reference := refs.eraseDupsBy fun a b => a.serviceName == b.serviceName

end Reference

/-- The permission service to ask before a call. -/
structure Permission where
  serviceName : String
  mainAction? : Option String := none
  resourceDescription? : Option String := none

def Permission.ofFields (fields : Fields) : Except BuildFault Permission :=
  match fields.text "service_name", fields.text? "main_action", fields.text? "resource_description" with
  | .ok serviceName, .ok mainAction?, .ok resourceDescription? =>
    .ok { serviceName, mainAction?, resourceDescription? }
  | name, action, description =>
    .error (.refusedFields (Fields.faultOf "service_name" name ++ Fields.faultOf "main_action" action
      ++ Fields.faultOf "resource_description" description))

/-- What happens to a call while another one of the same service runs. -/
inductive SemaphorePolicy
  | none | wait | fail
  deriving DecidableEq, Inhabited

namespace SemaphorePolicy

def name : SemaphorePolicy → String
  | .none => "none"
  | .wait => "wait"
  | .fail => "fail"

def ofName? (name : String) : Option SemaphorePolicy :=
  [SemaphorePolicy.none, .wait, .fail].find? fun p => p.name = name

end SemaphorePolicy

/-- How much a service logs. -/
inductive Loudness
  | debug | normal | quiet
  deriving DecidableEq, Inhabited

namespace Loudness

def name : Loudness → String
  | .debug => "debug"
  | .normal => "normal"
  | .quiet => "quiet"

def ofName? (name : String) : Option Loudness := [Loudness.debug, .normal, .quiet].find? fun l => l.name = name

end Loudness

/-- What describes a service beside its parameters. -/
structure ServiceInfo where
  name : String
  engine : String := "java"
  location? : Option String := none
  invoke? : Option String := none
  description : String := ""
  defaultEntityName? : Option String := none
  auth : Bool := false
  exported : Bool := false
  validate : Bool := true
  debug : Bool := false
  useTransaction : Bool := true
  requireNewTransaction : Bool := false
  transactionTimeout : Int := 0
  maxRetry : Int := -1
  hideResultInLog : Bool := false
  priority? : Option Int := none
  semaphore : SemaphorePolicy := .none
  semaphoreWaitMillis : Int := 300000
  semaphoreSleepMillis : Int := 500
  permission? : Option Permission := none
  useInstead? : Option String := none
  deprecatedSince? : Option String := none
  deprecationReason? : Option String := none
  loudness : Loudness := .normal

structure Contract where
  info : ServiceInfo
  params : Entries ParamId := []
  declared : List Reference := []
  patches : List Patch := []
  properties : Entries Value := []
  internalGroup? : Option (List Reference) := none
  /-- The parameters that are converted in place, once they have been looked up. -/
  convertible? : Option (List ParamId) := none
  resolved : Bool := false
  supersedes? : Option ContractId := none

namespace Contract

instance : Inhabited Contract := ⟨{ info := { name := "" } }⟩

def name (c : Contract) : String := c.info.name

-- The engine of services that stand for a group of others.
def groupEngine : String := "group"

-- The engine of services that are made from an entity.
def entityEngine : String := "entity-auto"

def codeEngines : List String := ["java", "python"]

def isQuiet (c : Contract) : Bool := c.info.loudness = .quiet

def paramIds (c : Contract) : List ParamId := Entries.values c.params

/-! ## Health -/

/-- The problems of a definition that would break a call. -/
def problems (c : Contract) : List String :=
  let i := c.info
  let given := Param.isGiven
  let entity :=
    if i.engine = entityEngine ∧ ¬given i.defaultEntityName? then
      ["entity-auto service '" ++ i.name ++ "' does not specify a default-entity-name"]
    else []
  let code :=
    if codeEngines.contains i.engine ∧ ¬(given i.location? ∧ given i.invoke?) then
      [i.engine ++ " service '" ++ i.name ++ "' must specify both location and invoke"]
    else []
  let placeless :=
    if given i.invoke? ∧ ¬given i.location? ∧ i.engine ≠ groupEngine ∧ i.engine ≠ entityEngine then
      ["Service '" ++ i.name ++ "' specifies invoke '" ++ i.invoke?.getD "" ++ "' without a location"]
    else []
  let negative :=
    if i.semaphoreWaitMillis < 0 ∨ i.semaphoreSleepMillis < 0 then
      ["Service '" ++ i.name ++ "' has a negative semaphore wait/sleep time"]
    else []
  entity ++ code ++ placeless ++ negative

def record (level : Level) (message : String) : Record := { level, channel := .contracts, message }

-- The problems of a definition, each of which is recorded.
def checkHealth (c : Contract) : List String × Journal := (c.problems, c.problems.map (record .error))

/-- The record that a service has been replaced, if it has. -/
def deprecation (c : Contract) (warn : Bool) : Journal :=
  match c.info.useInstead? with
  | none => []
  | some other =>
    let since := (c.info.deprecatedSince?.filter (· ≠ "")).elim "" (", since " ++ ·)
    let reason := (c.info.deprecationReason?.filter (· ≠ "")).elim "" fun r => " because '" ++ r ++ "'"
    [record (if warn then .warning else .debug)
      ("DEPRECATED: the service " ++ c.name ++ " has been deprecated and replaced by " ++ other ++ since ++ reason)]

def shown (c : Contract) : String :=
  "ServiceContract(name=" ++ shownText c.name ++ ", engine=" ++ shownText c.info.engine ++ ", params="
    ++ toString c.params.length ++ ", resolved=" ++ (if c.resolved then "True" else "False") ++ ")"

end Contract

end CallContract
