import CallContract.Text.Split
import CallContract.Text.Quoted

/-!
# Mode — directions of parameters and system modes

A parameter goes into a service, comes out of it, or both.  A call names one of these directions or its system mode,
which stands for the parameters that are reserved for the framework in that direction.  Any other name is kept as it
is and denotes no direction.
-/

namespace CallContract

open CallContract.Text

inductive Direction
  | input
  | output
  | both
  deriving DecidableEq, Inhabited

namespace Direction

def name : Direction → String
  | .input => "IN"
  | .output => "OUT"
  | .both => "INOUT"

def all : List Direction := [.input, .output, .both]

end Direction

inductive Mode
  | plain (d : Direction)
  | system (d : Direction)
  | unlisted (name : String)
  deriving DecidableEq

namespace Mode

abbrev input : Mode := .plain .input
abbrev output : Mode := .plain .output
abbrev both : Mode := .plain .both

instance : Inhabited Mode := ⟨input⟩

def name : Mode → String
  | .plain d => d.name
  | .system d => d.name ++ "-SYS"
  | .unlisted name => name

def listed : List Mode := Direction.all.map .plain ++ Direction.all.map .system

def ofName (name : String) : Mode := (listed.find? fun m => m.name = name).getD (.unlisted name)

/-- The names of the listed modes as messages show them. -/
def listedText : String :=
  String.ofList ('[' :: joinWith [',', ' '] (listed.map fun m => quoted m.name.toList) ++ [']'])

def isListed : Mode → Bool
  | .unlisted _ => false
  | _ => true

def direction? : Mode → Option Direction
  | .plain d | .system d => some d
  | .unlisted _ => none

/-- The plain mode of a system mode; other modes stay. -/
def base : Mode → Mode
  | .system d => .plain d
  | m => m

-- The part of a name before its first hyphen.
def nameBase (name : String) : String := String.ofList (name.toList.takeWhile (· ≠ '-'))

-- The part of a name after its first hyphen.
def nameScope (name : String) : String := String.ofList ((name.toList.dropWhile (· ≠ '-')).drop 1)

-- The mode named by the part of the name before its first hyphen.
def cut (m : Mode) : Mode := ofName (nameBase m.name)

-- Whether a parameter declared with a mode takes part in a direction.
def takesPartIn (declared direction : Mode) : Bool := declared = both || declared = direction

def isInput (m : Mode) : Bool := m = input || m = both

def isOutput (m : Mode) : Bool := m = output || m = both

/-! ## Reserved names -/

def localeKey : String := "locale"
def timeZoneKey : String := "timeZone"
def responseKey : String := "responseMessage"

-- The system parameters that go into a service.
def reservedInput : List String := [localeKey, timeZoneKey, "userLogin", "login.username", "login.password"]

/-- The system parameters that come out of a service. -/
def reservedOutput : List String :=
  [responseKey, "errorMessage", "errorMessageList", "errorMessageMap", "successMessage", "successMessageList"]

/-- The names of the system parameters of a direction. -/
def reserved : Direction → List String
  | .input => reservedInput
  | .output => reservedOutput
  | .both => reservedInput ++ reservedOutput

@[simp] theorem ofName_name_plain (d : Direction) : ofName (plain d).name = .plain d := by cases d <;> rfl

@[simp] theorem ofName_name_system (d : Direction) : ofName (system d).name = .system d := by cases d <;> rfl

-- A name is kept.
theorem name_ofName (n : String) : (ofName n).name = n := by
  unfold ofName
  cases h : listed.find? fun m => m.name = n with
  | none => rfl
  | some m => simpa using List.find?_some h

end Mode

end CallContract
