import CallContract.Definition
import CallContract.Value.Equal

/-!
# Validator — named rules for the value of a parameter

A rule is the check of the declared type, a predicate, or the path of a predicate that is loaded when it is needed.  A
predicate may fail to give an answer.
-/

namespace CallContract

open CallContract.Text

-- The answer about a value; `none` when the predicate fails.
abbrev Predicate := Value → Option Bool

inductive Rule
  | declaredType
  | predicate (holds : Predicate)
  /-- The path of a module and a function in it. -/
  | imported (path : String)

structure Validator where
  name : String
  rule : Rule := .declaredType
  /-- Whether the rule sees the value as text. -/
  seesText : Bool := false
  failMessage? : Option String := none

namespace Predicate

/-- The number of elements is at least `least`, which must be a number. -/
def hasLength (least : Value) : Predicate := fun v => do
  let n ← v.length?
  let least ← least.ordered?
  return least.isAtMost n

-- The value is a number greater than zero.
def isPositive : Predicate := fun v => v.ordered?.map (·.isPositive)

def equals (other : Value) : Predicate := fun v => Value.equal? v other

def isText : Predicate
  | .text _ => some true
  | _ => some false

def isAbsolutePath : Predicate
  | .text s => some (s.toList.head? = some '/')
  | .bytes b => some (b.head? = some 47)
  | _ => none

def holds : Predicate := fun v => some v.isTruthy

-- The value has a length that is not zero.
def isFilled : Predicate := fun v => v.length?.map (0 < ·)

/-- A predicate that gives no answer about what cannot be shown. -/
def openly (p : Predicate) : Predicate := fun v => if v.canBeShown then p v else none

/-- The predicates that go by a name, with the argument that they are given, before `openly`. -/
def bare? (name : String) (argument : Value) : Option Predicate :=
  match name, argument with
  | "always", _ => some fun _ => some true
  | "never", _ => some fun _ => some false
  | "positive", _ => some isPositive
  | "min_len", least => some (hasLength least)
  | "equals", other => some (equals other)
  | "is_str", _ => some isText
  | "give", given => some fun _ => some given.isTruthy
  | "explode", _ => some fun _ => none
  | _, _ => none

-- The predicates that go by a name.
def named? (name : String) (argument : Value) : Option Predicate := (bare? name argument).map openly

end Predicate

/-! ## Loading -/

/-- Why a path gives no predicate. -/
inductive ImportFault
  | definition (d : DefinitionFault)
  /-- The name of the module is empty. -/
  | emptyModule
  /-- The name of the module starts with a dot. -/
  | relativeModule
  | missingModule (name : String)
  deriving DecidableEq

/-- The modules that can be imported, and the predicates in them. -/
def importable : List (String × List (String × Predicate)) :=
  [("os.path", [("isabs", .isAbsolutePath)]), ("builtins", [("len", .isFilled), ("bool", .holds)])]

def Predicate.load (path : String) : Except ImportFault Predicate :=
  let moduleName := String.ofList (path.toList.takeWhile (· ≠ ':'))
  let function := String.ofList ((path.toList.dropWhile (· ≠ ':')).drop 1)
  if function = "" then .error (.definition (.malformedPath path))
  else if moduleName = "" then .error .emptyModule
  else if moduleName.toList.head? = some '.' then .error .relativeModule
  else match importable.lookup moduleName with
    | none => .error (.missingModule moduleName)
    | some functions => match functions.lookup function with
      | some p => .ok p
      | none => .error (.definition (.missingFunction function moduleName))

end CallContract
