import CallContract.Mode
import CallContract.Text.Quoted

/-!
# Definition — what can be wrong with a definition

Definitions are checked when they are built, and the names of modes whenever one is used.
-/

namespace CallContract

open CallContract.Text

-- A text in quotes, as messages show it.
def shownText (s : String) : String := String.ofList (quoted s.toList)

/-- A rule that a definition breaks. -/
inductive DefinitionFault
  /-- A parameter has a mode that is not listed. -/
  | invalidMode (mode : String)
  /-- A parameter gathers its value by prefix and by suffix. -/
  | bothGroupings (param : String)
  | invalidCoercionMode (mode service : String)
  | invalidValidationMode (mode service : String)
  /-- A contract would come to supersede itself. -/
  | cyclicVersions (service : String)
  /-- A path does not name a module and a function. -/
  | malformedPath (path : String)
  | missingFunction (function moduleName : String)
  deriving DecidableEq

namespace DefinitionFault

def message : DefinitionFault → String
  | .invalidMode mode => "Invalid parameter mode '" ++ mode ++ "' (supported: " ++ Mode.listedText ++ ")"
  | .bothGroupings param => "Parameter '" ++ param ++ "' declares both string-map-prefix and string-list-suffix"
  | .invalidCoercionMode mode service =>
    "Invalid coercion mode '" ++ mode ++ "' for service [" ++ service ++ "] (supported: " ++ Mode.listedText ++ ")"
  | .invalidValidationMode mode service => "Invalid validation mode '" ++ mode ++ "' for service [" ++ service ++ "]"
  | .cyclicVersions service =>
    "Service [" ++ service ++ "] redefinition would create a cycle in the supersedes chain"
  | .malformedPath path => "Validator path must look like 'module:function', got " ++ shownText path
  | .missingFunction function moduleName =>
    "Unable to find validation method [" ++ function ++ "] in module [" ++ moduleName ++ "]"

end DefinitionFault

/-- What is wrong with one field of an object. -/
inductive FieldFault
  | missing | notText | badValue | notListed | unreadableFlag | notFlag | unknownField
  deriving DecidableEq

/-- Why an object cannot be built. -/
inductive BuildFault
  | definition (d : DefinitionFault)
  /-- A text is not among the names of an enumeration. -/
  | notListed (text enumeration : String)
  /-- Fields are refused. -/
  | refusedFields (fields : List (String × FieldFault))
  /-- An object without its name. -/
  | unnamed
  deriving DecidableEq

/-- The message about a text that is not among the names of an enumeration. -/
def notListedMessage (text enumeration : String) : String :=
  shownText text ++ " is not a valid " ++ enumeration

end CallContract
