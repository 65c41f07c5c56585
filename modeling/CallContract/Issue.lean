import CallContract.Resolution.Inheritance
import CallContract.Validation

/-!
# Issue — errors of each kind, and the texts that they show

An error is made from arguments, whose number its kind fixes.  A general error shows its arguments themselves; the
others put them into a sentence.
-/

namespace CallContract

open CallContract.Resolution CallContract.Validation

inductive Issue
  /-- An error that says no more than its arguments. -/
  | general
  | tooDeep
  | warning
  | danglingPatch
  | missingInterface
  | conversion
  | violation (check : Check)

namespace Issue

variable (room : Room)

def shown? (v : Value) : Option String := (v.displayed room).toOption.map String.ofList

/-- The text of a general error: its only argument as it is displayed, or the written form of several. -/
def generalText? : List Value → Option String
  | [] => some ""
  | [argument] => shown? room argument
  | arguments => ((Value.tuple arguments).written room).toOption.map String.ofList

def text? : Value → Option String
  | .text s => some s
  | _ => none

-- The members of a collection; those of a text are its characters, those of a map its keys.
def members? (v : Value) : Option (List Value) := (Context.keys v).toOption

/-- The violation that is made from messages, a service, a direction and perhaps names. -/
def violation? (check : Check) (arguments : List Value) : Option Violation :=
  let made := fun (messages service direction names : Value) => do
    let messages ← (← members? messages).mapM text?
    let names ← if names.isTruthy then members? names else some []
    return { check, messages, service := ← shown? room service, direction := ← shown? room direction, names }
  match arguments with
  | [messages, service, direction] => made messages service direction .null
  | [messages, service, direction, names] => made messages service direction names
  | _ => none

/-- The text of an error that is made from arguments; `none` when it cannot be made from them. -/
def message? : Issue → List Value → Option String
  | .general, arguments => generalText? room arguments
  | .tooDeep, [service, limit] => do return tooDeepText (← shown? room service) (← shown? room limit)
  | .warning, [message, _, _] => shown? room message
  | .danglingPatch, [service, name] => do
    return (Warning.danglingPatch (← shown? room service) (← shown? room name)).message
  | .missingInterface, [service, name] => do
    return (Warning.missingInterface (← shown? room service) (← shown? room name)).message
  | .conversion, message :: rest => if rest.length ≤ 3 then shown? room message else none
  | .violation check, arguments => (violation? room check arguments).map Violation.text
  | _, _ => none

end Issue

end CallContract
