import CallContract.Conversion.Scalar
import CallContract.JsonText

/-!
# Collection — converting to lists, sets and maps

A list may be written as items between separators, with or without brackets around them; a map is written as a JSON
object.
-/

namespace CallContract.Conversion

open CallContract.Text

/-- The text between brackets that stand at both ends; other text stays. -/
def withoutBrackets (s : List Char) : List Char :=
  if s.head? = some '[' ∧ s.getLast? = some ']' then (s.drop 1).dropLast else s

/-- The items of a text: trimmed, and without the empty ones. -/
def itemsOfText (separator s : List Char) : List (List Char) :=
  (splitOn separator (withoutBrackets (trim s))).filterMap fun item =>
    let item := trim item
    if item.isEmpty then none else some item

/-- Reads a list.  A list stays the one that it is; the members of a tuple or set make a new one. -/
def toList (room : Room) (separator : String) (field? : Option String) (v : Value) : Except Fault Value :=
  if isNothing v then .ok .null
  else match v with
    | .list identity items => .ok (.list identity items)
    | .tuple items | .set _ items => .ok (.newList items)
    | .text s =>
      if separator = "" then .error .emptySeparator
      else .ok (.newList ((itemsOfText separator.toList s.toList).map fun item => .text (String.ofList item)))
    | v => .error (Fault.ofMismatch room .list v field?)

/-- Reads a set: the different members of what reads as a list. -/
def toSet (room : Room) (field? : Option String) (v : Value) : Except Fault Value := do
  match ← toList room "," field? v with
  | .list _ items => (Value.setOf room false items).mapError Fault.ofSetFault
  | v => return v

def toMap (room : Room) (field? : Option String) (v : Value) : Except Fault Value :=
  let refused := Except.error (Fault.ofMismatch room .map v field?)
  if isNothing v then .ok .null
  else match v with
    | .map false entries => .ok (.map false entries)
    | .text s => match JsonText.read room s.toList with
      | .ok (.map readOnly entries) => .ok (.map readOnly entries)
      | .error .tooNested => .error .tooNested
      | _ => refused
    | _ => refused

end CallContract.Conversion
