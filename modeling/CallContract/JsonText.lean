import CallContract.Entries
import CallContract.Number.Whole
import CallContract.Number.Double
import CallContract.Text.Quoted
import CallContract.Value

/-!
# JsonText — values and strings written as JSON

The grammar is that of JSON with `NaN`, `Infinity` and `-Infinity` as further numbers.  A number without fraction and
exponent is an integer.  Of a key that occurs more than once the last value counts, at the place of the first.  Objects
and arrays may lie within each other as far as there is room.
-/

namespace CallContract.JsonText

open CallContract.Number CallContract.Text

def isSpace (c : Char) : Bool := c = ' ' || c = '\t' || c = '\n' || c = '\r'

def skipSpace (s : List Char) : List Char := s.dropWhile isSpace

/-- The rest of a text behind a word that it starts with. -/
def after? (word : String) (s : List Char) : Option (List Char) :=
  if word.toList.isPrefixOf s then some (s.drop word.length) else none

/-! ## Strings -/

def hexDigit? (c : Char) : Option Nat :=
  if '0' ≤ c ∧ c ≤ '9' then some (c.toNat - 48)
  else if 'a' ≤ c ∧ c ≤ 'f' then some (c.toNat - 87)
  else if 'A' ≤ c ∧ c ≤ 'F' then some (c.toNat - 55)
  else none

def unit? : List Char → Option (Nat × List Char)
  | a :: b :: c :: d :: rest => do
    let a ← hexDigit? a
    let b ← hexDigit? b
    let c ← hexDigit? c
    let d ← hexDigit? d
    return (((a * 16 + b) * 16 + c) * 16 + d, rest)
  | _ => none

def isHighUnit (n : Nat) : Bool := 0xD800 ≤ n && n ≤ 0xDBFF

def isLowUnit (n : Nat) : Bool := 0xDC00 ≤ n && n ≤ 0xDFFF

/-- The character of a unit, or of two units that belong together; a unit that stands alone where two are needed is
replaced. -/
def unitChar? (s : List Char) : Option (Char × List Char) := do
  let (high, rest) ← unit? s
  let alone := if isHighUnit high || isLowUnit high then Char.ofNat 0xFFFD else Char.ofNat high
  if isHighUnit high then
    match (after? "\\u" rest).bind unit? with
    | some (low, rest') =>
      if isLowUnit low then return (Char.ofNat (0x10000 + (high - 0xD800) * 0x400 + (low - 0xDC00)), rest')
      else return (alone, rest)
    | none => return (alone, rest)
  else return (alone, rest)

/-- The character that a backslash and a letter stand for. -/
def escaped? (c : Char) : Option Char :=
  if c = doubleQuote || c = '\\' || c = '/' then some c
  else if c = 'b' then some (Char.ofNat 8)
  else if c = 'f' then some (Char.ofNat 12)
  else if c = 'n' then some '\n'
  else if c = 'r' then some '\r'
  else if c = 't' then some '\t'
  else none

/-- The string whose opening quote has been read, and the text behind its closing one.  Control characters are refused;
`left` bounds the number of characters. -/
def string? : Nat → List Char → Option (List Char × List Char)
  | left + 1, c :: rest =>
    if c = doubleQuote then some ([], rest)
    else if c = '\\' then
      match rest with
      | 'u' :: rest => do
        let (c, rest) ← unitChar? rest
        let (chars, rest) ← string? left rest
        return (c :: chars, rest)
      | e :: rest => do
        let c ← escaped? e
        let (chars, rest) ← string? left rest
        return (c :: chars, rest)
      | [] => none
    else if c.toNat < 0x20 then none
    else do
      let (chars, rest) ← string? left rest
      return (c :: chars, rest)
  | _, _ => none

/-! ## Numbers -/

-- The digits of a text up to the first other character, and the rest.
def digitRun (s : List Char) : List Char × List Char := (s.takeWhile Char.isDigit, s.dropWhile Char.isDigit)

/-- A fraction behind its point: at least one digit. -/
def fraction? : List Char → Option (List Char × List Char)
  | '.' :: rest =>
    let (digits, rest) := digitRun rest
    if digits.isEmpty then none else some (digits, rest)
  | _ => none

/-- An exponent behind its mark: an optional sign and at least one digit. -/
def exponent? : List Char → Option (Int × List Char)
  | c :: rest =>
    if c = 'e' || c = 'E' then
      let (negative, rest) := Decimal.takeSign rest
      let (digits, rest) := digitRun rest
      if digits.isEmpty then none
      else
        let n := digitsValue (digits.map fun d => d.toNat - 48)
        some (if negative then -(n : Int) else n, rest)
    else none
  | [] => none

/-- A number.  An integer of too many digits is refused. -/
def number? (s : List Char) : Option (Value × List Char) := do
  let (negative, body) := match s with
    | '-' :: rest => (true, rest)
    | s => (false, s)
  let (run, rest) := digitRun body
  if run.isEmpty then none
  -- a leading zero stands alone
  let (whole, rest) := if run.head? = some '0' then (['0'], body.drop 1) else (run, rest)
  let value := fun (ds : List Char) => digitsValue (ds.map fun d => d.toNat - 48)
  match fraction? rest, exponent? ((fraction? rest).elim rest (·.2)) with
  | none, none =>
    if Whole.maxDigits < whole.length then none
    else return (.int (if negative then -(value whole : Int) else value whole), rest)
  | fraction, power =>
    let (places, behind) := fraction.getD ([], rest)
    let (power, behind) := power.getD (0, behind)
    return (.float (Double.ofScientific negative (value (whole ++ places)) (power - places.length)), behind)

/-! ## Values -/

def words : List (String × Value) :=
  [("null", .null), ("true", .bool true), ("false", .bool false), ("NaN", .float .nan),
    ("Infinity", .float (.infinity false)), ("-Infinity", .float (.infinity true))]

def word? (s : List Char) : Option (Value × List Char) :=
  words.findSome? fun (word, v) => (after? word s).map ((v, ·))

/-- Why a text is not read. -/
inductive Unreadable
  | malformed
  /-- Objects and arrays lie too deep within each other. -/
  | tooNested
  deriving DecidableEq

-- The room inside of an object or an array.
def inside (room : Room) (shape : Shape) : Except Unreadable Room :=
  match room.inside? .reading shape with
  | some room => .ok room
  | none => .error .tooNested

/-- What has been read, or else the text is malformed. -/
def need {α : Type} : Option α → Except Unreadable α
  | some a => .ok a
  | none => .error .malformed

mutual

/-- The value at the start of a text.  `left` bounds the number of tokens. -/
def value : Nat → Room → List Char → Except Unreadable (Value × List Char)
  | 0, _, _ => .error .malformed
  | left + 1, room, s =>
    match s with
    | '\x7b' :: rest => do
      let room ← inside room .map
      match skipSpace rest with
      | '\x7d' :: rest => return (.ofEntries [], rest)
      | rest =>
        let (entries, rest) ← members left room [] rest
        return (.ofEntries entries, rest)
    | '[' :: rest => do
      let room ← inside room .list
      match skipSpace rest with
      | ']' :: rest => return (.newList [], rest)
      | rest =>
        let (items, rest) ← items left room rest
        return (.newList items, rest)
    | c :: rest =>
      if c = doubleQuote then do
        let (chars, rest) ← need (string? rest.length rest)
        return (.text (String.ofList chars), rest)
      else need ((word? s).orElse fun _ => number? s)
    | [] => .error .malformed

/-- The members of an object up to its closing brace, added to those before. -/
def members : Nat → Room → Entries Value → List Char → Except Unreadable (Entries Value × List Char)
  | 0, _, _, _ => .error .malformed
  | left + 1, room, entries, s =>
    match s with
    | c :: rest =>
      if c = doubleQuote then do
        let (key, rest) ← need (string? rest.length rest)
        let rest ← need (after? ":" (skipSpace rest))
        let (v, rest) ← value left room (skipSpace rest)
        let entries := entries.put (String.ofList key) v
        match skipSpace rest with
        | '\x7d' :: rest => return (entries, rest)
        | ',' :: rest => members left room entries (skipSpace rest)
        | _ => throw .malformed
      else .error .malformed
    | [] => .error .malformed

/-- The items of an array up to its closing bracket. -/
def items : Nat → Room → List Char → Except Unreadable (List Value × List Char)
  | 0, _, _ => .error .malformed
  | left + 1, room, s => do
    let (v, rest) ← value left room s
    match skipSpace rest with
    | ']' :: rest => return ([v], rest)
    | ',' :: rest =>
      let (items, rest) ← items left room (skipSpace rest)
      return (v :: items, rest)
    | _ => throw .malformed

end

/-- Reads a text that is one value with white space around it. -/
def read (room : Room) (s : List Char) : Except Unreadable Value := do
  let (v, rest) ← value (2 * s.length + 1) room (skipSpace s)
  if (skipSpace rest).isEmpty then return v else throw .malformed

/-! ## Writing strings -/

/-- One character of a string: as it is if it is printable ASCII, otherwise by its units of 16 bits. -/
def escapedChar (c : Char) : List Char :=
  let unit (n : Nat) : List Char := ['\\', 'u'] ++ hexPadded 4 n
  if c = doubleQuote || c = '\\' then ['\\', c]
  else if c = '\n' then ['\\', 'n']
  else if c = '\r' then ['\\', 'r']
  else if c = '\t' then ['\\', 't']
  else if c.toNat = 8 then ['\\', 'b']
  else if c.toNat = 12 then ['\\', 'f']
  else if 0x20 ≤ c.toNat && c.toNat < 0x7f then [c]
  else if c.toNat < 0x10000 then unit c.toNat
  else
    let n := c.toNat - 0x10000
    unit (0xD800 + n / 0x400) ++ unit (0xDC00 + n % 0x400)

def writtenString (s : String) : String :=
  String.ofList (doubleQuote :: s.toList.flatMap escapedChar ++ [doubleQuote])

end CallContract.JsonText
