import CallContract.Calendar.Date
import CallContract.Calendar.TimeOfDay

/-!
# Patterns — the short forms of dates and times

A year with its month and a full date have fixed widths; their years and the second digit of a day in the tens may use
digits of any script.  A time of day has the form that writing gives it, with its separators optional; a NUL ends it
wherever it could end.
-/

namespace CallContract.Calendar

open CallContract.Text

namespace Date

def yearPattern? (s : List Char) : Option Nat := do
  let digits ← s.mapM digitValue?
  if digits.length = 4 then some (digitsValue digits) else none

def monthPattern? : List Char → Option Nat
  | ['0', c] => if '1' ≤ c ∧ c ≤ '9' then some (c.toNat - 48) else none
  | ['1', c] => if '0' ≤ c ∧ c ≤ '2' then some (10 + (c.toNat - 48)) else none
  | _ => none

/-- A day of two characters, the first of which may be a space. -/
def dayPattern? : List Char → Option Nat
  | ['0', c] => if '1' ≤ c ∧ c ≤ '9' then some (c.toNat - 48) else none
  | [' ', c] => if '1' ≤ c ∧ c ≤ '9' then some (c.toNat - 48) else none
  | ['1', c] => (digitValue? c).map (10 + ·)
  | ['2', c] => (digitValue? c).map (20 + ·)
  | ['3', c] => if '0' ≤ c ∧ c ≤ '1' then some (30 + (c.toNat - 48)) else none
  | _ => none

/-- The first day of a month written as four digits, a hyphen and two digits. -/
def ofMonthPattern? (s : List Char) : Option Date := do
  if (s.drop 4).head? ≠ some '-' then none
  let year ← yearPattern? (s.take 4)
  let month ← monthPattern? (s.drop 5)
  ofParts? year month 1

/-- A date written as four digits, a hyphen, two digits, a hyphen and a day. -/
def ofDayPattern? (s : List Char) : Option Date := do
  if (s.drop 4).head? ≠ some '-' ∨ (s.drop 7).head? ≠ some '-' then none
  let year ← yearPattern? (s.take 4)
  let month ← monthPattern? ((s.drop 5).take 2)
  let day ← dayPattern? (s.drop 8)
  ofParts? year month day

end Date

namespace ClockTime

/-- The value of exactly `width` ASCII digits at the start of a text, and the rest. -/
def digits? (width : Nat) (s : List Char) : Option (Nat × List Char) :=
  let field := s.take width
  if field.length = width ∧ field.all Char.isDigit then
    some (digitsValue (field.map fun c => c.toNat - 48), s.drop width)
  else none

/-- The parts of a time, and whether the whole field was used up. -/
structure FieldParts where
  hour : Nat := 0
  minute : Nat := 0
  second : Nat := 0
  micro : Nat := 0
  complete : Bool := true

/-- Sets the hour, minute or second. -/
def FieldParts.setPart (p : FieldParts) (index value : Nat) : FieldParts :=
  match index with
  | 0 => { p with hour := value }
  | 1 => { p with minute := value }
  | _ => { p with second := value }

-- Whether a text ends here: nothing is left of it, or a NUL comes next.
def isOver (s : List Char) : Bool := s.head?.all (· = Char.ofNat 0)

/-- A fraction of up to six digits; of more digits the rest is dropped, and what follows them is left over. -/
def fractionPart? (parts : FieldParts) (s next : List Char) : Option FieldParts := do
  let width := min s.length 6
  let (value, rest) ← digits? width s
  let rest := rest.dropWhile Char.isDigit
  return { parts with
    micro := value * Nat.pow 10 (6 - width)
    complete := isOver (rest ++ next) }

/-- Reads hours, minutes and seconds of two digits each and then a fraction.  The field is `s`, and `next` is the text
behind it: one character that ends the field out of place makes it incomplete.  If a colon follows the hour, the
other parts follow colons too. -/
def fieldFrom (parts : FieldParts) (colons : Bool) (index : Nat) (s next : List Char) : Option FieldParts := do
  let (value, rest) ← digits? 2 s
  let parts := parts.setPart index value
  match rest with
  | [] => return { parts with complete := next.isEmpty }
  | c :: after =>
    let colons := if index = 0 then c = ':' else colons
    if after.isEmpty then return { parts with complete := c = Char.ofNat 0 }
    else if colons ∧ c = ':' then
      if index < 2 then fieldFrom parts colons (index + 1) after next else fractionPart? parts after next
    else if c = '.' ∨ c = ',' then fractionPart? parts after next
    else if ¬colons then
      if index < 2 then fieldFrom parts colons (index + 1) rest next else fractionPart? parts rest next
    else none
  termination_by 3 - index

/-- Reads an offset behind its sign, in microseconds.  An offset of no seconds is zero, and an offset stays below a
day. -/
def offsetField? (negative : Bool) (s : List Char) : Option Int := do
  let parts ← fieldFrom {} true 0 s []
  if ¬parts.complete then none
  let seconds := parts.hour * 3600 + parts.minute * 60 + parts.second
  if seconds = 0 then return 0
  let micros : Int := seconds * 1000000 + parts.micro
  if 86400000000 ≤ micros then none
  return if negative then -micros else micros

/-- Reads a time of day with an optional offset, perhaps behind a `T`.  What stands out of place right before an offset
is passed over. -/
def ofText? (s : List Char) : Option ClockTime := do
  -- positions are counted in bytes
  let s := (if s.head? = some 'T' then s.drop 1 else s).flatMap fun c => List.replicate c.utf8Size c
  let isMark := fun (c : Char) => c = '+' || c = '-' || c = 'Z'
  let field := s.takeWhile (!isMark ·)
  let zone := s.dropWhile (!isMark ·)
  let parts ← fieldFrom {} true 0 field zone
  let offset? ← match zone with
    | [] => if parts.complete then some none else none
    | 'Z' :: rest => if isOver rest then some (some 0) else none
    | c :: rest => (offsetField? (c = '-') rest).map some
  let time ← TimeOfDay.ofParts? parts.hour parts.minute parts.second parts.micro
  return ⟨time, offset?, false⟩

end ClockTime

end CallContract.Calendar
