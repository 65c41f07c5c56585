import CallContract.Text.Blank
import CallContract.Text.Letter
import CallContract.Text.Digit
import CallContract.Text.Casing
import CallContract.Number.Rounding

/-!
# Token — the words, numbers and marks of a free-form date

A run of letters is a word and a run of digits is a number.  A point, or a comma behind two digits, may continue a
number, and points may join words and numbers; such a compound is cut at its points and commas unless it is a plain
decimal number.  Every other character is a token of its own, and every blank becomes a space.
-/

namespace CallContract.Calendar.FreeForm

open CallContract.Text

abbrev Token := List Char

/-- What is being read. -/
inductive Mode
  | word
  | number
  | dottedWord
  | dottedNumber
  deriving DecidableEq

/-- A token being read: its characters so far in reverse, and whether a further character was looked at while it was a
word. -/
structure Pending where
  mode : Mode
  pastLetters : Bool
  reversed : List Char

/-- Looks at the next character: the token it continues, or the token that it ends. -/
def Pending.extend (p : Pending) (c : Char) : Pending ⊕ Pending :=
  let longer := fun (mode : Mode) (seen : Bool) => Sum.inl (Pending.mk mode seen (c :: p.reversed))
  let afterDot := p.reversed.head? = some '.'
  match p.mode with
  | .word =>
    if isLetter c then longer .word true
    else if c = '.' then longer .dottedWord true
    else .inr { p with pastLetters := true }
  | .number =>
    if isDigitLike c then longer .number p.pastLetters
    else if c = '.' ∨ (c = ',' ∧ 2 ≤ p.reversed.length) then longer .dottedNumber p.pastLetters
    else .inr p
  | .dottedWord =>
    if c = '.' ∨ isLetter c then longer .dottedWord true
    else if isDigitLike c ∧ afterDot then longer .dottedNumber true
    else .inr { p with pastLetters := true }
  | .dottedNumber =>
    if c = '.' ∨ isDigitLike c then longer .dottedNumber p.pastLetters
    else if isLetter c ∧ afterDot then longer .dottedWord p.pastLetters
    else .inr p

/-- Cuts a compound at its points and commas, which are kept. -/
def cut : List Char → List Token
  | [] => []
  | c :: rest =>
    if c = '.' ∨ c = ',' then [c] :: cut rest
    else match cut rest with
      | (d :: piece) :: pieces =>
        if d = '.' ∨ d = ',' then [c] :: (d :: piece) :: pieces else (c :: d :: piece) :: pieces
      | pieces => [c] :: pieces

/-- The tokens that a finished token stands for. -/
def Pending.tokens (p : Pending) : List Token :=
  let token := p.reversed.reverse
  let isCompound := (p.mode = .dottedWord ∨ p.mode = .dottedNumber)
    ∧ (p.pastLetters ∨ 1 < token.count '.' ∨ token.getLast? = some '.' ∨ token.getLast? = some ',')
  let pieces := if isCompound then cut token else [token]
  match p.mode, pieces with
  | .dottedNumber, first :: rest =>
    (if first.contains '.' then first else first.map fun c => if c = ',' then '.' else c) :: rest
  | _, pieces => pieces

/-- The first character of a token: a token that is complete, or one to continue. -/
def start (c : Char) : List Token × Option Pending :=
  if isLetter c then ([], some ⟨.word, false, [c]⟩)
  else if isDigitLike c then ([], some ⟨.number, false, [c]⟩)
  else if isBlank c then ([[' ']], none)
  else ([[c]], none)

/-- The tokens of a text that continues the pending token. -/
def tokensFrom : Option Pending → List Char → List Token
  | none, [] => []
  | some p, [] => p.tokens
  | none, c :: rest =>
    let (done, next) := start c
    done ++ tokensFrom next rest
  | some p, c :: rest =>
    match p.extend c with
    | .inl longer => tokensFrom (some longer) rest
    | .inr ended =>
      let (done, next) := start c
      ended.tokens ++ done ++ tokensFrom next rest

-- The tokens of a text; null characters are passed over.
def tokens (s : List Char) : List Token := tokensFrom none (s.filter (· ≠ Char.ofNat 0))

/-! ## Vocabulary -/

/-- The position of a word in a vocabulary of synonyms, whatever its case. -/
def wordIndex? (vocabulary : List (List String)) (t : Token) : Option Nat :=
  let folded := String.ofList (lower t)
  vocabulary.findIdx? (·.contains folded)

/-- Words and marks that carry no information. -/
def fillers : List String :=
  [" ", ".", ",", ";", "-", "/", "'", "at", "on", "and", "ad", "m", "t", "of", "st", "nd", "rd", "th"]

def isFiller (t : Token) : Bool := fillers.contains (String.ofList (lower t))

/-- The weekday, Monday being 0. -/
def weekday? (t : Token) : Option Nat :=
  wordIndex? [["mon", "monday"], ["tue", "tuesday"], ["wed", "wednesday"], ["thu", "thursday"],
    ["fri", "friday"], ["sat", "saturday"], ["sun", "sunday"]] t

/-- The month, January being 1. -/
def month? (t : Token) : Option Nat :=
  (wordIndex? [["jan", "january"], ["feb", "february"], ["mar", "march"], ["apr", "april"], ["may"],
    ["jun", "june"], ["jul", "july"], ["aug", "august"], ["sep", "sept", "september"],
    ["oct", "october"], ["nov", "november"], ["dec", "december"]] t).map (· + 1)

/-- The unit of a time: 0 for hours, 1 for minutes, 2 for seconds. -/
def unit? (t : Token) : Option Nat :=
  wordIndex? [["h", "hour", "hours"], ["m", "minute", "minutes"], ["s", "second", "seconds"]] t

-- The half of the day: 0 before noon, 1 after.
def meridiem? (t : Token) : Option Nat := wordIndex? [["am", "a"], ["pm", "p"]] t

-- Whether a word names universal time, whatever its case.
def namesUtc (t : Token) : Bool := ["utc", "gmt", "z"].contains (String.ofList (lower t))

-- Whether a word is `of`.
def isOf (t : Token) : Bool := lower t = ['o', 'f']

/-! ## Numbers -/

/-- The integer that a token writes, which has at most 4300 digits. -/
def integer? (t : Token) : Option Nat := do
  let digits ← t.mapM digitValue?
  if digits.isEmpty ∨ 4300 < digits.length then none else some (digitsValue digits)

/-- A decimal number: `units / 10 ^ scale`. -/
structure Quantity where
  units : Nat
  scale : Nat

namespace Quantity

/-- The number that a token writes: digits with at most one point. -/
def ofToken? (t : Token) : Option Quantity := do
  let whole := t.takeWhile (· ≠ '.')
  let fraction := (t.dropWhile (· ≠ '.')).drop 1
  let before ← whole.mapM digitValue?
  let after ← fraction.mapM digitValue?
  if before.isEmpty && after.isEmpty then none
  else some ⟨digitsValue (before ++ after), after.length⟩

def floor (q : Quantity) : Nat := q.units / Nat.pow 10 q.scale

-- The most digits of the result of an operation.
def precision : Nat := 28

def round (q : Quantity) : Quantity :=
  let surplus := (natDigits q.units).length - precision
  if surplus = 0 then q
  else if surplus ≤ q.scale then ⟨Number.roundHalfEven q.units (Nat.pow 10 surplus), q.scale - surplus⟩
  else q

/-- The fractional part; `none` when the integral part has more digits than an operation can have. -/
def fraction? (q : Quantity) : Option Quantity :=
  if Nat.pow 10 precision ≤ q.floor then none
  else some (Quantity.round ⟨q.units % Nat.pow 10 q.scale, q.scale⟩)

-- The fraction of a unit in sixtieths, rounded down.
def sixtieths (q : Quantity) : Nat := (Quantity.round ⟨60 * q.units, q.scale⟩).floor

end Quantity

end CallContract.Calendar.FreeForm
