import CallContract.Text.Blank
import CallContract.Text.Digit

/-!
# Decimal — decimal numbers of any precision

A finite decimal is a sign, a coefficient and a power of ten; `1.50` and `1.5` are different decimals of equal value.
There are also signed infinities, and signed quiet and signaling NaNs that may carry a number.
-/

namespace CallContract.Number

open CallContract.Text

inductive Decimal
  | finite (negative : Bool) (coefficient : Nat) (exponent : Int)
  | infinity (negative : Bool)
  | nan (negative signaling : Bool) (payload : Nat)
  deriving DecidableEq, Inhabited

namespace Decimal

/-! ## Limits -/

-- The largest exponent of the leading digit.
def maxAdjusted : Int := 999999999999999999

-- The smallest exponent of the last digit.
def minExponent : Int := -1999999999999999997

def adjusted (coefficient : Nat) (exponent : Int) : Int :=
  exponent + (natDigits coefficient).length - 1

/-- A finite decimal, if its exponents are within the limits. -/
def finite? (negative : Bool) (coefficient : Nat) (exponent : Int) : Option Decimal :=
  if minExponent ≤ exponent ∧ adjusted coefficient exponent ≤ maxAdjusted then
    some (.finite negative coefficient exponent)
  else none

def ofInt (n : Int) : Decimal := .finite (n < 0) n.natAbs 0

/-! ## Writing -/

def signText (negative : Bool) : List Char := if negative then ['-'] else []

/-- The digits of a finite decimal with its point and exponent: positional when the exponent is not positive and
the leading digit is at the sixth place after the point or before it, scientific otherwise. -/
def magnitudeText (coefficient : Nat) (exponent : Int) : List Char :=
  let digits := natDigits coefficient
  let lead := adjusted coefficient exponent
  if exponent ≤ 0 ∧ -6 ≤ lead then
    let places := (-exponent).toNat
    if places = 0 then digits
    else if places < digits.length then
      digits.take (digits.length - places) ++ '.' :: digits.drop (digits.length - places)
    else '0' :: '.' :: List.replicate (places - digits.length) '0' ++ digits
  else
    let fraction := if digits.length ≤ 1 then [] else '.' :: digits.drop 1
    digits.take 1 ++ fraction ++ 'E' :: (if 0 ≤ lead then '+' else '-') :: natDigits lead.natAbs

def toText : Decimal → List Char
  | .finite negative coefficient exponent => signText negative ++ magnitudeText coefficient exponent
  | .infinity negative => signText negative ++ "Infinity".toList
  | .nan negative signaling payload =>
    signText negative ++ (if signaling then "sNaN".toList else "NaN".toList)
      ++ (if payload = 0 then [] else natDigits payload)

/-! ## Reading -/

-- ASCII text with every character in lower case.
def lowerAscii (s : List Char) : List Char := s.map Char.toLower

/-- The value of a text of ASCII digits; `none` when another character occurs. -/
def digitsOnly? (s : List Char) : Option (List Nat) :=
  s.mapM fun c => if c.isDigit then some (c.toNat - 48) else none

def takeSign : List Char → Bool × List Char
  | '-' :: rest => (true, rest)
  | '+' :: rest => (false, rest)
  | s => (false, s)

/-- The number after an exponent mark: a sign and at least one digit. -/
def exponentValue? (s : List Char) : Option Int :=
  let (negative, digits) := takeSign s
  if digits.isEmpty then none
  else (digitsOnly? digits).map fun ds => if negative then -(digitsValue ds : Int) else digitsValue ds

/-- Digits with at most one point: the digits before and after it, which are not both missing. -/
def splitPoint? (s : List Char) : Option (List Nat × List Nat) := do
  let whole := s.takeWhile (· ≠ '.')
  let fraction := (s.dropWhile (· ≠ '.')).drop 1
  let before ← digitsOnly? whole
  let after ← digitsOnly? fraction
  if before.isEmpty && after.isEmpty then none else some (before, after)

/-- The digits and the power of ten of an unsigned number in positional or scientific form. -/
def scientific? (s : List Char) : Option (List Nat × Int) := do
  let isMark := fun (c : Char) => c = 'e' || c = 'E'
  let mantissa := s.takeWhile (!isMark ·)
  let tail := s.dropWhile (!isMark ·)
  let (before, after) ← splitPoint? mantissa
  let exponent ← match tail with
    | [] => some 0
    | _ :: power => exponentValue? power
  some (before ++ after, exponent - after.length)

def payload? (s : List Char) : Option Nat := (digitsOnly? s).map digitsValue

def ofAscii? (s : List Char) : Option Decimal :=
  let (negative, body) := takeSign s
  let folded := lowerAscii body
  if folded = "inf".toList ∨ folded = "infinity".toList then some (.infinity negative)
  else if "nan".toList.isPrefixOf folded then (payload? (body.drop 3)).map (.nan negative false)
  else if "snan".toList.isPrefixOf folded then (payload? (body.drop 4)).map (.nan negative true)
  else do
    let (digits, exponent) ← scientific? body
    finite? negative (digitsValue digits) exponent

/-- The ASCII form of a character of a number: a decimal digit of any script becomes the ASCII digit. -/
def asciiDigit (c : Char) : Char :=
  match digitValue? c with
  | some d => Char.ofNat (48 + d)
  | none => c

/-- Reads a decimal: blanks around it are dropped, underscores are ignored wherever they stand, and the digits may be
those of any script. -/
def ofText? (s : List Char) : Option Decimal :=
  ofAscii? (((trim s).filter (· ≠ '_')).map asciiDigit)

/-! ## Value -/

/-- The coefficient without its trailing zeros, and how many there were. -/
def stripZeros (fuel n : Nat) : Nat × Nat :=
  match fuel with
  | 0 => (n, 0)
  | fuel + 1 =>
    if n ≠ 0 ∧ n % 10 = 0 then
      let (m, k) := stripZeros fuel (n / 10)
      (m, k + 1)
    else (n, 0)

/-- The sign, coefficient and exponent of the value: zero has one form, and the coefficient ends in no zero. -/
def normalForm (negative : Bool) (coefficient : Nat) (exponent : Int) : Bool × Nat × Int :=
  if coefficient = 0 then (false, 0, 0)
  else
    let (m, k) := stripZeros (natDigits coefficient).length coefficient
    (negative, m, exponent + k)

/-- Whether two finite decimals have the same value. -/
def sameValue (x y : Bool × Nat × Int) : Bool :=
  normalForm x.1 x.2.1 x.2.2 == normalForm y.1 y.2.1 y.2.2

def toInt? : Decimal → Option Int
  | .finite negative coefficient exponent =>
    let (_, m, e) := normalForm negative coefficient exponent
    if 0 ≤ e then
      let magnitude := m * Nat.pow 10 e.toNat
      some (if negative then -(magnitude : Int) else magnitude)
    else none
  | _ => none

end Decimal

end CallContract.Number
