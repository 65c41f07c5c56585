import CallContract.Number.Rounding
import CallContract.Number.Whole

/-!
# Double — binary64 floating-point numbers

A finite number is a sign and `mantissa * 2 ^ exponent`.  Numbers are made by rounding exact quotients, ties to
even, so that each value has one form: the mantissa has 53 bits, or fewer at the smallest exponent.
-/

namespace CallContract.Number

open CallContract.Text

inductive Double
  | nan
  | infinity (negative : Bool)
  | finite (negative : Bool) (mantissa : Nat) (exponent : Int)
  deriving DecidableEq, Inhabited

namespace Double

def minExponent : Int := -1074

-- The exponent of the largest finite numbers.
def maxExponent : Int := 971

-- The mantissa of 53 bits of which only the first is set, `2 ^ 52`.
def leadingBit : Nat := 4503599627370496

def zero (negative : Bool) : Double := .finite negative 0 minExponent

-- `2 ^ e` as a fraction.
def powerOfTwo (e : Int) : Nat × Nat := if 0 ≤ e then (Nat.pow 2 e.toNat, 1) else (1, Nat.pow 2 (-e).toNat)

/-- The exponent at which `num / den` has an integral part of 53 bits. -/
def normalExponent (num den : Nat) : Int :=
  let guess : Int := (num.log2 : Int) - den.log2 - 52
  let (p, q) := powerOfTwo guess
  if num * q < leadingBit * (den * p) then guess - 1 else guess

/-- The number nearest to `num / den` with the given sign; an infinity beyond the largest one. -/
def ofRatio (negative : Bool) (num den : Nat) : Double :=
  if num = 0 then zero negative
  else
    let exponent := max (normalExponent num den) minExponent
    let (p, q) := powerOfTwo exponent
    let mantissa := roundHalfEven (num * q) (den * p)
    let (mantissa, exponent) := if mantissa = 2 * leadingBit then (leadingBit, exponent + 1) else (mantissa, exponent)
    if maxExponent < exponent then .infinity negative else .finite negative mantissa exponent

/-- The number nearest to `digits * 10 ^ power`.  Powers far outside of the range are not computed. -/
def ofScientific (negative : Bool) (digits : Nat) (power : Int) : Double :=
  if digits = 0 then zero negative
  else
    let lead := power + (natDigits digits).length
    if 400 < lead then .infinity negative
    else if lead < -400 then zero negative
    else if 0 ≤ power then ofRatio negative (digits * Nat.pow 10 power.toNat) 1
    else ofRatio negative digits (Nat.pow 10 (-power).toNat)

/-- The number nearest to an integer; `none` beyond the largest finite number. -/
def ofInt? (n : Int) : Option Double :=
  match ofRatio (n < 0) n.natAbs 1 with
  | .infinity _ => none
  | x => some x

/-- The magnitude of a finite number as a fraction. -/
def magnitude (mantissa : Nat) (exponent : Int) : Nat × Nat :=
  let (p, q) := powerOfTwo exponent
  (mantissa * p, q)

/-- The number nearest to the quotient of a number and a positive natural number. -/
def divNat (x : Double) (d : Nat) : Double :=
  match x with
  | .finite negative mantissa exponent =>
    let (p, q) := magnitude mantissa exponent
    ofRatio negative p (q * d)
  | x => x

def toInt? : Double → Option Int
  | .finite negative mantissa exponent =>
    let (p, q) := magnitude mantissa exponent
    if p % q = 0 then some (if negative then -((p / q : Nat) : Int) else (p / q : Nat)) else none
  | _ => none

/-- The exact value as a decimal coefficient and power of ten. -/
def decimalForm (mantissa : Nat) (exponent : Int) : Nat × Int :=
  if 0 ≤ exponent then (mantissa * Nat.pow 2 exponent.toNat, 0)
  else (mantissa * Nat.pow 5 (-exponent).toNat, exponent)

/-- Equality of values: both zeros are equal, and a NaN equals nothing. -/
def sameValue : Double → Double → Bool
  | .finite s m e, .finite s' m' e' => (m = 0 && m' = 0) || (s = s' && m = m' && e = e')
  | .infinity s, .infinity s' => s = s'
  | _, _ => false

/-! ## Writing -/

-- `10 ^ k` as a fraction.
def powerOfTen (k : Int) : Nat × Nat := if 0 ≤ k then (Nat.pow 10 k.toNat, 1) else (1, Nat.pow 10 (-k).toNat)

/-- The exponent of the leading decimal digit of a positive fraction that is no power of ten below one. -/
def leadingPower (num den : Nat) : Int :=
  if den ≤ num then ((natDigits (num / den)).length : Int) - 1
  else -((natDigits (den / num)).length : Int)

/-- The ends of the interval of reals that round to a positive number, as multiples of `2 ^ (exponent - 2)`. -/
def roundingEnds (mantissa : Nat) (exponent : Int) : Nat × Nat :=
  let below := if mantissa = leadingBit ∧ minExponent < exponent then 1 else 2
  (4 * mantissa - below, 4 * mantissa + 2)

/-- The decimal nearest to the number on the grid of multiples of `10 ^ k`, if one of the number's two neighbours on
that grid rounds to the number; ties go to the even one. -/
def onGrid? (mantissa : Nat) (exponent k : Int) : Option Nat :=
  let (lo, hi) := roundingEnds mantissa exponent
  let (p, q) := powerOfTwo (exponent - 2)
  let (t, u) := powerOfTen k
  -- in units of `1 / (q * u)` the number is `4 * mantissa * p * u` and the grid point `d` is `d * (t * q)`
  let number := 4 * mantissa * p * u
  let step := t * q
  let down := number / step
  let rounds := fun (d : Nat) =>
    if mantissa % 2 = 0 then decide (lo * p * u ≤ d * step ∧ d * step ≤ hi * p * u)
    else decide (lo * p * u < d * step ∧ d * step < hi * p * u)
  let gapDown := number - down * step
  let gapUp := (down + 1) * step - number
  if rounds down && rounds (down + 1) then
    some (if gapDown < gapUp then down
      else if gapUp < gapDown then down + 1
      else down + down % 2)
  else if rounds down then some down
  else if rounds (down + 1) then some (down + 1)
  else none

/-- The first grid with a hit, from `places` significant digits on; `left` more grids are tried. -/
def firstOnGrid (mantissa : Nat) (exponent lead : Int) (places : Nat) : Nat → Nat × Int
  | 0 =>
    let k := lead - places + 1
    ((onGrid? mantissa exponent k).getD 0, k)
  | left + 1 =>
    let k := lead - places + 1
    match onGrid? mantissa exponent k with
    | some d => (d, k)
    | none => firstOnGrid mantissa exponent lead (places + 1) left

/-- The fewest digits that read back as a positive finite number, nearest to it among those, and their power of ten.
Seventeen digits always suffice. -/
def shortest (mantissa : Nat) (exponent : Int) : Nat × Int :=
  let (num, den) := magnitude mantissa exponent
  let (d, k) := firstOnGrid mantissa exponent (leadingPower num den) 1 16
  let (m, zeros) := Decimal.stripZeros 17 d
  (m, k + zeros)

/-- How a number is laid out: positional while the point stands at most `maxPoint` digits after the first one and at
least `minPoint` before it, and with an exponent of at least two digits elsewhere. -/
structure Layout where
  minPoint : Int
  maxPoint : Int
  exponentWidth : Nat

-- Numbers from `0.0001` to below `10 ^ 16` are positional.
def layout : Layout := ⟨-3, 16, 2⟩

/-- Lays out digits whose point stands after the first `point` digits. -/
def Layout.render (l : Layout) (digits : List Char) (point : Int) : List Char :=
  if l.minPoint ≤ point ∧ point ≤ l.maxPoint then
    if point ≤ 0 then '0' :: '.' :: List.replicate (-point).toNat '0' ++ digits
    else
      let whole := digits.take point.toNat
      let fraction := if (digits.drop point.toNat).isEmpty then ['0'] else digits.drop point.toNat
      whole ++ List.replicate (point.toNat - digits.length) '0' ++ '.' :: fraction
  else
    let power := point - 1
    let powerDigits := natDigits power.natAbs
    digits.take 1 ++ (if digits.length ≤ 1 then [] else '.' :: digits.drop 1)
      ++ 'e' :: (if 0 ≤ power then '+' else '-')
      :: List.replicate (l.exponentWidth - powerDigits.length) '0' ++ powerDigits

def toText : Double → List Char
  | .nan => "nan".toList
  | .infinity negative => Decimal.signText negative ++ "inf".toList
  | .finite negative mantissa exponent =>
    Decimal.signText negative ++
      if mantissa = 0 then "0.0".toList
      else
        let (d, k) := shortest mantissa exponent
        let digits := natDigits d
        layout.render digits (digits.length + k)

/-! ## Reading -/

/-- Removes underscores, each of which must stand between two digits; `before` is the character to the left. -/
def dropUnderscores? (before : Char) : List Char → Option (List Char)
  | [] => if before = '_' then none else some []
  | c :: rest =>
    if c = '_' then if before.isDigit then dropUnderscores? c rest else none
    else if before = '_' && !c.isDigit then none
    else (dropUnderscores? c rest).map (c :: ·)

/-- Reads a number: a sign, and then `inf`, `infinity`, `nan` or a number in positional or scientific form, with the
padding of integers and single underscores between digits. -/
def ofText? (s : List Char) : Option Double := do
  let plain ← dropUnderscores? ' ' ((Whole.trimPadding s).map Decimal.asciiDigit)
  let (negative, body) := Decimal.takeSign plain
  let folded := Decimal.lowerAscii body
  if folded = "inf".toList ∨ folded = "infinity".toList then some (.infinity negative)
  else if folded = "nan".toList then some .nan
  else
    let (digits, power) ← Decimal.scientific? body
    some (ofScientific negative (digitsValue digits) power)

/-- The number nearest to a decimal; a signaling NaN has none. -/
def ofDecimal? : Decimal → Option Double
  | .finite negative coefficient exponent => some (ofScientific negative coefficient exponent)
  | .infinity negative => some (.infinity negative)
  | .nan _ signaling _ => if signaling then none else some .nan

end Double

end CallContract.Number
