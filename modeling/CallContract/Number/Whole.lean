import CallContract.Number.Decimal

/-!
# Whole — integers as text

An integer is written in ASCII digits.  It is read with an optional sign, digits of any script and single
underscores between digits.  Neither direction handles more than `maxDigits` digits.
-/

namespace CallContract.Number.Whole

open CallContract.Text CallContract.Number.Decimal

def maxDigits : Nat := 4300

/-- The message about an integer that is too long to be written. -/
def limitMessage (detail : String) : String :=
  "Exceeds the limit (" ++ toString maxDigits ++ " digits) for integer string conversion" ++ detail
    ++ "; use sys.set_int_max_str_digits() to increase the limit"

-- The message about a text with too many digits.
def tooLongMessage (digits : Nat) : String := limitMessage (": value has " ++ toString digits ++ " digits")

/-- The blanks that may surround an integer or a binary floating-point number: the information separators are not
among them. -/
def isPadding (c : Char) : Bool := isBlank c && !(0x1C ≤ c.toNat && c.toNat ≤ 0x1F)

/-- The text without the padding at its two ends. -/
def trimPadding (s : List Char) : List Char :=
  ((s.dropWhile isPadding).reverse.dropWhile isPadding).reverse

def digitsText (n : Int) : List Char := signText (n < 0) ++ natDigits n.natAbs

/-- The written form of an integer; `none` when it has too many digits. -/
def toText? (n : Int) : Option (List Char) :=
  if (natDigits n.natAbs).length ≤ maxDigits then some (digitsText n) else none

/-- The digits of a text in which single underscores may separate digits. -/
def groupedDigits? : List Char → Option (List Nat)
  | [] => none
  | [c] => if c.isDigit then some [c.toNat - 48] else none
  | c :: '_' :: rest =>
    if c.isDigit then (groupedDigits? rest).map ((c.toNat - 48) :: ·) else none
  | c :: d :: rest =>
    if c.isDigit then (groupedDigits? (d :: rest)).map ((c.toNat - 48) :: ·) else none

def ofText? (s : List Char) : Option Int := do
  let (negative, body) := takeSign ((trimPadding s).map asciiDigit)
  let digits ← groupedDigits? body
  if digits.length ≤ maxDigits then
    some (if negative then -(digitsValue digits : Int) else digitsValue digits)
  else none

end CallContract.Number.Whole
