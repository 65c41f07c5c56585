import CallContract.Number.Whole
import CallContract.Text.Blank
import CallContract.Text.Casing
import CallContract.Text.Quoted

/-!
# Tag — the extent of a start tag

A start tag is a name that begins with an ASCII letter, attributes, and `>` or `/>`.  An attribute must stand behind a
quote, a blank or a slash.  A value in quotes may hold anything but its quote; when the quote is not closed, the value
is empty behind blanks, and otherwise the last of several equals signs starts it.
-/

namespace CallContract.Markup

open CallContract.Text

def isLetterAscii (c : Char) : Bool := c.isAlpha

def isQuote (c : Char) : Bool := c = singleQuote || c = doubleQuote

/-- Whether a character goes on with the name of a tag. -/
def isNameChar (c : Char) : Bool :=
  !(c = '\t' || c = '\n' || c = '\r' || c.toNat = 12 || c = ' ' || c = '/' || c = '>' || c.toNat = 0)

/-- The name at the start of a text: an ASCII letter and what goes on with it. -/
def name (s : List Char) : List Char :=
  match s with
  | c :: rest => if isLetterAscii c then c :: rest.takeWhile isNameChar else []
  | [] => []

/-- The number of blanks, and of slashes with no `>` behind them, at the start of a text. -/
def gap : List Char → Nat
  | [] => 0
  | [c] => if isBlank c || c = '/' then 1 else 0
  | c :: d :: rest => if isBlank c || (c = '/' && d ≠ '>') then 1 + gap (d :: rest) else 0

/-! ## Attributes -/

/-- A value behind its equals sign: the number of characters, and the text of the value. -/
structure AttributeValue where
  count : Nat
  text : List Char

-- The value without quotes at the start of a text.
def bareValue (s : List Char) : List Char := s.takeWhile fun c => c ≠ '>' && !isBlank c

/-- The equals signs and the value at the start of a text. -/
def value? (s : List Char) : Option AttributeValue :=
  let before := s.takeWhile isBlank
  let s := s.drop before.length
  let signs := s.takeWhile (· = '=')
  let s := s.drop signs.length
  let after := s.takeWhile isBlank
  let s := s.drop after.length
  let lead := before.length + signs.length + after.length
  if signs.isEmpty then none
  else match s with
    | c :: rest =>
      if isQuote c then
        let inside := rest.takeWhile (· ≠ c)
        if inside.length < rest.length then some ⟨lead + inside.length + 2, inside⟩
        else if ¬after.isEmpty then some ⟨lead - 1, []⟩
        else if 2 ≤ signs.length then
          let bare := bareValue ('=' :: s)
          some ⟨lead - 1 + bare.length, bare⟩
        else none
      else
        let bare := bareValue s
        some ⟨lead + bare.length, bare⟩
    | [] => some ⟨lead, []⟩

/-- One attribute with the gap behind it: the number of characters, and the text of its value.  `before` is the
character to the left. -/
def attribute? (before : Char) (s : List Char) : Option AttributeValue :=
  match s with
  | c :: rest =>
    if (isQuote before || isBlank before || before = '/') && !isBlank c && c ≠ '/' && c ≠ '>' then
      let tail := rest.takeWhile fun d => !isBlank d && d ≠ '/' && d ≠ '=' && d ≠ '>'
      let s := rest.drop tail.length
      let v := (value? s).getD ⟨0, []⟩
      let count := 1 + tail.length + v.count
      some ⟨count + gap (s.drop v.count), v.text⟩
    else none
  | [] => none

/-- The attributes at the start of a text: their values, and the number of characters. -/
def attributes (before : Char) (s : List Char) : List (List Char) × Nat :=
  match attribute? before s with
  | none => ([], 0)
  | some a =>
    let count := max a.count 1
    if _h : s = [] then ([], 0)
    else
      let (values, more) := attributes ((s.drop (count - 1)).headD before) (s.drop count)
      (a.text :: values, count + more)
  termination_by s.length
  decreasing_by
    have : 0 < s.length := List.length_pos_iff.2 _h
    simp only [List.length_drop]; omega

/-! ## The whole tag -/

/-- What a text with `<` and a letter at its start begins with. -/
inductive Opening
  /-- The tag may be unfinished. -/
  | unfinished
  /-- Characters that are no tag after all. -/
  | text (count : Nat) (values : List (List Char))
  /-- A tag; an empty one closes itself. -/
  | tag (count : Nat) (name : List Char) (values : List (List Char)) (isEmpty : Bool)

-- What may follow where an unfinished tag has been read.
def isTagPart (c : Char) : Bool := isLetterAscii c || c = '=' || c = '/'

/-- Reads a start tag behind its `<`. -/
def opening (s : List Char) : Opening :=
  let tagName := name s
  let rest := s.drop tagName.length
  let lead := rest.takeWhile fun c => isBlank c || c = '/'
  let (values, more) := attributes ((tagName ++ lead).getLastD '<') (rest.drop lead.length)
  let read := tagName.length + lead.length + more
  let closedByLead := more = 0 && lead.getLast? = some '/'
  match s.drop read with
  | [] => .unfinished
  | ['/'] => .unfinished
  | '>' :: _ => .tag (read + 2) (lower tagName) values closedByLead
  | '/' :: '>' :: _ => .tag (read + 3) (lower tagName) values true
  | c :: _ => if isTagPart c then .unfinished else .text (read + 1) values

/-! ## Numbers in values -/

/-- The length of the first decimal character reference with too many digits to be read. -/
def longReference? : List Char → Option Nat
  | [] => none
  | c :: rest =>
    let digits := (rest.drop 1).takeWhile Char.isDigit
    if c = '&' ∧ rest.head? = some '#' ∧ Number.Whole.maxDigits < digits.length then some digits.length
    else longReference? rest

end CallContract.Markup
