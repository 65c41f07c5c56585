import CallContract.Markup.Tag

/-!
# Token — what a markup reader sees in a text

Text is read twice from left to right.  The first pass stops at anything that may go on beyond the end of the text;
the second one starts there and passes over what is unfinished.  A broken character reference also ends a pass.  Inside
`script` and `style` only the end tag counts.
-/

namespace CallContract.Markup

open CallContract.Text

inductive Token
  | tag (name : List Char)
  | comment
  | declaration
  | doctype
  | instruction
  deriving DecidableEq

/-- Why a text cannot be read at all. -/
inductive Refusal
  /-- A marked section without a known name. -/
  | malformedSection
  /-- A decimal character reference with this number of digits. -/
  | longReference (digits : Nat)
  deriving DecidableEq

/-- One step of reading at a `<` or `&`. -/
inductive Step
  /-- The pass ends here. -/
  | stop
  /-- The pass ends behind a number of characters. -/
  | stopAfter (count : Nat)
  /-- What begins here is unfinished. -/
  | unfinished
  /-- A number of characters with perhaps a token, and the element whose content is raw from there on. -/
  | advance (count : Nat) (token? : Option Token) (raw? : Option (List Char))
  | refuse (r : Refusal)

/-! ## Searching -/

/-- The place of the first character with a property. -/
def indexWhere? (p : Char → Bool) (s : List Char) : Option Nat :=
  let before := s.takeWhile (!p ·)
  if before.length < s.length then some before.length else none

-- Whether a text starts with another one.
def startsWith (word s : List Char) : Bool := word.isPrefixOf s

/-- The number of characters of the marks `marks`, between which and behind which blanks may stand, and a `>`. -/
def closing? (marks s : List Char) : Option Nat :=
  match marks with
  | [] =>
    let blanks := s.takeWhile isBlank
    if (s.drop blanks.length).head? = some '>' then some (blanks.length + 1) else none
  | mark :: marks =>
    if s.head? = some mark then
      let blanks := if marks.isEmpty then [] else (s.drop 1).takeWhile isBlank
      (closing? marks (s.drop (1 + blanks.length))).map (· + 1 + blanks.length)
    else none

/-- The first place at which `count?` finds something, and what it finds. -/
def search? (count? : List Char → Option Nat) : List Char → Option (Nat × Nat)
  | [] => none
  | c :: rest =>
    match count? (c :: rest) with
    | some n => some (0, n)
    | none => (search? count? rest).map fun (place, n) => (place + 1, n)

/-- The end of a comment: two hyphens, blanks and `>`. -/
def commentEnd? (s : List Char) : Option Nat :=
  if startsWith ['-', '-'] s then (closing? [] (s.drop 2)).map (· + 2) else none

/-- The number of characters of the end tag of a raw element. -/
def rawEnd? (element s : List Char) : Option Nat :=
  if startsWith ['<', '/'] s then
    let blanks := (s.drop 2).takeWhile isBlank
    let s := s.drop (2 + blanks.length)
    if (s.take element.length).map Char.toLower = element then
      (closing? [] (s.drop element.length)).map (· + 2 + blanks.length + element.length)
    else none
  else none

/-! ## References -/

def isHexDigit (c : Char) : Bool := c.isDigit || ('a' ≤ c && c ≤ 'f') || ('A' ≤ c && c ≤ 'F')

/-- The length behind the digits of a reference, and one more for a semicolon. -/
def withSemicolon (count : Nat) (s : List Char) : Nat :=
  if (s.drop count).head? = some ';' then count + 1 else count

/-- A reference by number, behind `&#`; some character must stand behind its digits. -/
def numericReference (s : List Char) : Step :=
  let rest := s.drop 2
  let isHex := rest.head? = some 'x' || rest.head? = some 'X'
  let digits := if isHex then (rest.drop 1).takeWhile isHexDigit else rest.takeWhile Char.isDigit
  let count := 2 + (if isHex then 1 else 0) + digits.length
  let next? := (s.drop count).head?
  if ¬digits.isEmpty ∧ next?.isSome ∧ ¬next?.any isHexDigit then
    if ¬isHex ∧ Number.Whole.maxDigits < digits.length then .refuse (.longReference digits.length)
    else .advance (withSemicolon count s) none none
  else if s.contains ';' then .stopAfter 2
  else .stop

def isEntityChar (c : Char) : Bool := c.isAlphanum || c = '-' || c = '.'

/-- The length of the longest part of a name, beyond its first character, behind which a hyphen or point stands. -/
def brokenName? (nameTail : List Char) : Option Nat :=
  let kept := nameTail.reverse.dropWhile fun c => c ≠ '-' && c ≠ '.'
  if kept.isEmpty then none else some (kept.length - 1)

/-- A reference by name, behind `&`. -/
def namedReference (s : List Char) : Step :=
  match s.drop 1 with
  | c :: rest =>
    if isLetterAscii c then
      let tail := rest.takeWhile isEntityChar
      let count := 2 + tail.length
      if count < s.length then .advance (withSemicolon count s) none none
      else match brokenName? tail with
        | some n => .advance (2 + n) none none
        | none => .stop
    else .advance 1 none none
  | [] => .stop

/-! ## Declarations -/

def sectionNames : List (List Char) :=
  ["temp".toList, "cdata".toList, "ignore".toList, "include".toList, "rcdata".toList]

def conditionNames : List (List Char) := ["if".toList, "else".toList, "endif".toList]

/-- A marked section, behind `<![`.  Character data is no markup. -/
def markedSection (s : List Char) : Step :=
  let body := s.drop 3
  match body with
  | [] => .unfinished
  | c :: rest =>
    if isLetterAscii c then
      let sectionName := c :: rest.takeWhile fun d => d.isAlphanum || d = '-' || d = '_' || d = '.'
      let blanks := (body.drop sectionName.length).takeWhile isBlank
      if sectionName.length + blanks.length = body.length then .unfinished
      else
        let folded := sectionName.map Char.toLower
        let ending? :=
          if sectionNames.contains folded then some [']', ']']
          else if conditionNames.contains folded then some [']']
          else none
        match ending? with
        | none => .refuse .malformedSection
        | some marks =>
          match search? (closing? marks) body with
          | none => .unfinished
          | some (place, n) =>
            let isCharacterData := startsWith "cdata[".toList ((body.take place).map Char.toLower)
            .advance (3 + place + n) (if isCharacterData then none else some .declaration) none
    else .refuse .malformedSection

/-- What ends at the next `>`, the search for which begins behind `skipped` characters. -/
def upToBracket (skipped : Nat) (token? : Option Token) (s : List Char) : Step :=
  match indexWhere? (· = '>') (s.drop skipped) with
  | some place => .advance (skipped + place + 1) token? none
  | none => .unfinished

/-- A comment behind `<!--`. -/
def comment (s : List Char) : Step :=
  match search? commentEnd? (s.drop 4) with
  | some (place, n) => .advance (4 + place + n) (some .comment) none
  | none => .unfinished

/-- Whatever begins with `<!`. -/
def declaration (s : List Char) : Step :=
  if startsWith "<!--".toList s then comment s
  else if startsWith "<![".toList s then markedSection s
  else if (s.take 9).map Char.toLower = "<!doctype".toList then upToBracket 9 (some .doctype) s
  else upToBracket 2 (some .comment) s

/-! ## Tags -/

/-- An end tag, behind `</`.  Without a name it is a comment, unless nothing stands in it. -/
def endTag (s : List Char) : Step :=
  let rest := s.drop 2
  let isNamed := !(name rest).isEmpty || !(name (rest.dropWhile isBlank)).isEmpty && isPlainEnd rest
  if isNamed || rest.head? = some '>' then upToBracket 2 none s else upToBracket 2 (some .comment) s
where
  /-- Whether a name of plain characters with blanks around it reaches to a `>`. -/
  isPlainEnd (s : List Char) : Bool :=
    let s := s.dropWhile isBlank
    let s := s.dropWhile fun c => c.isAlphanum || c = '-' || c = '.' || c = ':' || c = '_'
    (s.dropWhile isBlank).head? = some '>'

def rawElements : List (List Char) := ["script".toList, "style".toList]

/-- A start tag, behind `<`. -/
def startTag (s : List Char) : Step :=
  let checked := fun (values : List (List Char)) (step : Step) =>
    match values.findSome? longReference? with
    | some digits => Step.refuse (.longReference digits)
    | none => step
  match opening (s.drop 1) with
  | .unfinished => .unfinished
  | .text count values => checked values (.advance count none none)
  | .tag count tagName values isEmpty =>
    checked values (.advance count (some (.tag tagName))
      (if rawElements.contains tagName && !isEmpty then some tagName else none))

/-! ## Reading -/

/-- One step at a `<` or `&`. -/
def step (s : List Char) : Step :=
  match s with
  | '<' :: c :: _ =>
    if isLetterAscii c then startTag s
    else if c = '/' then endTag s
    else if c = '?' then upToBracket 2 (some .instruction) s
    else if c = '!' then declaration s
    else .advance 1 none none
  | '&' :: '#' :: _ => numericReference s
  | '&' :: _ => namedReference s
  | _ => .stop

/-- The number of characters that the second pass takes as text where something unfinished begins: up to the next
`>`, or else up to the next `<`. -/
def skipUnfinished (s : List Char) : Nat :=
  match indexWhere? (· = '>') (s.drop 1) with
  | some place => place + 2
  | none =>
    match indexWhere? (· = '<') (s.drop 1) with
    | some place => place + 1
    | none => 1

/-- Where a pass has ended: the text that is left, and the element whose content is raw there. -/
structure Pending where
  rest : List Char
  raw? : Option (List Char)

-- Whether a character needs a closer look.
def isSpecial (c : Char) : Bool := c = '<' || c = '&'

/-- One pass over a text: the tokens, and what is left. -/
def pass (isLast : Bool) (raw? : Option (List Char)) (s : List Char) : Except Refusal (List Token × Pending) :=
  match raw? with
  | some element =>
    match search? (rawEnd? element) s with
    | none => .ok ([], ⟨s, raw?⟩)
    | some (place, n) =>
      if s = [] then .ok ([], ⟨[], raw?⟩) else pass isLast none (s.drop (max (place + n) 1))
  | none =>
    let special := s.dropWhile (!isSpecial ·)
    if special = [] then .ok ([], ⟨[], none⟩)
    else
      match step special with
      | .stop => .ok ([], ⟨special, none⟩)
      | .stopAfter count => .ok ([], ⟨special.drop count, none⟩)
      | .unfinished =>
        if isLast then pass isLast none (special.drop (max (skipUnfinished special) 1))
        else .ok ([], ⟨special, none⟩)
      | .advance count token? raw? => do
        let (tokens, pending) ← pass isLast raw? (special.drop (max count 1))
        return (token?.toList ++ tokens, pending)
      | .refuse r => .error r
  termination_by s.length
  decreasing_by
    · have : 0 < s.length := List.length_pos_iff.2 ‹_›
      simp only [List.length_drop]; omega
    all_goals
      have h : 0 < (s.dropWhile (!isSpecial ·)).length := List.length_pos_iff.2 ‹_›
      have := (List.dropWhile_sublist (!isSpecial ·) (l := s)).length_le
      simp only [List.length_drop]; omega

def tokens (s : List Char) : Except Refusal (List Token) := do
  let (first, pending) ← pass false none s
  let (second, _) ← pass true pending.raw? pending.rest
  return first ++ second

theorem tokens_of_error {s : List Char} {r : Refusal} (h : pass false none s = .error r) : tokens s = .error r := by
  rw [tokens, h]
  rfl

theorem tokens_of_ok {s : List Char} {first : List Token × Pending} (h : pass false none s = .ok first) :
    tokens s = (pass true first.2.raw? first.2.rest).map fun second => first.1 ++ second.1 := by
  rw [tokens, h]
  change (pass true first.2.raw? first.2.rest >>= _) = _
  cases pass true first.2.raw? first.2.rest <;> rfl

-- Both passes have gone through.
theorem passes_of_tokens {s : List Char} {found : List Token} (h : tokens s = .ok found) :
    ∃ first second, pass false none s = .ok first ∧ pass true first.2.raw? first.2.rest = .ok second ∧
      found = first.1 ++ second.1 := by
  cases hfirst : pass false none s with
  | error r =>
    rw [tokens_of_error hfirst] at h
    cases h
  | ok first =>
    rw [tokens_of_ok hfirst] at h
    cases hsecond : pass true first.2.raw? first.2.rest with
    | error r =>
      rw [hsecond] at h
      cases h
    | ok second =>
      rw [hsecond] at h
      cases h
      exact ⟨first, second, rfl, hsecond, rfl⟩

end CallContract.Markup
