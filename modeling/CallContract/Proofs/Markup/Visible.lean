import CallContract.Markup.Finding
import CallContract.Proofs.Markup.StartTag
import Mathlib.Data.List.Infix

/-!
# Visible — what can hide a complete tag

A reader that comes to a complete tag finds markup.  What stands before the tag can keep a reader from coming there in
few ways: a broken reference by number ends the reading, and a construct that is still open at the tag reaches over it.
-/

namespace CallContract.Markup

open CallContract.Text

/-! ## 1. Obstacles -/

-- Whether a reference by number is one by hexadecimal digits, behind its `&#`.
def isHexReference (s : List Char) : Bool := s.head? = some 'x' || s.head? = some 'X'

def referenceDigits (s : List Char) : List Char :=
  if isHexReference s then (s.drop 1).takeWhile isHexDigit else s.takeWhile Char.isDigit

def referenceLength (s : List Char) : Nat := (if isHexReference s then 1 else 0) + (referenceDigits s).length

/-- Whether a reference by number is broken: it has no digits, or a digit that it cannot have stands behind them. -/
def isBrokenReference (s : List Char) : Bool :=
  (referenceDigits s).isEmpty || (s.drop (referenceLength s)).head?.any isHexDigit

/-- What begins a text and hides a tag that stands right behind it; `tag` is the tag with all that follows. -/
inductive Hides (tag : List Char) : List Char → Prop
  /-- A broken reference by number ends the reading where no semicolon follows. -/
  | reference {s : List Char} (hbroken : isBrokenReference s = true) (hopen : ';' ∉ s ++ tag) :
      Hides tag ('&' :: '#' :: s)
  /-- The second one ends it in any case. -/
  | secondReference {s r : List Char} (hbroken : isBrokenReference s = true) (hsuffix : '&' :: '#' :: r <:+ s)
      (hagain : isBrokenReference r = true) : Hides tag ('&' :: '#' :: s)
  /-- So does one behind something unfinished. -/
  | unfinishedReference {s r : List Char} (hunfinished : step (s ++ tag) = .unfinished)
      (hsuffix : '&' :: '#' :: r <:+ s) (hbroken : isBrokenReference r = true) : Hides tag s
  /-- An unfinished start tag is text up to the next `>`. -/
  | startTag {c : Char} {s : List Char} (hletter : isLetterAscii c = true)
      (hunfinished : opening (c :: s ++ tag) = .unfinished) (hopen : '>' ∉ s) : Hides tag ('<' :: c :: s)
  /-- An end tag goes up to the next `>`. -/
  | endTag {c : Char} {s : List Char} (hletter : isLetterAscii c = true) (hopen : '>' ∉ s) :
      Hides tag ('<' :: '/' :: c :: s)
  /-- An unfinished comment is text up to the next `>`. -/
  | comment {s : List Char} (hunfinished : search? commentEnd? (s ++ tag) = none) (hopen : '>' ∉ s) :
      Hides tag ('<' :: '!' :: '-' :: '-' :: s)
  /-- So is an unfinished marked section. -/
  | unfinishedSection {s : List Char} (hunfinished : markedSection ('<' :: '!' :: '[' :: s ++ tag) = .unfinished)
      (hopen : '>' ∉ s) : Hides tag ('<' :: '!' :: '[' :: s)
  /-- Character data are no markup up to their end. -/
  | characterData {s : List Char} {count : Nat}
      (hdata : markedSection ('<' :: '!' :: '[' :: s ++ tag) = .advance count none none)
      (hover : s.length + 3 < count) : Hides tag ('<' :: '!' :: '[' :: s)

/-! ## 2. Looking up to the tag -/

section

variable {p : Char → Bool} {s tail : List Char}

-- What stops at `<` does not look into a tag.
theorem takeWhile_before (hp : p '<' = false) (s : List Char) :
    (s ++ '<' :: tail).takeWhile p = s.takeWhile p := by
  induction s with
  | nil => simp [hp]
  | cons c s ih => by_cases hc : p c <;> simp [hc, ih]

theorem dropWhile_before (hp : p '<' = false) (s : List Char) :
    (s ++ '<' :: tail).dropWhile p = s.dropWhile p ++ '<' :: tail := by
  induction s with
  | nil => simp [hp]
  | cons c s ih => by_cases hc : p c <;> simp [hc, ih]

theorem indexWhere?_of_mem {c : Char} (hc : c ∈ s) (hp : p c = true) (more : List Char) :
    ∃ place, place < s.length ∧ indexWhere? p (s ++ more) = some place := by
  have hlength : ((s ++ more).takeWhile (!p ·)).length < s.length := by
    induction s with
    | nil => cases hc
    | cons d s ih =>
      by_cases hd : p d = true
      · simp [hd]
      · rcases List.mem_cons.mp hc with rfl | hc
        · exact absurd hp hd
        · have := ih hc
          simp only [Bool.not_eq_true] at hd
          simp [hd, this]
  refine ⟨_, hlength, ?_⟩
  rw [indexWhere?]
  exact if_pos (by rw [List.length_append]; omega)

theorem upToBracket_of_mem {skipped : Nat} (token? : Option Token) (h : '>' ∈ s.drop skipped) (more : List Char) :
    ∃ count, 1 ≤ count ∧ count ≤ s.length ∧ upToBracket skipped token? (s ++ more) = .advance count token? none := by
  obtain ⟨place, hplace, hindex⟩ := indexWhere?_of_mem (p := (· = '>')) h (by simp) more
  rw [List.length_drop] at hplace
  refine ⟨skipped + place + 1, by omega, by omega, ?_⟩
  rw [upToBracket, List.drop_append_of_le_length (by omega), hindex]

theorem skipUnfinished_le (h : '>' ∈ s.drop 1) (more : List Char) : skipUnfinished (s ++ more) ≤ s.length := by
  cases s with
  | nil => cases h
  | cons c s =>
    obtain ⟨place, hplace, hindex⟩ := indexWhere?_of_mem (p := (· = '>')) h (by simp) more
    rw [skipUnfinished, List.cons_append, List.drop_succ_cons, List.drop_zero]
    rw [List.drop_succ_cons, List.drop_zero] at hplace hindex
    rw [hindex, List.length_cons]
    exact Nat.succ_le_succ hplace

theorem withSemicolon_le {count : Nat} (h : count ≤ s.length) : withSemicolon count (s ++ '<' :: tail) ≤ s.length := by
  rw [withSemicolon, List.drop_append_of_le_length h]
  split
  · rename_i hsemicolon
    cases hdrop : s.drop count with
    | nil => simp [hdrop] at hsemicolon
    | cons c rest =>
      have := congrArg List.length hdrop
      rw [List.length_drop, List.length_cons] at this
      omega
  · exact h

end

/-! ## 3. One step in front of the tag -/

/-- What a step may be that begins with the characters `s` in front of a tag: it refuses the text, finds markup or stays
in front of the tag. -/
inductive StaysBefore : List Char → Step → Prop
  | refused {s : List Char} (r : Refusal) : StaysBefore s (.refuse r)
  | found {s : List Char} (count : Nat) (token : Token) (raw? : Option (List Char)) :
      StaysBefore s (.advance count (some token) raw?)
  | moved {s : List Char} {count : Nat} (hcount : count ≤ s.length) : StaysBefore s (.advance count none none)
  | broken {s : List Char} (hbroken : isBrokenReference s = true) : StaysBefore ('&' :: '#' :: s) (.stopAfter 2)
  | unfinished {s : List Char} (hclosed : '>' ∈ s.drop 1) : StaysBefore s .unfinished

section

variable {s tail : List Char}

theorem numericReference_eq (s : List Char) :
    numericReference ('&' :: '#' :: s)
      = if ¬(referenceDigits s).isEmpty ∧ (s.drop (referenceLength s)).head?.isSome ∧
          ¬(s.drop (referenceLength s)).head?.any isHexDigit then
        if ¬isHexReference s ∧ Number.Whole.maxDigits < (referenceDigits s).length then
          .refuse (.longReference (referenceDigits s).length)
        else .advance (withSemicolon (2 + referenceLength s) ('&' :: '#' :: s)) none none
      else if ('&' :: '#' :: s).contains ';' then .stopAfter 2
      else .stop := by
  have hdrop : ('&' :: '#' :: s).drop (2 + referenceLength s) = s.drop (referenceLength s) := by
    rw [Nat.add_comm, List.drop_succ_cons, List.drop_succ_cons]
  rw [← hdrop, referenceLength, ← Nat.add_assoc]
  rfl

theorem referenceLength_le (s : List Char) : referenceLength s ≤ s.length := by
  rw [referenceLength, referenceDigits]
  cases hhex : isHexReference s with
  | false => simpa using (List.takeWhile_prefix Char.isDigit (l := s)).length_le
  | true =>
    cases s with
    | nil => cases hhex
    | cons c s =>
      have := (List.takeWhile_prefix isHexDigit (l := s)).length_le
      simp only [if_true, List.drop_succ_cons, List.drop_zero, List.length_cons]
      omega

-- The digits of a reference that is not empty end in front of the tag.
theorem referenceDigits_before (c : Char) (s tail : List Char) :
    referenceDigits (c :: s ++ '<' :: tail) = referenceDigits (c :: s) := by
  have hhex : isHexReference (c :: s ++ '<' :: tail) = isHexReference (c :: s) := rfl
  rw [referenceDigits, referenceDigits, hhex]
  split
  · exact takeWhile_before (by decide) s
  · exact takeWhile_before (by decide) (c :: s)

-- What stands behind the digits of a reference is the same with a tag behind it.
theorem numericReference_before (c : Char) (s : List Char) :
    numericReference ('&' :: '#' :: (c :: s ++ '<' :: tail))
      = if isBrokenReference (c :: s) = false then
        if ¬isHexReference (c :: s) ∧ Number.Whole.maxDigits < (referenceDigits (c :: s)).length then
          .refuse (.longReference (referenceDigits (c :: s)).length)
        else .advance (withSemicolon (2 + referenceLength (c :: s)) ('&' :: '#' :: c :: s ++ '<' :: tail)) none none
      else if ('&' :: '#' :: (c :: s ++ '<' :: tail)).contains ';' then .stopAfter 2
      else .stop := by
  have hdigits := referenceDigits_before c s tail
  have hsame : referenceLength (c :: s ++ '<' :: tail) = referenceLength (c :: s) := by
    rw [referenceLength, hdigits]
    rfl
  have hnext : (c :: s ++ '<' :: tail).drop (referenceLength (c :: s))
      = (c :: s).drop (referenceLength (c :: s)) ++ '<' :: tail :=
    List.drop_append_of_le_length (referenceLength_le (c :: s))
  have hany : ((c :: s).drop (referenceLength (c :: s)) ++ '<' :: tail).head?.any isHexDigit
      = ((c :: s).drop (referenceLength (c :: s))).head?.any isHexDigit := by
    cases (c :: s).drop (referenceLength (c :: s)) with
    | nil => simp [isHexDigit]
    | cons d rest => rfl
  have hbroken : (¬(referenceDigits (c :: s)).isEmpty ∧
      ((c :: s).drop (referenceLength (c :: s)) ++ '<' :: tail).head?.isSome ∧
        ¬((c :: s).drop (referenceLength (c :: s)) ++ '<' :: tail).head?.any isHexDigit)
      ↔ isBrokenReference (c :: s) = false := by
    rw [hany, isBrokenReference, Bool.or_eq_false_iff]
    simp
  rw [numericReference_eq, hdigits, hsame, hnext]
  simp only [hbroken]
  rfl

theorem numericReference_stays (h : isBrokenReference s = true → ';' ∈ s ++ '<' :: tail) :
    StaysBefore ('&' :: '#' :: s) (numericReference ('&' :: '#' :: s ++ '<' :: tail)) := by
  cases s with
  | nil =>
    have hsemicolon : ('&' :: '#' :: '<' :: tail).contains ';' = true := by simpa using h rfl
    have hstep : numericReference ('&' :: '#' :: '<' :: tail) = .stopAfter 2 := by
      rw [numericReference_eq, if_neg (by simp [referenceDigits, isHexReference]), if_pos hsemicolon]
    rw [List.cons_append, List.cons_append, List.nil_append, hstep]
    exact .broken rfl
  | cons c s =>
    rw [List.cons_append, List.cons_append, numericReference_before]
    cases hbroken : isBrokenReference (c :: s) with
    | true =>
      have hsemicolon : ('&' :: '#' :: (c :: s ++ '<' :: tail)).contains ';' = true := by
        have hmem := h hbroken
        simp only [List.contains_iff_mem, List.mem_cons]
        exact .inr (.inr hmem)
      rw [if_neg nofun, if_pos hsemicolon]
      exact .broken hbroken
    | false =>
      rw [if_pos rfl]
      split
      · exact .refused _
      · have hlength := referenceLength_le (c :: s)
        refine .moved (withSemicolon_le (s := '&' :: '#' :: c :: s) ?_)
        simp only [List.length_cons] at hlength ⊢
        omega

theorem namedReference_stays (h : s.head? ≠ some '#') :
    StaysBefore ('&' :: s) (namedReference ('&' :: s ++ '<' :: tail)) := by
  cases s with
  | nil => exact .moved (Nat.le_refl 1)
  | cons c s =>
    rw [List.cons_append, List.cons_append, namedReference, List.drop_succ_cons, List.drop_zero]
    cases hletter : isLetterAscii c with
    | false =>
      simp only [hletter, Bool.false_eq_true, if_false]
      exact .moved (by simp)
    | true =>
      simp only [hletter, if_true]
      rw [takeWhile_before (by decide)]
      have hname := (List.takeWhile_prefix (p := isEntityChar) (l := s)).length_le
      have hwhole : 2 + (s.takeWhile isEntityChar).length < ('&' :: c :: (s ++ '<' :: tail)).length := by
        simp only [List.length_cons, List.length_append]
        omega
      rw [if_pos hwhole]
      exact .moved (withSemicolon_le (s := '&' :: c :: s) (by simp only [List.length_cons]; omega))

-- What goes up to a `>` ends in the tag at the latest.
theorem upToBracket_found {skipped : Nat} (token : Token) (h : '>' ∈ s.drop skipped) (front : List Char) :
    StaysBefore front (upToBracket skipped (some token) s) := by
  obtain ⟨count, -, -, heq⟩ := upToBracket_of_mem (some token) h []
  rw [List.append_nil] at heq
  rw [heq]
  exact .found count token none

-- A `>` in front of the tag keeps it there.
theorem upToBracket_stays {skipped : Nat} (token? : Option Token) (h : '>' ∈ s.drop skipped) :
    StaysBefore s (upToBracket skipped token? (s ++ '<' :: tail)) := by
  obtain ⟨count, -, hcount, heq⟩ := upToBracket_of_mem token? h ('<' :: tail)
  rw [heq]
  cases token? with
  | none => exact .moved hcount
  | some token => exact .found count token none

-- An end tag without a name is a comment, if no `>` is in front of the tag.
theorem endTag_of_open (hopen : '>' ∉ s) (hname : name (s ++ '<' :: tail) = []) :
    endTag ('<' :: '/' :: s ++ '<' :: tail) = upToBracket 2 (some .comment) ('<' :: '/' :: s ++ '<' :: tail) := by
  have hhead : ∀ r : List Char, '>' ∉ r → (r ++ '<' :: tail).head? ≠ some '>' := by
    intro r hr
    cases r with
    | nil => simp
    | cons c r =>
      intro heq
      cases heq
      exact hr List.mem_cons_self
  have hplain : endTag.isPlainEnd (s ++ '<' :: tail) = false := by
    unfold endTag.isPlainEnd
    dsimp only
    rw [dropWhile_before (by decide), dropWhile_before (by decide), dropWhile_before (by decide),
      decide_eq_false_iff_not]
    apply hhead
    intro hmem
    exact hopen ((List.dropWhile_subset _) ((List.dropWhile_subset _) ((List.dropWhile_subset _) hmem)))
  unfold endTag
  dsimp only
  rw [List.cons_append, List.cons_append, List.drop_succ_cons, List.drop_succ_cons, List.drop_zero, hname, hplain]
  rw [if_neg (by simpa using hhead s hopen)]

theorem endTag_stays (hend : '>' ∈ tail) (h : ¬Hides ('<' :: tail) ('<' :: '/' :: s)) :
    StaysBefore ('<' :: '/' :: s) (endTag ('<' :: '/' :: s ++ '<' :: tail)) := by
  by_cases hclosed : '>' ∈ s
  · have hdrop : '>' ∈ ('<' :: '/' :: s).drop 2 := hclosed
    unfold endTag
    dsimp only
    split
    · exact upToBracket_stays none hdrop
    · exact upToBracket_stays (some .comment) hdrop
  · have hname : name (s ++ '<' :: tail) = [] := by
      cases s with
      | nil => rfl
      | cons c s =>
        cases hletter : isLetterAscii c with
        | true => exact absurd (.endTag hletter fun hmem => hclosed (List.mem_cons_of_mem c hmem)) h
        | false => simp [name, hletter]
    rw [endTag_of_open hclosed hname]
    exact upToBracket_found _ (by simp [hend]) _

-- The word that opens a document type cannot reach into the tag.
theorem length_of_doctype (hlong : 2 ≤ s.length)
    (h : ((s ++ '<' :: tail).take 9).map Char.toLower = "<!doctype".toList) : 9 ≤ s.length := by
  by_cases hlength : s.length < 9
  · have hget := congrArg (fun word => word[s.length]?) h
    simp only [List.getElem?_map, List.getElem?_take_of_lt hlength, List.getElem?_append_right (Nat.le_refl _),
      Nat.sub_self, List.getElem?_cons_zero, Option.map_some] at hget
    generalize s.length = n at hlong hlength hget
    match n, hlong, hlength with
    | 2, _, _ | 3, _, _ | 4, _, _ | 5, _, _ | 6, _, _ | 7, _, _ | 8, _, _ => exact absurd hget (by decide)
  · omega

theorem markedSection_ends (s : List Char) :
    markedSection s = .unfinished ∨ (∃ r, markedSection s = .refuse r) ∨
      ∃ count token?, markedSection s = .advance count token? none := by
  unfold markedSection
  dsimp only
  repeat' split
  all_goals simp

theorem comment_stays (h : ¬Hides ('<' :: tail) ('<' :: '!' :: '-' :: '-' :: s)) :
    StaysBefore ('<' :: '!' :: '-' :: '-' :: s) (comment ('<' :: '!' :: '-' :: '-' :: s ++ '<' :: tail)) := by
  have hdrop : ('<' :: '!' :: '-' :: '-' :: s ++ '<' :: tail).drop 4 = s ++ '<' :: tail := rfl
  rw [comment, hdrop]
  cases hsearch : search? commentEnd? (s ++ '<' :: tail) with
  | some place => exact .found _ .comment none
  | none =>
    refine .unfinished (Decidable.byContradiction fun hopen => h (.comment hsearch fun hmem => hopen ?_))
    simp [hmem]

theorem markedSection_stays (h : ¬Hides ('<' :: tail) ('<' :: '!' :: '[' :: s)) :
    StaysBefore ('<' :: '!' :: '[' :: s) (markedSection ('<' :: '!' :: '[' :: s ++ '<' :: tail)) := by
  rcases markedSection_ends ('<' :: '!' :: '[' :: s ++ '<' :: tail) with hstep | ⟨r, hstep⟩ | ⟨count, token?, hstep⟩
  · rw [hstep]
    refine .unfinished (Decidable.byContradiction fun hopen => h (.unfinishedSection hstep fun hmem => hopen ?_))
    simp [hmem]
  · rw [hstep]
    exact .refused r
  · rw [hstep]
    cases token? with
    | some token => exact .found count token none
    | none => exact .moved (Nat.le_of_not_lt fun hover => h (.characterData hstep hover))

theorem declaration_stays (hend : '>' ∈ tail) (h : ¬Hides ('<' :: tail) ('<' :: '!' :: s)) :
    StaysBefore ('<' :: '!' :: s) (declaration ('<' :: '!' :: s ++ '<' :: tail)) := by
  unfold declaration
  split
  · rename_i hstart
    match s, h, hstart with
    | [], _, hstart => cases hstart
    | [c], _, hstart => simp [startsWith] at hstart
    | c :: d :: s, h, hstart =>
      obtain ⟨rfl, rfl⟩ : '-' = c ∧ '-' = d := by simpa [startsWith] using hstart
      exact comment_stays h
  · split
    · rename_i hstart
      match s, h, hstart with
      | [], _, hstart => cases hstart
      | c :: s, h, hstart =>
        obtain rfl : '[' = c := by simpa [startsWith] using hstart
        exact markedSection_stays h
    · split
      · rename_i hdoctype
        have hlength := length_of_doctype (s := '<' :: '!' :: s) (by simp) hdoctype
        apply upToBracket_found
        rw [List.drop_append_of_le_length hlength]
        simp [hend]
      · exact upToBracket_found _ (by simp [hend]) _

end

section

variable {s t w : List Char} {c : Char}

/-- A complete tag without attributes and what follows it. -/
def tagBefore (t w : List Char) : List Char := '<' :: (t ++ '>' :: w)

-- A name that goes on into a tag ends at the end of the tag.
theorem behind_name (ht : ∀ c ∈ t, isLetterAscii c = true) (hletter : isLetterAscii c = true)
    (hover : s.length + 1 < (name (c :: s ++ tagBefore t w)).length) :
    (c :: s ++ tagBefore t w)[(name (c :: s ++ tagBefore t w)).length]? = some '>' := by
  have hname : name (c :: s ++ tagBefore t w) = c :: (s ++ tagBefore t w).takeWhile isNameChar := by
    rw [List.cons_append, name, if_pos hletter]
  have hall : ∀ d ∈ '<' :: t, isNameChar d = true := by
    intro d hd
    rcases List.mem_cons.mp hd with rfl | hd
    · decide
    · exact isNameChar_of_letter (ht d hd)
  have htag : (tagBefore t w).takeWhile isNameChar = '<' :: t := by
    rw [tagBefore, ← List.cons_append, List.takeWhile_append_of_pos hall, List.takeWhile_cons_of_neg (by decide),
      List.append_nil]
  rw [hname, List.length_cons, List.takeWhile_append] at hover
  rw [hname, List.length_cons, List.cons_append, List.getElem?_cons_succ, List.takeWhile_append]
  split at hover
  · rename_i hwhole
    rw [if_pos hwhole, htag, tagBefore, ← List.cons_append, ← List.append_assoc,
      List.getElem?_append_right (Nat.le_refl _), Nat.sub_self]
    rfl
  · have := (List.takeWhile_prefix isNameChar (l := s)).length_le
    omega

theorem startTag_stays (ht : ∀ c ∈ t, isLetterAscii c = true) (hletter : isLetterAscii c = true)
    (h : ¬Hides (tagBefore t w) ('<' :: c :: s)) :
    StaysBefore ('<' :: c :: s) (startTag ('<' :: c :: s ++ tagBefore t w)) := by
  have hname : name (c :: s ++ tagBefore t w) ≠ [] := by simp [name, hletter]
  unfold startTag
  dsimp only
  rw [List.cons_append, List.drop_succ_cons, List.drop_zero]
  cases hopening : opening (c :: s ++ tagBefore t w) with
  | unfinished =>
    refine .unfinished (Decidable.byContradiction fun hopen => h (.startTag hletter hopening fun hmem => hopen ?_))
    simp [hmem]
  | text count values =>
    obtain ⟨rfl, d, hd, hnull⟩ := opening_eq_text hname hopening
    dsimp only
    split
    · exact .refused _
    · refine .moved (Nat.succ_le_succ (Nat.le_of_not_lt fun hover => ?_))
      rw [behind_name ht hletter hover] at hd
      cases hd
      cases hnull
  | tag count tagName values isEmpty =>
    dsimp only
    split
    · exact .refused _
    · exact .found count (.tag tagName) _

-- The tag itself is seen.
theorem step_tag (hne : t ≠ []) (ht : ∀ c ∈ t, isLetterAscii c = true) :
    ∃ raw?, step (tagBefore t w) = .advance (t.length + 2) (some (.tag (lower t))) raw? := by
  cases t with
  | nil => exact absurd rfl hne
  | cons c t =>
    have hopening := opening_of_letters (w := w) hne ht
    have hstep : step (tagBefore (c :: t) w) = startTag (tagBefore (c :: t) w) := by
      simp [tagBefore, step, ht c List.mem_cons_self]
    rw [hstep, startTag, tagBefore, List.drop_succ_cons, List.drop_zero, hopening]
    exact ⟨_, rfl⟩

/-- Where nothing hides the tag, a step stays in front of it. -/
theorem step_stays (ht : ∀ c ∈ t, isLetterAscii c = true) (hspecial : isSpecial c = true)
    (h : ¬Hides (tagBefore t w) (c :: s)) : StaysBefore (c :: s) (step (c :: s ++ tagBefore t w)) := by
  have hend : '>' ∈ t ++ '>' :: w := by simp
  rcases (by simpa [isSpecial] using hspecial : c = '<' ∨ c = '&') with rfl | rfl
  · cases s with
    | nil => exact .moved (Nat.le_refl 1)
    | cons d s =>
      simp only [step, List.cons_append]
      split
      · exact startTag_stays ht ‹_› h
      · split
        · rename_i hslash
          subst hslash
          exact endTag_stays hend h
        · split
          · rename_i hinstruction
            subst hinstruction
            exact upToBracket_found _ (by simp [tagBefore]) _
          · split
            · rename_i hdeclaration
              subst hdeclaration
              exact declaration_stays hend h
            · exact .moved (by simp)
  · by_cases hnumeric : s.head? = some '#'
    · cases s with
      | nil => cases hnumeric
      | cons d s =>
        cases hnumeric
        exact numericReference_stays fun hbroken =>
          Decidable.byContradiction fun hopen => h (.reference hbroken hopen)
    · have hstep : step ('&' :: s ++ tagBefore t w) = namedReference ('&' :: s ++ tagBefore t w) := by
        cases s with
        | nil => rfl
        | cons d s =>
          have hd : d ≠ '#' := fun heq => hnumeric (heq ▸ rfl)
          simp [step, hd]
      rw [hstep]
      exact namedReference_stays hnumeric

end

/-! ## 4. A pass -/

-- No reference by number in a text is broken.
def IsUnbroken (s : List Char) : Prop := ∀ r, '&' :: '#' :: r <:+ s → isBrokenReference r = false

/-- What a pass over `front` and a tag gives: it refuses the text, sees markup, or leaves the tag to the next pass with
some of what stands before it. -/
inductive Shows (isLast : Bool) (front tag : List Char) : Except Refusal (List Token × Pending) → Prop
  | refused (r : Refusal) : Shows isLast front tag (.error r)
  | found (token : Token) (tokens : List Token) (pending : Pending) :
      Shows isLast front tag (.ok (token :: tokens, pending))
  | left {rest : List Char} (hfirst : isLast = false) (hrest : rest <:+ front) (hunbroken : IsUnbroken rest) :
      Shows isLast front tag (.ok ([], ⟨rest ++ tag, none⟩))

section

variable {isLast : Bool} {front rest tag t w : List Char}

theorem IsUnbroken.suffix (h : IsUnbroken front) (hrest : rest <:+ front) : IsUnbroken rest := fun r hr =>
  h r (hr.trans hrest)

theorem Shows.mono {r : Except Refusal (List Token × Pending)} (h : Shows isLast rest tag r) (hrest : rest <:+ front) :
    Shows isLast front tag r := by
  cases h with
  | refused r => exact .refused r
  | found token tokens pending => exact .found token tokens pending
  | left hfirst hleft hunbroken => exact .left hfirst (hleft.trans hrest) hunbroken

-- A token that a step has found stays in front of what the rest of the pass finds.
theorem shows_of_found (token : Token) (r : Except Refusal (List Token × Pending)) :
    Shows isLast front tag (do
      let (tokens, pending) ← r
      return ((some token).toList ++ tokens, pending)) := by
  cases r with
  | error r => exact .refused r
  | ok found => exact .found token found.1 found.2

theorem shows_of_moved {r : Except Refusal (List Token × Pending)} (h : Shows isLast front tag r) :
    Shows isLast front tag (do
      let (tokens, pending) ← r
      return ((none : Option Token).toList ++ tokens, pending)) := by
  cases r with
  | error r => exact .refused r
  | ok found => exact h

/-- A pass sees markup in a complete tag, unless something before the tag hides it. -/
theorem pass_shows (hne : t ≠ []) (ht : ∀ c ∈ t, isLetterAscii c = true) (front : List Char)
    (hclear : ∀ x, x <:+ front → ¬Hides (tagBefore t w) x) (hlast : isLast = true → IsUnbroken front) :
    Shows isLast front (tagBefore t w) (pass isLast none (front ++ tagBefore t w)) := by
  -- The induction is on the number of characters before the tag, since every step stays in front of it.
  induction hn : front.length using Nat.strongRecOn generalizing front with
  | ind n ih =>
    have hspecial : (front ++ tagBefore t w).dropWhile (!isSpecial ·)
        = front.dropWhile (!isSpecial ·) ++ tagBefore t w := dropWhile_before (by decide) front
    have hsuffix := List.dropWhile_suffix (!isSpecial ·) (l := front)
    have hhead : ∀ c, (front.dropWhile (!isSpecial ·)).head? = some c → isSpecial c = true := fun c hc => by
      simpa using not_of_head?_dropWhile hc
    rw [pass]
    dsimp only
    rw [hspecial]
    generalize front.dropWhile (!isSpecial ·) = special at hsuffix hhead ⊢
    have hgo : ∀ k, k ≤ special.length → 0 < special.length → Shows isLast front (tagBefore t w)
        (pass isLast none ((special ++ tagBefore t w).drop (max k 1))) := by
      intro k hk hpos
      rw [List.drop_append_of_le_length (by omega)]
      have hrest : special.drop (max k 1) <:+ front := (List.drop_suffix _ special).trans hsuffix
      refine (ih _ ?_ _ (fun x hx => hclear x (hx.trans hrest)) (fun h => (hlast h).suffix hrest) rfl).mono hrest
      have := hsuffix.length_le
      rw [List.length_drop]
      omega
    rw [if_neg (by simp [tagBefore])]
    cases special with
    | nil =>
      obtain ⟨raw?, hstep⟩ := step_tag (w := w) hne ht
      rw [List.nil_append, hstep]
      exact shows_of_found _ _
    | cons c s =>
      have hstays := step_stays ht (hhead c rfl) (hclear _ hsuffix)
      generalize hnext : step (c :: s ++ tagBefore t w) = next at hstays ⊢
      cases hstays with
      | refused r => exact .refused r
      | found count token raw? => exact shows_of_found token _
      | moved hcount => exact shows_of_moved (hgo _ hcount (by simp))
      | @broken s hbroken =>
        cases isLast with
        | true =>
          rw [hlast rfl s hsuffix] at hbroken
          cases hbroken
        | false =>
          refine .left rfl ((List.suffix_append ['&', '#'] s).trans hsuffix) fun r hr => ?_
          exact Bool.eq_false_iff.mpr fun hagain => hclear _ hsuffix (.secondReference hbroken hr hagain)
      | unfinished hclosed =>
        cases isLast with
        | true => exact hgo _ (skipUnfinished_le hclosed _) (by simp)
        | false =>
          refine .left rfl hsuffix fun r hr => ?_
          exact Bool.eq_false_iff.mpr fun hbroken => hclear _ hsuffix (.unfinishedReference hnext hr hbroken)

end

/-! ## 5. The whole text -/

-- The second pass comes to the tag if the first one has left it.
theorem tokens_ne_nil {t w front : List Char} {ts : List Token} (hne : t ≠ []) (ht : ∀ c ∈ t, isLetterAscii c = true)
    (hclear : ∀ x, x <:+ front → ¬Hides (tagBefore t w) x) (h : tokens (front ++ tagBefore t w) = .ok ts) :
    ts ≠ [] := by
  obtain ⟨first, second, hfirst, hsecond, rfl⟩ := passes_of_tokens h
  have hshown : Shows false front (tagBefore t w) (pass false none (front ++ tagBefore t w)) :=
    pass_shows hne ht front hclear nofun
  rw [hfirst] at hshown
  cases hshown with
  | found token tokens pending => simp
  | @left rest _ hrest hunbroken =>
    have hlast : Shows true rest (tagBefore t w) (pass true none (rest ++ tagBefore t w)) :=
      pass_shows hne ht rest (fun x hx => hclear x (hx.trans hrest)) fun _ => hunbroken
    rw [hsecond] at hlast
    cases hlast with
    | found token tokens pending => simp
    | left hfirst _ _ => cases hfirst

/-- A complete tag is found, or the text is refused, unless something that stands before the tag hides it. -/
theorem complete_tag_is_found (u t w : String) (hne : t ≠ "") (ht : ∀ c ∈ t.toList, isLetterAscii c = true)
    (hclear : ∀ x, x <:+ u.toList → ¬Hides (tagBefore t.toList w.toList) x) :
    find? (u ++ "<" ++ t ++ ">" ++ w) ≠ .ok none := by
  have htext : (u ++ "<" ++ t ++ ">" ++ w).toList = u.toList ++ tagBefore t.toList w.toList := by
    simp [tagBefore]
  have hletters : t.toList ≠ [] := by simpa using hne
  rw [find?, htext, if_pos (by simp [tagBefore])]
  cases htokens : tokens (u.toList ++ tagBefore t.toList w.toList) with
  | error r => exact nofun
  | ok ts =>
    obtain ⟨token, rest, rfl⟩ := List.exists_cons_of_ne_nil (tokens_ne_nil hletters ht hclear htokens)
    intro hnone
    cases hfind : (token :: rest).find? Token.isTag <;> simp [Except.map, hfind] at hnone

-- An end tag that is closed hides nothing.
theorem complete_tag_is_found_sample : find? ("</i>" ++ "<" ++ "b" ++ ">" ++ " c") ≠ .ok none := by
  have hamp : ∀ r, ¬ '&' :: '#' :: r <:+ "</i>".toList := fun r hr =>
    absurd (hr.subset List.mem_cons_self) (by decide)
  have hopen : ∀ c s, '<' :: c :: s <:+ "</i>".toList → c = '/' ∧ s = ['i', '>'] := by
    intro c s hs
    have hmem : '<' :: c :: s ∈ ["</i>".toList, "/i>".toList, "i>".toList, ">".toList, []] :=
      (List.mem_tails _ _).mpr hs
    simpa using hmem
  apply complete_tag_is_found
  · decide
  · intro c hc
    have hletter : c = 'b' := by simpa using hc
    rw [hletter]
    rfl
  · intro x hx h
    cases h with
    | reference => exact hamp _ hx
    | secondReference => exact hamp _ hx
    | unfinishedReference _ hsuffix => exact hamp _ (hsuffix.trans hx)
    | startTag _ _ hend => exact hend (by simp [(hopen _ _ hx).2])
    | endTag _ hend =>
      obtain ⟨-, hs⟩ := hopen _ _ hx
      cases hs
      exact hend List.mem_cons_self
    | comment | unfinishedSection | characterData => exact absurd (hopen _ _ hx).1 (by decide)

/-- Each obstacle hides a complete tag. -/
theorem obstacles_hide :
    find? ("&#" ++ "<b>") = .ok none ∧ find? ("&#;&#;" ++ "<b>") = .ok none ∧
      find? ("<a x='>&#;" ++ "<b>") = .ok none ∧ find? ("<a x='" ++ "<b>") = .ok none ∧
      find? ("</a " ++ "<b>") = .ok none ∧ find? ("<!--" ++ "<b>") = .ok none ∧ find? ("<![if " ++ "<b>") = .ok none ∧
      find? ("<![CDATA[" ++ "<b>" ++ "]]>") = .ok none := by
  decide +kernel

end CallContract.Markup
