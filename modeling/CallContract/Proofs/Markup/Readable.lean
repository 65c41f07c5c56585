import CallContract.Proofs.Markup.Visible
import CallContract.Proofs.Number.Digits

/-!
# Readable — which texts the reader of markup refuses

A text is refused when a pass comes to a marked section without a known name, or to a decimal reference with more digits
than an integer may have, be it in the text or in the value of an attribute.  Nothing else is refused, so that every
text without the start of a section and without such a reference is read to its end.
-/

namespace CallContract.Markup

open CallContract.Text CallContract.Number

/-! ## 1. What is refused -/

-- Whether a character goes on with the name of a marked section.
def isSectionChar (c : Char) : Bool := c.isAlphanum || c = '-' || c = '_' || c = '.'

/-- What stands behind `<![` names no section: no name begins there, or it is an unknown one with something other than
blanks behind it. -/
inductive IsMalformedSection : List Char → Prop
  | unnamed {c : Char} {rest : List Char} (hletter : isLetterAscii c = false) : IsMalformedSection (c :: rest)
  | unknown {c d : Char} {nameTail blanks rest : List Char} (hletter : isLetterAscii c = true)
      (htail : ∀ e ∈ nameTail, isSectionChar e = true) (hblanks : ∀ e ∈ blanks, isBlank e = true)
      (hstop : isBlank d = false) (hend : blanks = [] → isSectionChar d = false)
      (hunknown : (c :: nameTail).map Char.toLower ∉ sectionNames ++ conditionNames) :
      IsMalformedSection (c :: (nameTail ++ (blanks ++ d :: rest)))

/-- A decimal reference with too many digits to be read begins a text. -/
def IsOverlong (s : List Char) : Prop :=
  ∃ digits rest, s = '&' :: '#' :: (digits ++ rest) ∧ AreDigits digits ∧ Whole.maxDigits < digits.length

/-- The values of the attributes that are read behind a `<`. -/
def attributeValues (s : List Char) : List (List Char) :=
  match opening s with
  | .unfinished => []
  | .text _ values => values
  | .tag _ _ values _ => values

/-- What begins a text and cannot be read. -/
inductive IsRefused : List Char → Prop
  | malformedSection {body : List Char} (hbody : IsMalformedSection body) : IsRefused ('<' :: '!' :: '[' :: body)
  /-- A reference is complete when a character stands behind it that is no hexadecimal digit. -/
  | reference {digits rest : List Char} {c : Char} (hdigits : AreDigits digits)
      (hlong : Whole.maxDigits < digits.length) (hnext : isHexDigit c = false) :
      IsRefused ('&' :: '#' :: (digits ++ c :: rest))
  | inValue {c : Char} {s value t : List Char} (hletter : isLetterAscii c = true)
      (hvalue : value ∈ attributeValues (c :: s)) (ht : t <:+ value) (hlong : IsOverlong t) : IsRefused ('<' :: c :: s)

/-! ## 2. Long references -/

section

variable {s t value : List Char} {values : List (List Char)}

-- A run of digits that is long enough shows that as many are taken.
theorem isOverlong_iff_takeWhile (c : Char) (rest : List Char) : IsOverlong (c :: rest)
    ↔ c = '&' ∧ rest.head? = some '#' ∧ Whole.maxDigits < ((rest.drop 1).takeWhile Char.isDigit).length := by
  constructor
  · rintro ⟨digits, more, hs, hdigits, hlong⟩
    cases hs
    refine ⟨rfl, rfl, Nat.lt_of_lt_of_le hlong ?_⟩
    rw [List.drop_one, List.tail_cons, List.takeWhile_append_of_pos hdigits, List.length_append]
    exact Nat.le_add_right _ _
  · rintro ⟨rfl, hsharp, hlong⟩
    cases rest with
    | nil => cases hsharp
    | cons d more =>
      cases hsharp
      refine ⟨more.takeWhile Char.isDigit, more.dropWhile Char.isDigit, ?_, ?_, hlong⟩
      · rw [List.takeWhile_append_dropWhile]
      · exact fun c hc => List.all_eq_true.mp List.all_takeWhile c hc

/-- A value is searched for long references at all of its places. -/
theorem longReference?_isSome_iff : (longReference? value).isSome ↔ ∃ t, t <:+ value ∧ IsOverlong t := by
  induction value with
  | nil =>
    refine iff_of_false nofun ?_
    rintro ⟨t, ht, digits, rest, rfl, -⟩
    exact absurd ht (by simp)
  | cons c rest ih =>
    have hhere := isOverlong_iff_takeWhile c rest
    rw [longReference?]
    split
    · next h => exact iff_of_true rfl ⟨_, List.suffix_refl _, hhere.mpr h⟩
    · next h =>
      rw [ih]
      constructor
      · rintro ⟨t, ht, hlong⟩
        exact ⟨t, ht.trans (List.suffix_cons c rest), hlong⟩
      · rintro ⟨t, ht, hlong⟩
        rcases List.suffix_cons_iff.mp ht with rfl | ht
        · exact absurd (hhere.mp hlong) h
        · exact ⟨t, ht, hlong⟩

end

/-! ## 3. One step -/

section

variable {s t rest : List Char} {c : Char}

-- What is left behind the name of a section and the blanks behind the name.
def behindName (rest : List Char) : List Char := (rest.dropWhile isSectionChar).dropWhile isBlank

-- The name, the blanks behind it and what is left are the whole text.
theorem section_parts (rest : List Char) : rest.takeWhile isSectionChar
    ++ ((rest.dropWhile isSectionChar).takeWhile isBlank ++ behindName rest) = rest := by
  rw [behindName, List.takeWhile_append_dropWhile, List.takeWhile_append_dropWhile]

theorem isSectionChar_of_isBlank (h : isBlank c = true) : isSectionChar c = false := by
  by_contra hchar
  have hkind : isMark c = true ∨ c = '_' := by
    simp only [isSectionChar, Bool.not_eq_false, Bool.or_eq_true, decide_eq_true_eq] at hchar
    simp only [isMark, Bool.or_eq_true, decide_eq_true_eq]
    tauto
  rcases hkind with hmark | rfl
  · rw [isBlank_of_isMark hmark] at h
    cases h
  · exact absurd h (by decide)

theorem isMalformedSection_iff (hletter : isLetterAscii c = true) : IsMalformedSection (c :: rest)
    ↔ behindName rest ≠ [] ∧ (c :: rest.takeWhile isSectionChar).map Char.toLower ∉ sectionNames ++ conditionNames := by
  constructor
  · intro h
    cases h with
    | unnamed hnone =>
      rw [hletter] at hnone
      cases hnone
    | @unknown _ d nameTail blanks rest _ htail hblanks hstop hend hunknown =>
      have hbehind : (blanks ++ d :: rest).takeWhile isSectionChar = [] := by
        cases blanks with
        | nil => exact List.takeWhile_cons_of_neg (by simp [hend rfl])
        | cons b blanks =>
          have hb := isSectionChar_of_isBlank (hblanks b List.mem_cons_self)
          exact List.takeWhile_cons_of_neg (by simp [hb])
      have hname : (nameTail ++ (blanks ++ d :: rest)).takeWhile isSectionChar = nameTail := by
        rw [List.takeWhile_append_of_pos htail, hbehind, List.append_nil]
      refine ⟨?_, by rwa [hname]⟩
      rw [behindName, ← drop_takeWhile isSectionChar, hname, List.drop_left, List.dropWhile_append_of_pos hblanks,
        List.dropWhile_cons_of_neg (by simp [hstop])]
      exact List.cons_ne_nil d rest
  · rintro ⟨hleft, hunknown⟩
    obtain ⟨d, left, hleft⟩ := List.exists_cons_of_ne_nil hleft
    have hparts := section_parts rest
    rw [hleft] at hparts
    rw [← hparts]
    refine .unknown hletter (List.all_eq_true.mp List.all_takeWhile) (List.all_eq_true.mp List.all_takeWhile)
      (not_of_head?_dropWhile (congrArg List.head? hleft)) (fun hnone => ?_) hunknown
    -- Without blanks, what is left begins right behind the name.
    have hbehind : rest.dropWhile isSectionChar = d :: left := by
      have hsplit := List.takeWhile_append_dropWhile (p := isBlank) (l := rest.dropWhile isSectionChar)
      rw [hnone] at hsplit
      exact hsplit.symm.trans hleft
    exact not_of_head?_dropWhile (congrArg List.head? hbehind)

theorem markedSection_named (hletter : isLetterAscii c = true) :
    (∃ r, markedSection ('<' :: '!' :: '[' :: c :: rest) = .refuse r) ↔ behindName rest ≠ []
      ∧ (c :: rest.takeWhile isSectionChar).map Char.toLower ∉ sectionNames ++ conditionNames := by
  have hlength : (c :: rest.takeWhile isSectionChar).length
      + (((c :: rest).drop (c :: rest.takeWhile isSectionChar).length).takeWhile isBlank).length = (c :: rest).length
      ↔ behindName rest = [] := by
    have hparts := congrArg List.length (section_parts rest)
    simp only [List.length_append] at hparts
    rw [List.length_cons, List.drop_succ_cons, drop_takeWhile, List.length_cons, ← List.length_eq_zero_iff]
    omega
  unfold markedSection
  simp only [List.drop_succ_cons, List.drop_zero, hletter, if_true]
  rw [show (fun d : Char => d.isAlphanum || d = '-' || d = '_' || d = '.') = isSectionChar from rfl]
  by_cases hleft : behindName rest = []
  · rw [if_pos (hlength.mpr hleft)]
    refine iff_of_false ?_ fun h => h.1 hleft
    rintro ⟨r, h⟩
    cases h
  · rw [if_neg (mt hlength.mp hleft), and_iff_right hleft]
    generalize (c :: rest.takeWhile isSectionChar).map Char.toLower = folded
    -- What has a known name is searched for its end, and the search refuses nothing.
    by_cases hsection : folded ∈ sectionNames
    · refine iff_of_false ?_ (by simp [hsection])
      rintro ⟨r, h⟩
      rw [if_pos (List.contains_iff_mem.mpr hsection)] at h
      dsimp only at h
      split at h <;> cases h
    · rw [if_neg (mt List.contains_iff_mem.mp hsection)]
      by_cases hcondition : folded ∈ conditionNames
      · refine iff_of_false ?_ (by simp [hcondition])
        rintro ⟨r, h⟩
        rw [if_pos (List.contains_iff_mem.mpr hcondition)] at h
        dsimp only at h
        split at h <;> cases h
      · simp [hsection, hcondition]

theorem markedSection_refuses_iff (body : List Char) :
    (∃ r, markedSection ('<' :: '!' :: '[' :: body) = .refuse r) ↔ IsMalformedSection body := by
  cases body with
  | nil => exact iff_of_false nofun nofun
  | cons c rest =>
    cases hletter : isLetterAscii c with
    | false =>
      refine iff_of_true ?_ (.unnamed hletter)
      simp [markedSection, hletter]
    | true => rw [markedSection_named hletter, isMalformedSection_iff hletter]

/-- Whether a step refuses the text. -/
def Step.Refuses (step : Step) : Prop := ∃ r, step = .refuse r

theorem upToBracket_accepts (skipped : Nat) (token? : Option Token) (s : List Char) :
    ¬(upToBracket skipped token? s).Refuses := by
  rintro ⟨r, h⟩
  unfold upToBracket at h
  split at h <;> cases h

theorem namedReference_accepts (s : List Char) : ¬(namedReference s).Refuses := by
  rintro ⟨r, h⟩
  unfold namedReference at h
  dsimp only at h
  repeat' split at h
  all_goals cases h

theorem endTag_accepts (s : List Char) : ¬(endTag s).Refuses := by
  unfold endTag
  dsimp only
  split <;> exact upToBracket_accepts _ _ _

theorem declaration_refuses_iff (s : List Char) :
    (declaration ('<' :: '!' :: s)).Refuses ↔ ∃ body, s = '[' :: body ∧ IsMalformedSection body := by
  unfold declaration
  split
  · next hcomment =>
    refine iff_of_false ?_ ?_
    · rintro ⟨r, h⟩
      unfold comment at h
      split at h <;> cases h
    · rintro ⟨body, rfl, -⟩
      cases hcomment
  · split
    · next hsection =>
      match s, hsection with
      | c :: body, hsection =>
        obtain rfl : '[' = c := by simpa [startsWith] using hsection
        rw [Step.Refuses, markedSection_refuses_iff]
        simp
    · next hsection =>
      refine iff_of_false ?_ ?_
      · split <;> exact upToBracket_accepts _ _ _
      · rintro ⟨body, rfl, -⟩
        exact hsection rfl

theorem isDigit_of_isHexDigit (h : isHexDigit c = false) : c.isDigit = false := by
  simp only [isHexDigit, Bool.or_eq_false_iff] at h
  exact h.1.1

theorem numericReference_refuses_iff (s : List Char) : (numericReference ('&' :: '#' :: s)).Refuses
    ↔ ∃ digits c rest, s = digits ++ c :: rest ∧ AreDigits digits ∧ Whole.maxDigits < digits.length
      ∧ isHexDigit c = false := by
  rw [numericReference_eq]
  constructor
  · rintro ⟨r, h⟩
    split at h
    · next hcomplete =>
      split at h
      · next hlong =>
        obtain ⟨hdecimal, hlong⟩ := hlong
        have hdigits : referenceDigits s = s.takeWhile Char.isDigit := if_neg hdecimal
        have hlength : referenceLength s = (s.takeWhile Char.isDigit).length := by
          rw [referenceLength, if_neg hdecimal, Nat.zero_add, hdigits]
        obtain ⟨-, hsome, hnext⟩ := hcomplete
        rw [hlength, drop_takeWhile] at hsome hnext
        obtain ⟨c, hc⟩ := Option.isSome_iff_exists.mp hsome
        obtain ⟨rest, hrest⟩ := List.head?_eq_some_iff.mp hc
        refine ⟨s.takeWhile Char.isDigit, c, rest, ?_, List.all_eq_true.mp List.all_takeWhile, hdigits ▸ hlong, ?_⟩
        · rw [← hrest, List.takeWhile_append_dropWhile]
        · simpa [hc] using hnext
      · cases h
    · split at h <;> cases h
  · rintro ⟨digits, c, rest, rfl, hdigits, hlong, hnext⟩
    obtain ⟨d, more, rfl, hd⟩ := hdigits.exists_head (by rintro rfl; simp at hlong)
    have hdecimal : ¬isHexReference (d :: more ++ c :: rest) = true := by
      simp [isHexReference, ne_of_test hd (d := 'x') rfl, ne_of_test hd (d := 'X') rfl]
    have htaken : referenceDigits (d :: more ++ c :: rest) = d :: more := by
      rw [referenceDigits, if_neg hdecimal, List.takeWhile_append_of_pos hdigits,
        List.takeWhile_cons_of_neg (by simp [isDigit_of_isHexDigit hnext]), List.append_nil]
    have hbehind : (d :: more ++ c :: rest).drop (referenceLength (d :: more ++ c :: rest)) = c :: rest := by
      rw [referenceLength, if_neg hdecimal, Nat.zero_add, htaken, List.drop_left]
    refine ⟨.longReference (d :: more).length, ?_⟩
    rw [htaken, hbehind, if_pos ⟨by simp, rfl, by simp [hnext]⟩, if_pos ⟨hdecimal, hlong⟩]

theorem startTag_refuses_iff (s : List Char) : (startTag ('<' :: s)).Refuses
    ↔ ∃ value ∈ attributeValues s, ∃ t, t <:+ value ∧ IsOverlong t := by
  have hfirst : ∀ values : List (List Char), (values.findSome? longReference?).isSome
      ↔ ∃ value ∈ values, ∃ t, t <:+ value ∧ IsOverlong t := fun values => by
    simp only [List.findSome?_isSome_iff, longReference?_isSome_iff]
  unfold startTag attributeValues
  rw [List.drop_succ_cons, List.drop_zero]
  cases opening s with
  | unfinished => simp [Step.Refuses]
  | text count values =>
    rw [← hfirst]
    dsimp only
    cases values.findSome? longReference? <;> simp [Step.Refuses]
  | tag count tagName values isEmpty =>
    rw [← hfirst]
    dsimp only
    cases values.findSome? longReference? <;> simp [Step.Refuses]

/-- A step refuses exactly what cannot be read. -/
theorem step_refuses_iff (s : List Char) : (step s).Refuses ↔ IsRefused s := by
  constructor
  · intro h
    unfold step at h
    split at h
    · next c rest =>
      split at h
      · next hletter =>
        obtain ⟨value, hvalue, t, ht, hlong⟩ := (startTag_refuses_iff _).mp h
        exact .inValue hletter hvalue ht hlong
      · split at h
        · exact absurd h (endTag_accepts _)
        · split at h
          · exact absurd h (upToBracket_accepts _ _ _)
          · split at h
            · next hmark =>
              subst hmark
              obtain ⟨body, rfl, hbody⟩ := (declaration_refuses_iff _).mp h
              exact .malformedSection hbody
            · obtain ⟨r, hr⟩ := h
              cases hr
    · obtain ⟨digits, c, rest, rfl, hdigits, hlong, hnext⟩ := (numericReference_refuses_iff _).mp h
      exact .reference hdigits hlong hnext
    · exact absurd h (namedReference_accepts _)
    · obtain ⟨r, hr⟩ := h
      cases hr
  · intro h
    cases h with
    | malformedSection hbody => exact (declaration_refuses_iff _).mpr ⟨_, rfl, hbody⟩
    | reference hdigits hlong hnext => exact (numericReference_refuses_iff _).mpr ⟨_, _, _, rfl, hdigits, hlong, hnext⟩
    | @inValue c s value t hletter hvalue ht hlong =>
      have hstep : step ('<' :: c :: s) = startTag ('<' :: c :: s) := by simp [step, hletter]
      rw [hstep]
      exact (startTag_refuses_iff _).mpr ⟨value, hvalue, t, ht, hlong⟩

end

/-! ## 4. Passes -/

-- What a pass looks at next: the text from its first special character on.
def special (s : List Char) : List Char := s.dropWhile (!isSpecial ·)

/-- The places that a pass comes to. -/
inductive PassComesTo (isLast : Bool) : Option (List Char) → List Char → List Char → Prop
  | here {s : List Char} (hs : special s ≠ []) : PassComesTo isLast none s (special s)
  /-- Behind the end tag of a raw element. -/
  | raw {element s t : List Char} {place n : Nat} (hs : s ≠ [])
      (hend : search? (rawEnd? element) s = some (place, n))
      (hrest : PassComesTo isLast none (s.drop (max (place + n) 1)) t) : PassComesTo isLast (some element) s t
  /-- The last pass goes on behind what is unfinished. -/
  | skip {s t : List Char} (hlast : isLast = true) (hs : special s ≠ []) (hstep : step (special s) = .unfinished)
      (hrest : PassComesTo isLast none ((special s).drop (max (skipUnfinished (special s)) 1)) t) :
      PassComesTo isLast none s t
  | advance {s t : List Char} {count : Nat} {token? : Option Token} {raw? : Option (List Char)} (hs : special s ≠ [])
      (hstep : step (special s) = .advance count token? raw?)
      (hrest : PassComesTo isLast raw? ((special s).drop (max count 1)) t) : PassComesTo isLast none s t

/-- The places that the reading of a text comes to, in the first pass or in the second. -/
def ComesTo (s t : List Char) : Prop :=
  PassComesTo false none s t ∨
    ∃ tokens pending, pass false none s = .ok (tokens, pending) ∧ PassComesTo true pending.raw? pending.rest t

section

variable {isLast : Bool} {raw? : Option (List Char)} {s t : List Char}

theorem pass_raw {element : List Char} {place n : Nat} (hs : s ≠ [])
    (hend : search? (rawEnd? element) s = some (place, n)) :
    pass isLast (some element) s = pass isLast none (s.drop (max (place + n) 1)) := by
  rw [pass, hend]
  exact dif_neg hs

theorem pass_skip (hlast : isLast = true) (hs : special s ≠ []) (hstep : step (special s) = .unfinished) :
    pass isLast none s = pass isLast none ((special s).drop (max (skipUnfinished (special s)) 1)) := by
  rw [pass]
  unfold special at hs hstep ⊢
  rw [if_neg hs]
  dsimp only
  rw [hstep]
  exact if_pos hlast

theorem pass_advance {count : Nat} {token? : Option Token} {element? : Option (List Char)} (hs : special s ≠ [])
    (hstep : step (special s) = .advance count token? element?) : pass isLast none s = (do
      let (tokens, pending) ← pass isLast element? ((special s).drop (max count 1))
      return (token?.toList ++ tokens, pending)) := by
  rw [pass]
  unfold special at hs hstep ⊢
  rw [if_neg hs]
  dsimp only
  rw [hstep]

theorem pass_refuse {r : Refusal} (hs : special s ≠ []) (hstep : step (special s) = .refuse r) :
    pass isLast none s = .error r := by
  rw [pass]
  unfold special at hs hstep
  rw [if_neg hs]
  dsimp only
  rw [hstep]

-- A step that goes on ends as what comes behind it does.
theorem of_advance_error {found : List Token} {behind : Except Refusal (List Token × Pending)} {r : Refusal}
    (h : (do
      let (tokens, pending) ← behind
      return (found ++ tokens, pending)) = .error r) : behind = .error r := by
  cases behind with
  | error r' => exact congrArg Except.error (Except.error.inj h)
  | ok result => cases h

theorem of_advance_ok {found tokens : List Token} {pending : Pending}
    {behind : Except Refusal (List Token × Pending)} (h : (do
      let (tokens, pending) ← behind
      return (found ++ tokens, pending)) = .ok (tokens, pending)) : ∃ more, behind = .ok (more, pending) := by
  cases behind with
  | error r => cases h
  | ok result => cases h; exact ⟨_, rfl⟩

-- A pass ends with the refusal of a place that it comes to.
theorem pass_of_comesTo (h : PassComesTo isLast raw? s t) (ht : IsRefused t) : ∃ r, pass isLast raw? s = .error r := by
  induction h with
  | here hs =>
    obtain ⟨r, hr⟩ := (step_refuses_iff _).mpr ht
    exact ⟨r, pass_refuse hs hr⟩
  | raw hs hend _ ih => rw [pass_raw hs hend]; exact ih ht
  | skip hlast hs hstep _ ih => rw [pass_skip hlast hs hstep]; exact ih ht
  | advance hs hstep _ ih =>
    obtain ⟨r, hr⟩ := ih ht
    exact ⟨r, by rw [pass_advance hs hstep, hr]; rfl⟩

theorem comesTo_of_pass {r : Refusal} (h : pass isLast raw? s = .error r) :
    ∃ t, PassComesTo isLast raw? s t ∧ IsRefused t := by
  fun_induction pass isLast raw? s with
  | case1 | case2 | case4 | case5 | case6 | case8 => cases h
  | case3 s element place n hend hs ih =>
    obtain ⟨t, ht, hrefused⟩ := ih h
    exact ⟨t, .raw hs hend ht, hrefused⟩
  | case7 s here hs hstep hlast ih =>
    obtain ⟨t, ht, hrefused⟩ := ih h
    exact ⟨t, .skip hlast hs hstep ht, hrefused⟩
  | case9 s here hs count token? element? hstep ih =>
    obtain ⟨t, ht, hrefused⟩ := ih (of_advance_error h)
    exact ⟨t, .advance hs hstep ht, hrefused⟩
  | case10 s here hs r' hstep => exact ⟨special s, .here hs, (step_refuses_iff _).mp ⟨r', hstep⟩⟩

/-! ## 5. Texts -/

theorem tokens_refuses_iff (s : List Char) : (∃ r, tokens s = .error r) ↔ ∃ t, ComesTo s t ∧ IsRefused t := by
  constructor
  · rintro ⟨r, h⟩
    cases hfirst : pass false none s with
    | error r =>
      obtain ⟨t, ht, hrefused⟩ := comesTo_of_pass hfirst
      exact ⟨t, .inl ht, hrefused⟩
    | ok first =>
      rw [tokens_of_ok hfirst] at h
      cases hsecond : pass true first.2.raw? first.2.rest with
      | error r =>
        obtain ⟨t, ht, hrefused⟩ := comesTo_of_pass hsecond
        exact ⟨t, .inr ⟨first.1, first.2, hfirst, ht⟩, hrefused⟩
      | ok second =>
        rw [hsecond] at h
        cases h
  · rintro ⟨t, ht | ⟨ts, pending, hfirst, ht⟩, hrefused⟩
    · obtain ⟨r, hr⟩ := pass_of_comesTo ht hrefused
      exact ⟨r, tokens_of_error hr⟩
    · obtain ⟨r, hr⟩ := pass_of_comesTo ht hrefused
      refine ⟨r, ?_⟩
      rw [tokens_of_ok hfirst, hr]
      rfl

/-- Whether the reading of a text comes to something that cannot be read; only a text with a `<` is read at all. -/
def IsUnreadable (text : String) : Prop := '<' ∈ text.toList ∧ ∃ t, ComesTo text.toList t ∧ IsRefused t

/-- The search for markup is refused exactly by what its reading comes to. -/
theorem find?_refuses_iff (text : String) : (∃ r, find? text = .error r) ↔ IsUnreadable text := by
  unfold find? IsUnreadable
  rw [← tokens_refuses_iff, ← List.contains_iff_mem]
  split
  · next hopen =>
    rw [and_iff_right hopen]
    cases tokens text.toList <;> simp [Except.map]
  · next hopen => exact iff_of_false nofun fun h => hopen h.1

theorem find?_returns_iff (text : String) : (∃ found?, find? text = .ok found?) ↔ ¬IsUnreadable text := by
  rw [← find?_refuses_iff]
  cases find? text <;> simp

/-! ### Texts without the beginnings of what cannot be read -/

theorem IsOverlong.append (h : IsOverlong s) (more : List Char) : IsOverlong (s ++ more) := by
  obtain ⟨digits, rest, rfl, hdigits, hlong⟩ := h
  exact ⟨digits, rest ++ more, by simp, hdigits, hlong⟩

theorem IsOverlong.lt_length (h : IsOverlong s) : Whole.maxDigits < s.length := by
  obtain ⟨digits, rest, rfl, -, hlong⟩ := h
  simp only [List.length_cons, List.length_append]
  omega

-- A reference that is too long within a text begins a suffix of it.
theorem IsOverlong.exists_suffix (h : IsOverlong t) (ht : t <:+: s) : ∃ u, u <:+ s ∧ IsOverlong u := by
  obtain ⟨front, back, rfl⟩ := ht
  exact ⟨t ++ back, ⟨front, by simp⟩, h.append back⟩

theorem IsValue.text_within {v : AttributeValue} (h : IsValue s v) : v.text <:+: s := by
  cases h with
  | bare lead rest => exact (List.takeWhile_prefix _).isInfix.trans (List.suffix_append lead rest).isInfix
  | @quoted q lead inside rest hq => exact ⟨lead ++ [q], q :: rest, by simp⟩
  | skipped lead rest hc => exact List.nil_infix

theorem attribute?_text_within {before : Char} {a : AttributeValue} (h : attribute? before s = some a) :
    a.text <:+: s := by
  cases s with
  | nil => cases h
  | cons c rest =>
    simp only [attribute?, Option.ite_none_right_eq_some, Option.some.injEq] at h
    obtain ⟨-, rfl⟩ := h
    dsimp only
    generalize (rest.takeWhile fun d => !isBlank d && d ≠ '/' && d ≠ '=' && d ≠ '>').length = n
    have hrest : rest.drop n <:+: c :: rest := ((List.drop_suffix n rest).trans (List.suffix_cons c rest)).isInfix
    cases hvalue : value? (rest.drop n) with
    | none => exact List.nil_infix
    | some v => exact (isValue_of_value? hvalue).text_within.trans hrest

theorem attributes_within {before : Char} {value : List Char} (h : value ∈ (attributes before s).1) : value <:+: s := by
  fun_induction attributes before s with
  | case1 | case2 => cases h
  | case3 before s a hsome count hs values more hrest ih =>
    rcases List.mem_cons.mp h with rfl | h
    · exact attribute?_text_within hsome
    · rw [hrest] at ih
      exact (ih h).trans (List.drop_suffix count s).isInfix

-- The value of an attribute stands in the text.
theorem attributeValues_within {value : List Char} (h : value ∈ attributeValues s) : value <:+: s := by
  unfold attributeValues at h
  generalize hopening : opening s = read at h
  unfold opening at hopening
  dsimp only at hopening
  generalize (s.drop (name s).length).takeWhile (fun c => isBlank c || c = '/') = lead at hopening
  generalize (name s ++ lead).getLastD '<' = before at hopening
  have hread : value ∈ (attributes before ((s.drop (name s).length).drop lead.length)).1 := by
    repeat' split at hopening
    all_goals
      subst hopening
      first | exact h | cases h
  exact (attributes_within hread).trans ((List.drop_suffix _ _).trans (List.drop_suffix _ _)).isInfix

theorem special_suffix (s : List Char) : special s <:+ s := List.dropWhile_suffix _

theorem PassComesTo.suffix (h : PassComesTo isLast raw? s t) : t <:+ s := by
  induction h with
  | here hs => exact special_suffix _
  | raw hs hend _ ih => exact ih.trans (List.drop_suffix _ _)
  | skip hlast hs hstep _ ih => exact ih.trans ((List.drop_suffix _ _).trans (special_suffix _))
  | advance hs hstep _ ih => exact ih.trans ((List.drop_suffix _ _).trans (special_suffix _))

theorem pending_suffix (ts : List Token) {pending : Pending} (h : pass isLast raw? s = .ok (ts, pending)) :
    pending.rest <:+ s := by
  fun_induction pass isLast raw? s generalizing ts with
  | case1 | case2 => cases h; exact List.suffix_refl _
  | case3 s element place n hend hs ih => exact (ih ts h).trans (List.drop_suffix _ _)
  | case4 => cases h; exact List.nil_suffix
  | case5 | case8 => cases h; exact special_suffix _
  | case6 => cases h; exact (List.drop_suffix _ _).trans (special_suffix _)
  | case7 s here hs hstep hlast ih => exact (ih ts h).trans ((List.drop_suffix _ _).trans (special_suffix _))
  | case9 s here hs count token? element? hstep ih =>
    obtain ⟨more, hmore⟩ := of_advance_ok h
    exact (ih more hmore).trans ((List.drop_suffix _ _).trans (special_suffix _))
  | case10 => cases h

theorem ComesTo.suffix (h : ComesTo s t) : t <:+ s := by
  rcases h with h | ⟨ts, pending, hfirst, h⟩
  · exact h.suffix
  · exact h.suffix.trans (pending_suffix ts hfirst)

/-- A text without the start of a marked section and without a reference that is too long can be read. -/
theorem not_isUnreadable {text : String} (hsection : ¬"<![".toList <:+: text.toList)
    (hreference : ∀ t, t <:+ text.toList → ¬IsOverlong t) : ¬IsUnreadable text := by
  rintro ⟨-, t, hcomes, hrefused⟩
  have hsuffix := hcomes.suffix
  cases hrefused with
  | malformedSection hbody => exact hsection (List.IsInfix.trans ⟨[], _, rfl⟩ hsuffix.isInfix)
  | reference hdigits hlong hnext => exact hreference _ hsuffix ⟨_, _, rfl, hdigits, hlong⟩
  | inValue hletter hvalue ht hlong =>
    have hwithin := (ht.isInfix.trans (attributeValues_within hvalue)).trans (List.suffix_cons '<' _).isInfix
    obtain ⟨u, hu, hlong⟩ := hlong.exists_suffix (hwithin.trans hsuffix.isInfix)
    exact hreference u hu hlong

end

end CallContract.Markup
