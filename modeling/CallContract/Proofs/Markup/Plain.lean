import CallContract.Proofs.Markup.Readable

/-!
# Plain — texts in which no markup is found

A text is plain when no `<` in it stands right before a letter, a slash, an exclamation or a question mark.  A reader
takes every such `<` and every reference, broken or not, for text: no token is made of it, no content becomes raw, and
what a pass leaves for the next one is plain again.
-/

namespace CallContract.Markup

open CallContract.Text

/-! ## 1. Plain texts -/

/-- Whether a character right behind a `<` makes it the beginning of markup. -/
def opensMarkup (c : Char) : Bool := isLetterAscii c || c = '/' || c = '!' || c = '?'

/-- No markup begins in a text; a `<` at its end is allowed. -/
def IsPlain (s : List Char) : Prop := ∀ c rest, '<' :: c :: rest <:+ s → opensMarkup c = false

instance (s : List Char) : Decidable (IsPlain s) :=
  decidable_of_iff (∀ t ∈ s.tails, t.head? = some '<' → (t.drop 1).head?.any opensMarkup = false)
    ⟨fun h c rest hs => h _ ((List.mem_tails _ _).mpr hs) rfl, fun h t ht hopen => by
      obtain ⟨behind, rfl⟩ := List.head?_eq_some_iff.mp hopen
      cases behind with
      | nil => rfl
      | cons c rest => exact h c rest ((List.mem_tails _ _).mp ht)⟩

/-- A step that makes no token and leaves nothing unfinished. -/
inductive IsSilent : Step → Prop
  | stop : IsSilent .stop
  | stopAfter (count : Nat) : IsSilent (.stopAfter count)
  | advance (count : Nat) : IsSilent (.advance count none none)
  | refuse (r : Refusal) : IsSilent (.refuse r)

section

variable {s t : List Char} {isLast : Bool} {raw? : Option (List Char)}

theorem IsPlain.of_suffix (h : IsPlain s) (ht : t <:+ s) : IsPlain t := fun c rest hrest => h c rest (hrest.trans ht)

/-! ## 2. One step -/

theorem isSilent_numericReference (s : List Char) : IsSilent (numericReference ('&' :: '#' :: s)) := by
  rw [numericReference_eq]
  split
  · split
    · exact .refuse _
    · exact .advance _
  · split
    · exact .stopAfter 2
    · exact .stop

theorem isSilent_namedReference (s : List Char) : IsSilent (namedReference s) := by
  unfold namedReference
  dsimp only
  split
  · split
    · split
      · exact .advance _
      · split
        · exact .advance _
        · exact .stop
    · exact .advance 1
  · exact .stop

/-- A plain text begins with nothing that a step could make a token of. -/
theorem isSilent_step (h : IsPlain s) : IsSilent (step s) := by
  unfold step
  split
  · next c rest =>
    have hc := h c rest (List.suffix_refl _)
    simp only [opensMarkup, Bool.or_eq_false_iff, decide_eq_false_iff_not] at hc
    obtain ⟨⟨⟨hletter, hslash⟩, hexclamation⟩, hquestion⟩ := hc
    rw [if_neg (by simp [hletter]), if_neg hslash, if_neg hquestion, if_neg hexclamation]
    exact .advance 1
  · exact isSilent_numericReference _
  · exact isSilent_namedReference _
  · exact .stop

theorem isSilent_special (h : IsPlain s) : IsSilent (step (special s)) :=
  isSilent_step (h.of_suffix (special_suffix s))

/-! ## 3. Passes -/

-- A step without a token adds nothing to what comes behind it.
theorem advance_of_no_token (behind : Except Refusal (List Token × Pending)) : (do
      let (tokens, pending) ← behind
      return ((none : Option Token).toList ++ tokens, pending)) = behind := by
  cases behind <;> rfl

/-- A pass over a plain text makes no token and ends in no raw content. -/
theorem pass_of_isPlain : IsPlain s → raw? = none → ∀ read, pass isLast raw? s = .ok read →
    read.1 = [] ∧ read.2.raw? = none := by
  fun_induction pass isLast raw? s with
  | case1 | case2 | case3 =>
    intro _ hraw
    cases hraw
  | case4 | case5 | case6 | case8 =>
    intro _ _ read hread
    cases hread
    exact ⟨rfl, rfl⟩
  | case7 s here hs hstep hlast ih =>
    intro h
    have hsilent := isSilent_special h
    rw [show step (special s) = .unfinished from hstep] at hsilent
    cases hsilent
  | case9 s here hs count token? element? hstep ih =>
    intro h _
    have hsilent := isSilent_special h
    rw [show step (special s) = .advance count token? element? from hstep] at hsilent
    cases hsilent
    rw [advance_of_no_token]
    exact ih (h.of_suffix ((List.drop_suffix _ _).trans (special_suffix s))) rfl
  | case10 =>
    intro _ _ read hread
    cases hread

/-! ## 4. Whole texts -/

/-- Both passes over a plain text make no token. -/
theorem tokens_of_isPlain (h : IsPlain s) {found : List Token} (htokens : tokens s = .ok found) : found = [] := by
  obtain ⟨first, second, hfirst, hsecond, rfl⟩ := passes_of_tokens htokens
  obtain ⟨hnone, hraw⟩ := pass_of_isPlain h rfl first hfirst
  have hrest : IsPlain first.2.rest := h.of_suffix (pending_suffix first.1 hfirst)
  rw [hnone, (pass_of_isPlain hrest hraw second hsecond).1]
  rfl

end

/-- No markup is ever found in a plain text; and it is read to its end unless some decimal reference in it has more
digits than an integer may have. -/
theorem plain_text_has_no_markup (text : String) (h : IsPlain text.toList) :
    (∀ found?, find? text = .ok found? → found? = none) ∧
      (∀ field found, messages find? field text = .ok found → found = []) ∧
      ((∀ t, t <:+ text.toList → ¬IsOverlong t) → find? text = .ok none) := by
  have hnone : ∀ found?, find? text = .ok found? → found? = none := by
    intro found? hfound
    unfold find? at hfound
    split at hfound
    · cases htokens : tokens text.toList with
      | error r =>
        rw [htokens] at hfound
        cases hfound
      | ok found =>
        rw [htokens, tokens_of_isPlain h htokens] at hfound
        cases hfound
        rfl
    · cases hfound
      rfl
  refine ⟨hnone, fun field found hfound => ?_, fun hreferences => ?_⟩
  · unfold messages at hfound
    cases hfind : find? text with
    | error r =>
      rw [hfind] at hfound
      cases hfound
    | ok found? =>
      rw [hfind, hnone found? hfind] at hfound
      cases hfound
      rfl
  · have hsection : ¬"<![".toList <:+: text.toList := by
      rintro ⟨front, back, htext⟩
      have hmark := h '!' ('[' :: back) ⟨front, by rw [← htext, List.append_assoc]; rfl⟩
      exact absurd hmark (by decide)
    obtain ⟨found?, hfound⟩ := (find?_returns_iff text).mpr (not_isUnreadable hsection hreferences)
    rw [hfound, hnone found? hfound]

-- Comparisons, references that are broken or bare, and a last `<`.
theorem plain_text_has_no_markup_sample :
    IsPlain "if a <= 3 && b < 4 then &#; &amp else <".toList ∧
      find? "if a <= 3 && b < 4 then &#; &amp else <" = .ok none := by
  have hplain : IsPlain "if a <= 3 && b < 4 then &#; &amp else <".toList := by decide
  refine ⟨hplain, (plain_text_has_no_markup _ hplain).2.2 fun t ht hlong => ?_⟩
  have hshort := hlong.lt_length.trans_le ht.length_le
  exact absurd hshort (by decide)

end CallContract.Markup
