import CallContract.Markup.Tag

/-!
# StartTag — where the reading of a start tag stops

Attributes are read until nothing more can be one.  What stands there is the end of the tag, an equals sign in front of
a quote that is never closed, or the end of the text.  So what begins with `<` and a letter is a tag or may become one;
only a null character behind the name makes it text.
-/

namespace CallContract.Markup

open CallContract.Text

/-! ## 1. Runs of characters -/

section

variable {p : Char → Bool} {s : List Char} {c : Char}

theorem drop_takeWhile (p : Char → Bool) (s : List Char) : s.drop (s.takeWhile p).length = s.dropWhile p := by
  induction s with
  | nil => rfl
  | cons c rest ih => by_cases hc : p c <;> simp [hc, ih]

-- Behind a run stands a character without its property.
theorem not_of_head?_dropWhile (h : (s.dropWhile p).head? = some c) : p c = false := by
  have hnot := List.head?_dropWhile_not p s
  rw [h] at hnot
  exact hnot

end

/-! ## 2. Gaps and values -/

-- A gap ends in front of a character that is no blank, and behind a blank or a slash.
theorem gap_ends (s : List Char) :
    (∀ c, s[gap s]? = some c → isBlank c = false) ∧
      (0 < gap s → ∃ c, s[gap s - 1]? = some c ∧ (isBlank c = true ∨ c = '/')) := by
  fun_induction gap s with
  | case1 => exact ⟨nofun, nofun⟩
  | case2 c h => exact ⟨nofun, fun _ => ⟨c, rfl, by simpa using h⟩⟩
  | case3 c h =>
    refine ⟨fun c' hc' => ?_, nofun⟩
    cases hc'
    simp_all
  | case4 c d rest h ih =>
    rw [show 1 + gap (d :: rest) = gap (d :: rest) + 1 by omega]
    refine ⟨fun c' hc' => ih.1 c' hc', fun _ => ?_⟩
    by_cases hgap : gap (d :: rest) = 0
    · refine ⟨c, by simp [hgap], ?_⟩
      simp only [Bool.or_eq_true, Bool.and_eq_true, decide_eq_true_eq] at h
      exact h.imp_right And.left
    · obtain ⟨c', hc', hkind⟩ := ih.2 (by omega)
      refine ⟨c', ?_, hkind⟩
      rw [show gap (d :: rest) + 1 - 1 = gap (d :: rest) - 1 + 1 by omega]
      exact hc'
  | case5 c d rest h =>
    refine ⟨fun c' hc' => ?_, nofun⟩
    cases hc'
    simp_all

theorem bareValue_ends {s : List Char} {c : Char} (h : s[(bareValue s).length]? = some c) :
    c = '>' ∨ isBlank c = true := by
  rw [← List.head?_drop, bareValue, drop_takeWhile] at h
  have hstop := not_of_head?_dropWhile h
  by_cases hc : c = '>' <;> simp_all

/-- How a value is read behind what leads to it: up to a blank or the end of the tag, or between quotes; or nothing is
read, and the blank in front of it is left. -/
inductive IsValue : List Char → AttributeValue → Prop
  | bare (lead rest : List Char) : IsValue (lead ++ rest) ⟨lead.length + (bareValue rest).length, bareValue rest⟩
  | quoted {q : Char} (lead inside rest : List Char) (hq : isQuote q = true) :
      IsValue (lead ++ q :: inside ++ q :: rest) ⟨lead.length + inside.length + 2, inside⟩
  | skipped {c : Char} (lead rest : List Char) (hc : isBlank c = true) : IsValue (lead ++ c :: rest) ⟨lead.length, []⟩

-- What stops in front of a character goes on with it.
theorem takeWhile_ends {q : Char} {rest : List Char} (h : (rest.takeWhile (· ≠ q)).length < rest.length) :
    ∃ more, rest = rest.takeWhile (· ≠ q) ++ q :: more := by
  have hrest : rest.takeWhile (· ≠ q) ++ rest.dropWhile (· ≠ q) = rest := List.takeWhile_append_dropWhile
  cases hmore : rest.dropWhile (· ≠ q) with
  | nil =>
    rw [hmore, List.append_nil] at hrest
    rw [hrest] at h
    exact absurd h (Nat.lt_irrefl _)
  | cons c more =>
    have hc : c = q := by
      have hstop : (rest.dropWhile (· ≠ q)).head? = some c := by rw [hmore]; rfl
      simpa using not_of_head?_dropWhile hstop
    rw [hmore, hc] at hrest
    exact ⟨more, hrest.symm⟩

-- What leads to a value are blanks, equals signs and blanks again; the last equals sign may start the value.
theorem isValue_of_value? {s : List Char} {v : AttributeValue} (h : value? s = some v) : IsValue s v := by
  unfold value? at h
  simp only [drop_takeWhile] at h
  have hs : s.takeWhile isBlank ++ s.dropWhile isBlank = s := List.takeWhile_append_dropWhile
  generalize s.takeWhile isBlank = before at h hs
  generalize s.dropWhile isBlank = s₁ at h hs
  have hs₁ : s₁.takeWhile (· = '=') ++ s₁.dropWhile (· = '=') = s₁ := List.takeWhile_append_dropWhile
  have hsigns : ∀ c ∈ s₁.takeWhile (· = '='), c = '=' := fun c hc => by
    simpa using List.all_eq_true.mp List.all_takeWhile c hc
  generalize s₁.takeWhile (· = '=') = signs at h hs₁ hsigns
  generalize s₁.dropWhile (· = '=') = s₂ at h hs₁
  have hs₂ : s₂.takeWhile isBlank ++ s₂.dropWhile isBlank = s₂ := List.takeWhile_append_dropWhile
  have hafter : ∀ c ∈ s₂.takeWhile isBlank, isBlank c = true := List.all_eq_true.mp List.all_takeWhile
  generalize s₂.takeWhile isBlank = after at h hs₂ hafter
  generalize s₂.dropWhile isBlank = s₃ at h hs₂
  subst hs₂ hs₁ hs
  split at h
  · cases h
  cases s₃ with
  | nil =>
    cases h
    simpa [bareValue, Nat.add_assoc] using IsValue.bare (before ++ (signs ++ after)) []
  | cons c rest =>
    dsimp only at h
    split at h
    · next hquote =>
      split at h
      · next hclosed =>
        cases h
        obtain ⟨more, hmore⟩ := takeWhile_ends hclosed
        generalize rest.takeWhile (· ≠ c) = inside at hmore
        subst hmore
        simpa [Nat.add_assoc] using IsValue.quoted (before ++ (signs ++ after)) inside more hquote
      · split at h
        · next hblanks =>
          cases h
          obtain ⟨front, b, rfl⟩ := (List.eq_nil_or_concat after).resolve_left (by simpa using hblanks)
          have hb : isBlank b = true := hafter b (by simp)
          have hlead : before.length + signs.length + (front ++ [b]).length - 1
              = (before ++ (signs ++ front)).length := by
            simp only [List.length_append, List.length_singleton]
            omega
          rw [List.concat_eq_append, hlead]
          simpa using IsValue.skipped (before ++ (signs ++ front)) (c :: rest) hb
        · next hblanks =>
          split at h
          · next hlong =>
            cases h
            obtain ⟨front, sign, rfl⟩ := (List.eq_nil_or_concat signs).resolve_left (by rintro rfl; simp at hlong)
            have hsign : sign = '=' := hsigns sign (by simp)
            have hnone : after = [] := by simpa using hblanks
            subst hsign hnone
            simpa [Nat.add_assoc] using IsValue.bare (before ++ front) ('=' :: c :: rest)
          · cases h
    · cases h
      simpa [Nat.add_assoc] using IsValue.bare (before ++ (signs ++ after)) (c :: rest)

/-- A value stops behind a quote, or in front of a blank or the end of the tag. -/
theorem value?_ends {s : List Char} {v : AttributeValue} (h : value? s = some v) :
    (0 < v.count ∧ ∃ q, s[v.count - 1]? = some q ∧ isQuote q = true) ∨
      ∀ c, s[v.count]? = some c → c = '>' ∨ isBlank c = true := by
  cases isValue_of_value? h with
  | bare lead rest =>
    right
    intro c hc
    rw [List.getElem?_append_right (by simp), Nat.add_sub_cancel_left] at hc
    exact bareValue_ends hc
  | @quoted q lead inside rest hq =>
    left
    have hindex : lead.length + inside.length + 2 - 1 = (lead ++ q :: inside).length := by simp [Nat.add_assoc]
    refine ⟨by simp, q, ?_, hq⟩
    rw [hindex, List.getElem?_append_right (Nat.le_refl _), Nat.sub_self]
    rfl
  | @skipped c lead rest hc =>
    right
    intro d hd
    rw [List.getElem?_append_right (Nat.le_refl _), Nat.sub_self] at hd
    cases hd
    exact .inr hc

/-! ## 3. Attributes -/

/-- What stands at the start of a text goes on with no attribute, and it is not taken for text either. -/
def Stopped (s : List Char) : Prop := ∀ c, s.head? = some c → c = '>' ∨ c = '=' ∨ c = '/'

-- Whether an attribute may begin behind a character.
def isOpener (before : Char) : Bool := isQuote before || isBlank before || before = '/'

-- Where an attribute may begin but does not, a blank or the end of the tag stands.
theorem of_attribute?_eq_none {before : Char} {s : List Char} (h : attribute? before s = none)
    (hbefore : isOpener before = true) {c : Char} (hc : s.head? = some c) : isBlank c = true ∨ c = '>' ∨ c = '/' := by
  cases s with
  | nil => cases hc
  | cons d rest =>
    cases hc
    simp only [attribute?, ite_eq_right_iff, reduceCtorEq, imp_false] at h
    simp only [isOpener] at hbefore
    by_cases h₁ : c = '>' <;> by_cases h₂ : c = '/' <;> simp_all

-- The parts of an attribute: its first character, its name, its value and the gap behind it.
theorem attribute?_eq_some {before : Char} {s : List Char} {a : AttributeValue} (h : attribute? before s = some a) :
    ∃ c rest nameTail, s = c :: rest ∧
      nameTail = rest.takeWhile (fun d => !isBlank d && d ≠ '/' && d ≠ '=' && d ≠ '>') ∧
      a.count = 1 + nameTail.length + ((value? (rest.drop nameTail.length)).getD ⟨0, []⟩).count
        + gap ((rest.drop nameTail.length).drop ((value? (rest.drop nameTail.length)).getD ⟨0, []⟩).count) := by
  cases s with
  | nil => cases h
  | cons c rest =>
    simp only [attribute?, Option.ite_none_right_eq_some, Option.some.injEq] at h
    obtain ⟨-, rfl⟩ := h
    exact ⟨c, rest, _, rfl, rfl, rfl⟩

-- Behind a name, its value and the gap behind that, an attribute may begin, or nothing more can be one.
theorem value_and_gap_end {s : List Char} {v : AttributeValue}
    (hs : ∀ c, s.head? = some c → isBlank c = true ∨ c = '/' ∨ c = '=' ∨ c = '>')
    (hv : (value? s).getD ⟨0, []⟩ = v) :
    (∀ c, (s.drop (v.count + gap (s.drop v.count))).head? = some c → isBlank c = false) ∧
      ((0 < v.count + gap (s.drop v.count) ∧
          ∃ q, s[v.count + gap (s.drop v.count) - 1]? = some q ∧ isOpener q = true) ∨
        Stopped (s.drop (v.count + gap (s.drop v.count)))) := by
  obtain ⟨hfront, hback⟩ := gap_ends (s.drop v.count)
  simp only [List.getElem?_drop] at hfront hback
  refine ⟨fun c hc => hfront c (List.head?_drop ▸ hc), ?_⟩
  by_cases hgap : gap (s.drop v.count) = 0
  · rw [hgap, Nat.add_zero] at hfront ⊢
    cases hvalue : value? s with
    | none =>
      rw [hvalue] at hv
      cases hv
      right
      intro d hd
      change s.head? = some d at hd
      rcases hs d hd with hblank | hslash | hsign | hend
      · rw [hfront d (List.head?_eq_getElem? ▸ hd)] at hblank
        cases hblank
      · exact .inr (.inr hslash)
      · exact .inr (.inl hsign)
      · exact .inl hend
    | some v' =>
      rw [hvalue] at hv
      cases hv
      rcases value?_ends hvalue with ⟨hpos, q, hq, hquote⟩ | hstop
      · exact .inl ⟨hpos, q, hq, by simp [isOpener, hquote]⟩
      · right
        intro d hd
        rw [List.head?_drop] at hd
        rcases hstop d hd with hend | hblank
        · exact .inl hend
        · rw [hfront d hd] at hblank
          cases hblank
  · obtain ⟨q, hq, hkind⟩ := hback (Nat.pos_of_ne_zero hgap)
    left
    rw [Nat.add_sub_assoc (Nat.pos_of_ne_zero hgap)]
    refine ⟨by omega, q, hq, ?_⟩
    rcases hkind with hblank | rfl
    · simp [isOpener, hblank]
    · rfl

/-- Behind an attribute another one begins, or nothing more can be one. -/
theorem attribute?_ends {before : Char} {s : List Char} {a : AttributeValue} (h : attribute? before s = some a)
    (hnone : attribute? ((s.drop (a.count - 1)).headD before) (s.drop a.count) = none) :
    Stopped (s.drop a.count) := by
  obtain ⟨c, rest, nameTail, rfl, htail, hcount⟩ := attribute?_eq_some h
  have hname : ∀ d, (rest.drop nameTail.length).head? = some d →
      isBlank d = true ∨ d = '/' ∨ d = '=' ∨ d = '>' := by
    intro d hd
    rw [htail, drop_takeWhile] at hd
    have hkind := not_of_head?_dropWhile hd
    by_cases h₁ : d = '/' <;> by_cases h₂ : d = '=' <;> by_cases h₃ : d = '>' <;> simp_all
  obtain ⟨hunblank, hends⟩ := value_and_gap_end hname rfl
  generalize ((value? (rest.drop nameTail.length)).getD ⟨0, []⟩).count = m at hcount hunblank hends
  generalize hn : m + gap ((rest.drop nameTail.length).drop m) = n at hunblank hends
  rw [Nat.add_assoc, hn] at hcount
  have hdrop : (c :: rest).drop a.count = (rest.drop nameTail.length).drop n := by
    rw [hcount, List.drop_drop, show 1 + nameTail.length + n = nameTail.length + n + 1 by omega, List.drop_succ_cons]
  rcases hends with ⟨hpos, q, hq, hopener⟩ | hstopped
  · -- Behind a character at which an attribute may begin, only the end of the tag keeps one from beginning.
    have hlast : (c :: rest)[a.count - 1]? = some q := by
      rw [hcount, show 1 + nameTail.length + n - 1 = nameTail.length + (n - 1) + 1 by omega,
        List.getElem?_cons_succ, ← List.getElem?_drop, hq]
    rw [List.headD_eq_head?_getD, List.head?_drop, hlast, Option.getD_some] at hnone
    intro d hd
    rcases of_attribute?_eq_none hnone hopener hd with hblank | hend
    · rw [hunblank d (hdrop ▸ hd)] at hblank
      cases hblank
    · exact hend.imp_right .inr
  · rwa [hdrop]

theorem attributes_end {before : Char} {s : List Char} (h : attribute? before s = none → Stopped s) :
    Stopped (s.drop (attributes before s).2) := by
  fun_induction attributes before s with
  | case1 before s hnone => exact h hnone
  | case2 before a hsome => cases hsome
  | case3 before s a hsome count hs values more hrest ih =>
    have hcount : count = a.count := by
      obtain ⟨_, _, _, -, -, heq⟩ := attribute?_eq_some hsome
      simp only [count]
      omega
    rw [hrest, hcount] at ih
    have hend := ih (attribute?_ends hsome)
    rwa [List.drop_drop, ← hcount] at hend

theorem attributes_of_none {before : Char} {s : List Char} (h : attribute? before s = none) :
    attributes before s = ([], 0) := by
  rw [attributes]
  split
  · rfl
  · simp_all

/-! ## 4. The whole tag -/

-- Whether a character may stand between the name and the first attribute.
def isLead (c : Char) : Bool := isBlank c || c = '/'

theorem not_isNameChar_of_behind_name {s : List Char} {c : Char} (hname : name s ≠ [])
    (hc : s[(name s).length]? = some c) : isNameChar c = false := by
  cases s with
  | nil => exact absurd rfl hname
  | cons d rest =>
    rw [name] at hname hc
    split at hc
    · rw [List.length_cons, List.getElem?_cons_succ, ← List.head?_drop, drop_takeWhile] at hc
      exact not_of_head?_dropWhile hc
    · simp_all

-- A name ends in front of a blank, a slash, the end of the tag or a null character.
theorem toNat_eq_zero_of_behind_name {s : List Char} {c : Char} (hname : name s ≠ [])
    (hc : s[(name s).length]? = some c) (hlead : isLead c = false) (hend : c ≠ '>') : c.toNat = 0 := by
  have hkind := not_isNameChar_of_behind_name hname hc
  rw [isLead, Bool.or_eq_false_iff] at hlead
  have hblank : ∀ d : Char, isBlank d = true → c ≠ d := by
    rintro d hd rfl
    rw [hlead.1] at hd
    cases hd
  have hfeed : c.toNat ≠ 12 := by
    intro h
    have hfeed : isBlank c = true := by rw [isBlank, h]; decide
    rw [hlead.1] at hfeed
    cases hfeed
  have htab := hblank '\t' (by decide)
  have hline := hblank '\n' (by decide)
  have hreturn := hblank '\r' (by decide)
  have hspace := hblank ' ' (by decide)
  simp_all [isNameChar]

-- The first attribute may begin at once behind a lead.
theorem stopped_of_lead {s lead rest : List Char} {opener : Char} {before : List Char}
    (hlead : s.takeWhile isLead = lead) (hopener : (before ++ lead).getLastD '<' = opener)
    (hrest : s.drop lead.length = rest) (hne : lead ≠ []) (hnone : attribute? opener rest = none) : Stopped rest := by
  intro c hc
  obtain ⟨q, hq⟩ := Option.ne_none_iff_exists'.mp (mt List.getLast?_eq_none_iff.mp hne)
  have hlast : opener = q := by
    rw [← hopener, List.getLastD_eq_getLast?, List.getLast?_append, hq]
    rfl
  have hkind : isLead q = true := by
    rw [← hlead] at hq
    exact List.all_eq_true.mp List.all_takeWhile q (List.mem_of_getLast? hq)
  have hopener : isOpener opener = true := by
    rw [hlast]
    simp only [isLead, isOpener] at hkind ⊢
    cases hquote : isQuote q <;> simp_all
  have hstop : isLead c = false := by
    rw [← hrest, ← hlead, drop_takeWhile] at hc
    exact not_of_head?_dropWhile hc
  rw [isLead, Bool.or_eq_false_iff] at hstop
  rcases of_attribute?_eq_none hnone hopener hc with hblank | hend
  · rw [hstop.1] at hblank
    cases hblank
  · exact hend.imp_right .inr

/-- What begins with a letter is a tag or may become one, unless a null character stands behind its name. -/
theorem opening_eq_text {s : List Char} {n : Nat} {values : List (List Char)} (hname : name s ≠ [])
    (h : opening s = .text n values) :
    n = (name s).length + 1 ∧ ∃ c, s[(name s).length]? = some c ∧ c.toNat = 0 := by
  unfold opening at h
  dsimp only at h
  generalize hlead : (s.drop (name s).length).takeWhile (fun c => isBlank c || c = '/') = lead at h
  generalize hopener : (name s ++ lead).getLastD '<' = opener at h
  generalize hrest : (s.drop (name s).length).drop lead.length = rest at h
  rw [Nat.add_assoc, ← List.drop_drop, ← List.drop_drop, hrest] at h
  split at h
  · cases h
  · cases h
  · cases h
  · cases h
  · rename_i c left _ hend _ hleft
    split at h
    · cases h
    · rename_i hpart
      cases h
      -- Had an attribute been read, then only the end of the tag or an equals sign could stand here.
      have hread : ¬(attribute? opener rest = none → Stopped rest) := by
        intro hset
        rcases attributes_end hset c (by rw [hleft]; rfl) with rfl | rfl | rfl
        · exact hend rfl
        · exact hpart rfl
        · exact hpart rfl
      obtain ⟨hnone, hstopped⟩ := Classical.not_imp.mp hread
      have hempty : lead = [] := Decidable.byContradiction fun hne =>
        hstopped (stopped_of_lead hlead hopener hrest hne hnone)
      rw [attributes_of_none hnone] at hleft ⊢
      subst hempty
      have hc : s[(name s).length]? = some c := by
        rw [← List.head?_drop, show s.drop (name s).length = rest from hrest]
        exact congrArg List.head? hleft
      have hisLead : isLead c = false := by
        have hnolead : (s.drop (name s).length).takeWhile isLead = [] := hlead
        apply not_of_head?_dropWhile (s := s.drop (name s).length)
        rw [← drop_takeWhile, hnolead, List.length_nil, List.drop_zero, List.head?_drop, hc]
      exact ⟨rfl, c, hc, toNat_eq_zero_of_behind_name hname hc hisLead hend⟩

section

variable {t w : List Char}

theorem isNameChar_of_letter {c : Char} (h : isLetterAscii c = true) : isNameChar c = true := by
  have hne : ∀ d : Char, isLetterAscii d = false → c ≠ d := by
    rintro d hd rfl
    rw [hd] at h
    cases h
  have hcode : ∀ n, isLetterAscii (Char.ofNat n) = false → c.toNat ≠ n := by
    intro n hn hc
    apply hne (Char.ofNat n) hn
    rw [← hc, Char.ofNat_toNat]
  have hfeed := hcode 12 (by decide)
  have hnull := hcode 0 (by decide)
  have htab := hne '\t' (by decide)
  have hline := hne '\n' (by decide)
  have hreturn := hne '\r' (by decide)
  have hspace := hne ' ' (by decide)
  have hslash := hne '/' (by decide)
  have hend := hne '>' (by decide)
  simp_all [isNameChar]

theorem name_of_letters (ht : t ≠ []) (hletters : ∀ c ∈ t, isLetterAscii c = true) : name (t ++ '>' :: w) = t := by
  cases t with
  | nil => exact absurd rfl ht
  | cons c t =>
    have hrest : ∀ d ∈ t, isNameChar d = true := fun d hd =>
      isNameChar_of_letter (hletters d (List.mem_cons_of_mem c hd))
    rw [List.cons_append, name, if_pos (hletters c List.mem_cons_self), List.takeWhile_append_of_pos hrest,
      List.takeWhile_cons_of_neg (by decide), List.append_nil]

/-- Letters up to the end of the tag are a tag without attributes. -/
theorem opening_of_letters (ht : t ≠ []) (hletters : ∀ c ∈ t, isLetterAscii c = true) :
    opening (t ++ '>' :: w) = .tag (t.length + 2) (lower t) [] false := by
  have hnone : ∀ before, attribute? before ('>' :: w) = none := fun before => by simp [attribute?]
  unfold opening
  rw [name_of_letters ht hletters]
  simp [attributes_of_none (hnone _), isBlank, inRuns, blankRuns]

end

end CallContract.Markup
