import CallContract.Conversion.Scalar
import CallContract.Proofs.Text.Casing
import CallContract.Proofs.Text.Pieces

/-!
# LocaleText — which locales survive being written

A locale that is read has a language in lower case, a country in upper case and a variant that is taken as it stands.
Its text leaves out the parts that are empty, and reading tells parts by their position.  So the locale is given back
unless it has a variant and no country: then the variant is read as the country.
-/

namespace CallContract

open CallContract.Text

/-! ## 1. Letters, blanks and separators -/

section

variable {c : Char} {s : List Char}

theorem blank_not_alphanumeric : ∀ r ∈ blankRuns, ∀ n ∈ List.range' r.1 (r.2 + 1 - r.1),
    (inRuns n letterRuns || inRuns n numericRuns) = false := by decide +kernel

theorem isBlank_of_isAlphanumeric (h : isAlphanumeric c = true) : isBlank c = false := by
  by_contra hblank
  have hnot : isAlphanumeric c = false := forall_blank blank_not_alphanumeric (by simpa using hblank)
  rw [h] at hnot
  cases hnot

theorem isAlphanumeric_of_isLetter (h : isLetter c = true) : isAlphanumeric c = true := by
  rw [isAlphanumeric, h, Bool.true_or]

/-- Letters and numbers contain neither of the characters that separate the parts. -/
theorem notMem_of_alphanumeric (hs : ∀ c ∈ s, isAlphanumeric c = true) : '_' ∉ s ∧ '-' ∉ s :=
  ⟨fun h => absurd (hs '_' h) (by decide +kernel), fun h => absurd (hs '-' h) (by decide +kernel)⟩

end

namespace Locale

/-! ## 2. What is read -/

/-- A text with underscores for its hyphens. -/
def underscored (s : List Char) : List Char := s.map fun c => if c = '-' then '_' else c

/-- The locale with a list of parts. -/
def ofPieces? : List (List Char) → Option Locale
  | [] => none
  | first :: rest =>
    let language := lower first
    let country := upper (rest.headD [])
    let variant := joinWith ['_'] (rest.drop 1)
    if language.isEmpty ∨ ¬language.all isLetter ∨ language.length < 2 ∨ 8 < language.length then none
    else if ¬country.isEmpty ∧ ¬country.all isAlphanumeric then none
    else some ⟨String.ofList language, String.ofList country, String.ofList variant⟩

theorem ofText?_eq (text : String) : ofText? text = ofPieces? (splitOnChar '_' (underscored (trim text.toList))) := by
  rw [ofText?]
  change (match splitOnChar '_' (underscored (trim text.toList)) with | [] => none | first :: rest => _) = _
  cases splitOnChar '_' (underscored (trim text.toList)) <;> rfl

section

variable {l : Locale} {text : String} {s : List Char} {rest : List (List Char)}

theorem underscored_of_notMem (h : '-' ∉ s) : underscored s = s := by
  have hkeep : ∀ c ∈ s, (if c = '-' then '_' else c) = c := fun c hc => if_neg (ne_of_mem_of_not_mem hc h)
  rw [underscored, List.map_congr_left hkeep, List.map_id']

theorem notMem_underscored (s : List Char) : '-' ∉ underscored s := by
  intro h
  obtain ⟨c, -, hc⟩ := List.mem_map.mp h
  split at hc
  · exact absurd hc (by decide)
  · next hne => exact hne hc

theorem isTrimmed_underscored (s : List Char) : IsTrimmed (underscored (trim s)) := by
  have hblank : ∀ c, isBlank (if c = '-' then '_' else c) = isBlank c := by
    intro c
    split
    · next heq =>
      subst heq
      decide +kernel
    · rfl
  rw [← trim_eq_self_iff, underscored, trim_map hblank, trim_trim]

/-- The parts of a locale as they are read: a language in lower case, a country in upper case, and a variant that has
no hyphens and does not end with a blank. -/
structure IsRead (l : Locale) : Prop where
  letters : ∀ c ∈ l.language.toList, isLetter c = true
  two_le : 2 ≤ l.language.toList.length
  le_eight : l.language.toList.length ≤ 8
  lower_eq : lower l.language.toList = l.language.toList
  alphanumeric : ∀ c ∈ l.country.toList, isAlphanumeric c = true
  upper_eq : upper l.country.toList = l.country.toList
  noHyphen : '-' ∉ l.variant.toList
  last : ∀ c ∈ l.variant.toList.getLast?, isBlank c = false

theorem isRead_of_ofText? (h : ofText? text = some l) : IsRead l := by
  obtain ⟨first, rest, hpieces⟩ := List.exists_cons_of_ne_nil
    (splitOnChar_ne_nil '_' (underscored (trim text.toList)))
  obtain ⟨-, -, hjoined⟩ := splitOnChar_eq_iff.mp hpieces
  -- The variant is the end of the text, behind the first part and behind the second.
  have hsuffix : joinWith ['_'] (rest.drop 1) <:+ underscored (trim text.toList) := by
    rw [← hjoined, List.drop_one]
    exact (joinWith_tail_isSuffix ['_'] rest).trans (joinWith_tail_isSuffix ['_'] (first :: rest))
  rw [ofText?_eq, hpieces, ofPieces?] at h
  split at h
  · cases h
  · next hlanguage =>
    split at h
    · cases h
    · next hcountry =>
      cases h
      simp only [not_or, Decidable.not_not, not_lt, List.all_eq_true] at hlanguage
      obtain ⟨-, hletters, htwo, height⟩ := hlanguage
      constructor <;> simp only [String.toList_ofList]
      case letters => exact hletters
      case two_le => exact htwo
      case le_eight => exact height
      case lower_eq => exact lower_lower first
      case upper_eq => exact upper_upper _
      case noHyphen => exact fun hyphen => notMem_underscored _ (hsuffix.subset hyphen)
      case alphanumeric =>
        intro c hc
        have hne : ¬(upper (rest.headD [])).isEmpty := by
          rw [List.isEmpty_iff]
          exact List.ne_nil_of_mem hc
        have hall := Decidable.not_not.mp (not_and.mp hcountry hne)
        exact List.all_eq_true.mp hall c hc
      case last =>
        intro c hc
        obtain ⟨front, hfront⟩ := hsuffix
        refine (isTrimmed_underscored text.toList).last c ?_
        rw [← hfront, List.getLast?_append, Option.mem_def.mp hc, Option.some_or]
        rfl

/-! ## 3. What is written -/

/-- The parts that the text of a locale consists of. -/
def written (l : Locale) : List (List Char) :=
  ([l.language, l.country, l.variant].filter (· ≠ "")).map String.toList

theorem forall_written {p : List Char → Prop} (hlanguage : p l.language.toList) (hcountry : p l.country.toList)
    (hvariant : p l.variant.toList) : ∀ part ∈ l.written, p part ∧ part ≠ [] := by
  intro part hpart
  obtain ⟨t, ht, rfl⟩ := List.mem_map.mp hpart
  obtain ⟨ht, hne⟩ := List.mem_filter.mp ht
  refine ⟨?_, fun hnil => of_decide_eq_true hne (String.toList_eq_nil_iff.mp hnil)⟩
  simp only [List.mem_cons, List.not_mem_nil, or_false] at ht
  rcases ht with rfl | rfl | rfl
  · exact hlanguage
  · exact hcountry
  · exact hvariant

namespace IsRead

theorem language_ne (h : IsRead l) : l.language ≠ "" := by
  intro heq
  have htwo := h.two_le
  rw [heq] at htwo
  exact absurd htwo (by decide)

theorem written_eq (h : IsRead l) : l.written = l.language.toList
    :: ((if l.country = "" then [] else [l.country.toList]) ++ if l.variant = "" then [] else [l.variant.toList]) := by
  have hlanguage := h.language_ne
  by_cases hcountry : l.country = "" <;> by_cases hvariant : l.variant = "" <;>
    simp [written, hlanguage, hcountry, hvariant]

theorem isTrimmed_written (h : IsRead l) : IsTrimmed (joinWith ['_'] l.written) := by
  have hletter : ∀ c ∈ l.language.toList, isBlank c = false := fun c hc =>
    isBlank_of_isAlphanumeric (isAlphanumeric_of_isLetter (h.letters c hc))
  have hends : ∀ part ∈ l.written, (∀ c ∈ part.getLast?, isBlank c = false) ∧ part ≠ [] :=
    forall_written (fun c hc => hletter c (List.mem_of_getLast? hc))
      (fun c hc => isBlank_of_isAlphanumeric (h.alphanumeric c (List.mem_of_getLast? hc))) h.last
  refine isTrimmed_joinWith (fun part hpart => (hends part hpart).2) ?_
    (fun part hpart => (hends part (List.mem_of_getLast? hpart)).1)
  intro part hpart c hc
  rw [h.written_eq, List.head?_cons, Option.mem_some] at hpart
  subst hpart
  exact hletter c (List.mem_of_head? hc)

theorem notMem_written (h : IsRead l) : '-' ∉ joinWith ['_'] l.written := by
  have hyphens : ∀ part ∈ l.written, '-' ∉ part ∧ part ≠ [] :=
    forall_written (notMem_of_alphanumeric fun c hc => isAlphanumeric_of_isLetter (h.letters c hc)).2
      (notMem_of_alphanumeric h.alphanumeric).2 h.noHyphen
  intro hmem
  rcases mem_joinWith hmem with hmem | ⟨part, hpart, hmem⟩
  · exact absurd hmem (by decide)
  · exact (hyphens part hpart).1 hmem

/-- Reading what is written finds the language, the country if there is one, and then the parts of the variant. -/
theorem ofText?_toText (h : IsRead l) : ofText? l.toText = ofPieces? (l.language.toList
    :: ((if l.country = "" then [] else [l.country.toList])
      ++ if l.variant = "" then [] else splitOnChar '_' l.variant.toList)) := by
  have hlanguage := notMem_of_alphanumeric fun c hc => isAlphanumeric_of_isLetter (h.letters c hc)
  have hcountry := notMem_of_alphanumeric h.alphanumeric
  have hne : l.written ≠ [] := by
    rw [h.written_eq]
    exact List.cons_ne_nil _ _
  have htext : l.toText.toList = joinWith ['_'] l.written := String.toList_ofList
  rw [ofText?_eq, htext, trim_of_isTrimmed h.isTrimmed_written, underscored_of_notMem h.notMem_written,
    splitOnChar_joinWith hne, h.written_eq, List.flatMap_cons, splitOnChar_of_notMem hlanguage.1, List.singleton_append,
    List.flatMap_append]
  congr 3
  · split
    · rfl
    · exact (List.flatMap_singleton ..).trans (splitOnChar_of_notMem hcountry.1)
  · split
    · rfl
    · exact List.flatMap_singleton ..

/-! ## 4. What is read back -/

theorem ofPieces?_cons (h : IsRead l) (rest : List (List Char)) : ofPieces? (l.language.toList :: rest)
    = if ¬(upper (rest.headD [])).isEmpty ∧ ¬(upper (rest.headD [])).all isAlphanumeric then none
      else some ⟨l.language, String.ofList (upper (rest.headD [])), String.ofList (joinWith ['_'] (rest.drop 1))⟩ := by
  have haccepted : ¬(l.language.toList.isEmpty ∨ ¬l.language.toList.all isLetter ∨ l.language.toList.length < 2
      ∨ 8 < l.language.toList.length) := by
    simp only [not_or, Decidable.not_not, not_lt, List.all_eq_true]
    refine ⟨?_, h.letters, h.two_le, h.le_eight⟩
    rw [List.isEmpty_iff, String.toList_eq_nil_iff]
    exact h.language_ne
  simp only [ofPieces?, h.lower_eq, if_neg haccepted, String.ofList_toList]

/-- What is written is read as the same locale unless there is a variant and no country. -/
theorem ofText?_toText_iff (h : IsRead l) : ofText? l.toText = some l ↔ l.country ≠ "" ∨ l.variant = "" := by
  rw [h.ofText?_toText, h.ofPieces?_cons]
  by_cases hcountry : l.country = ""
  · by_cases hvariant : l.variant = ""
    · refine iff_of_true ?_ (.inr hvariant)
      rw [if_pos hcountry, if_pos hvariant]
      cases l with
      | mk language country variant =>
        cases hcountry
        cases hvariant
        rfl
    · -- The first part of the variant is taken as the country, so that it is not in the variant again.
      refine iff_of_false (fun heq => ?_) (not_or.mpr ⟨not_not.mpr hcountry, hvariant⟩)
      rw [if_pos hcountry, if_neg hvariant, List.nil_append] at heq
      split at heq
      · cases heq
      · have hshorter := congrArg (fun read : Locale => read.variant.toList) (Option.some.inj heq)
        rw [String.toList_ofList, List.drop_one] at hshorter
        have hjoined := joinWith_splitOnChar '_' l.variant.toList
        refine joinWith_tail_ne ?_ (hshorter.trans hjoined.symm)
        rw [hjoined]
        exact mt String.toList_eq_nil_iff.mp hvariant
  · refine iff_of_true ?_ (.inl hcountry)
    have hjoined : joinWith ['_'] (if l.variant = "" then [] else splitOnChar '_' l.variant.toList)
        = l.variant.toList := by
      split
      · next hvariant =>
        rw [hvariant]
        rfl
      · exact joinWith_splitOnChar '_' _
    rw [if_neg hcountry, List.singleton_append, List.headD_cons, h.upper_eq, List.drop_one, List.tail_cons, hjoined,
      if_neg fun hrefused => hrefused.2 (List.all_eq_true.mpr h.alphanumeric), String.ofList_toList,
      String.ofList_toList]

end IsRead

end

end Locale

/-! ## 5. Converted to text and back -/

namespace Conversion

variable {room : Room} {locale? : Option Locale} {field? shownField? : Option String} {s : String} {l : Locale}

theorem toLocale_text_iff : toLocale room field? (.text s) = .ok (.locale l) ↔ Locale.ofText? s = some l := by
  by_cases hs : s = ""
  · subst hs
    have hnone : Locale.ofText? "" = none := by decide +kernel
    rw [hnone]
    exact iff_of_false nofun nofun
  · have hsome : isNothing (.text s) = false := decide_eq_false hs
    simp only [toLocale, hsome, Bool.false_eq_true, if_false]
    cases Locale.ofText? s <;> simp

/-- A locale that was read always has a text, and the text is read as the same locale exactly if it has a country or
no variant: a variant behind a missing country is read as the country. -/
theorem locale_text_round_trip_iff (h : toLocale room field? (.text s) = .ok (.locale l)) :
    ∃ t, toText room locale? shownField? (.locale l) = .ok (.text t)
      ∧ (toLocale room field? (.text t) = .ok (.locale l) ↔ l.country ≠ "" ∨ l.variant = "") := by
  have hread := Locale.isRead_of_ofText? (toLocale_text_iff.mp h)
  exact ⟨l.toText, rfl, toLocale_text_iff.trans hread.ofText?_toText_iff⟩

theorem locale_text_round_trip_iff_sample :
    toLocale (.ofPlaces 0) none (.text " EN-us_posix_x") = .ok (.locale ⟨"en", "US", "posix_x"⟩)
      ∧ ∃ t, toText (.ofPlaces 0) none none (.locale ⟨"en", "US", "posix_x"⟩) = .ok (.text t)
        ∧ toLocale (.ofPlaces 0) none (.text t) = .ok (.locale ⟨"en", "US", "posix_x"⟩) := by
  have h : toLocale (.ofPlaces 0) none (.text " EN-us_posix_x") = .ok (.locale ⟨"en", "US", "posix_x"⟩) := by rfl
  obtain ⟨t, hshown, hback⟩ :
      ∃ t, toText (.ofPlaces 0) none none (.locale ⟨"en", "US", "posix_x"⟩) = .ok (.text t) ∧ _ :=
    locale_text_round_trip_iff h
  exact ⟨h, t, hshown, hback.mpr (.inl (by decide))⟩

/-- The text of a locale with a variant and no country stands for another locale. -/
theorem missing_country_is_lost :
    toLocale (.ofPlaces 0) none (.text "en__posix") = .ok (.locale ⟨"en", "", "posix"⟩)
      ∧ toText (.ofPlaces 0) none none (.locale ⟨"en", "", "posix"⟩) = .ok (.text "en_posix")
      ∧ toLocale (.ofPlaces 0) none (.text "en_posix") = .ok (.locale ⟨"en", "POSIX", ""⟩) := by
  refine ⟨?_, ?_, ?_⟩ <;> rfl

end Conversion

end CallContract
