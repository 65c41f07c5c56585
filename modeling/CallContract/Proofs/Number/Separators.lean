import CallContract.Conversion.Scalar
import CallContract.Proofs.Text.Pieces
import Mathlib.Logic.Relation

/-!
# Separators — the marks in the text of a number

Decimal point and decimal comma are mirror images: a text is read in one convention as the text with its marks exchanged
is read in the other.  Grouping marks, spaces and no-break spaces may stand anywhere in a number, as often as one
likes.
-/

namespace CallContract.Number

open CallContract.Text

/-- The comma for the point and the point for the comma. -/
def exchangeMark (c : Char) : Char := if c = '.' then ',' else if c = ',' then '.' else c

/-- A text with its points and commas exchanged. -/
def mirrored (s : List Char) : List Char := s.map exchangeMark

namespace Separators

variable {sep : Separators} {locale? : Option Locale} {locale : Locale} {s t : List Char} {c : Char}

/-! ## 1. The two conventions -/

theorem ofLocale?_of_point (h : ∀ l ∈ locale?, l.language ∉ commaLanguages) : ofLocale? locale? = point := by
  cases locale? with
  | none => rfl
  | some l => exact if_neg (by simpa using h l rfl)

theorem ofLocale?_of_comma (h : locale.language ∈ commaLanguages) : ofLocale? (some locale) = comma :=
  if_pos (by simpa using h)

/-- Whether reading a number drops a character wherever it stands. -/
def isDropped (sep : Separators) (c : Char) : Bool := c = Char.ofNat 0xA0 || c = ' ' || c = sep.grouping

theorem plain_eq (sep : Separators) (s : List Char) :
    sep.plain s = ((trim s).filter (!sep.isDropped ·)).map fun c => if c = sep.decimal then '.' else c := by
  have hkept : ∀ c, decide (c ≠ Char.ofNat 0xA0 ∧ c ≠ ' ' ∧ c ≠ sep.grouping) = !sep.isDropped c := by
    intro c
    simp only [isDropped, Bool.decide_and, decide_not, Bool.not_or, Bool.and_assoc]
  simp only [plain, hkept]

-- What an exchange does to the properties of a character that reading asks for.
theorem exchangeMark_cases (c : Char) : c = '.' ∧ exchangeMark c = ',' ∨ c = ',' ∧ exchangeMark c = '.' ∨
    (c ≠ '.' ∧ c ≠ ',') ∧ exchangeMark c = c := by
  unfold exchangeMark
  split
  · exact .inl ⟨‹_›, rfl⟩
  · split
    · exact .inr (.inl ⟨‹_›, rfl⟩)
    · exact .inr (.inr ⟨⟨‹_›, ‹_›⟩, rfl⟩)

theorem isBlank_exchangeMark (c : Char) : isBlank (exchangeMark c) = isBlank c := by
  rcases exchangeMark_cases c with ⟨rfl, h⟩ | ⟨rfl, h⟩ | ⟨-, h⟩
  · decide
  · decide
  · rw [h]

theorem isDropped_exchangeMark (c : Char) : comma.isDropped (exchangeMark c) = point.isDropped c := by
  rcases exchangeMark_cases c with ⟨rfl, h⟩ | ⟨rfl, h⟩ | ⟨⟨hpoint, hcomma⟩, h⟩
  · decide
  · decide
  · rw [h]
    simp [isDropped, comma, point, hpoint, hcomma]

/-- With its marks exchanged, a text is read in the other convention. -/
theorem plain_mirrored (s : List Char) : comma.plain (mirrored s) = point.plain s := by
  have hkept : ((!comma.isDropped ·) ∘ exchangeMark) = (!point.isDropped ·) :=
    funext fun c => congrArg (! ·) (isDropped_exchangeMark c)
  rw [plain_eq, plain_eq, mirrored, trim_map isBlank_exchangeMark, List.filter_map, hkept, List.map_map]
  refine List.map_congr_left fun c hc => ?_
  rcases exchangeMark_cases c with ⟨rfl, -⟩ | ⟨rfl, -⟩ | ⟨⟨hpoint, hcomma⟩, h⟩
  · rfl
  · cases (List.mem_filter.mp hc).2
  · simp [h, comma, point, hpoint, hcomma]

/-! ## 2. Characters that are dropped -/

/-- One more character that is dropped, anywhere in a text. -/
inductive Inserted (sep : Separators) : List Char → List Char → Prop
  | intro (front back : List Char) (c : Char) (hc : sep.isDropped c = true) :
    Inserted sep (front ++ back) (front ++ c :: back)

/-- A text in which all blanks are dropped, also those that trimming would leave. -/
def IsSpaced (sep : Separators) (s : List Char) : Prop := ∀ c ∈ s, isBlank c = true → sep.isDropped c = true

-- In such a text it makes no difference where a dropped character stands.
theorem plain_of_isSpaced (hs : IsSpaced sep s) :
    sep.plain s = (s.filter (!sep.isDropped ·)).map fun c => if c = sep.decimal then '.' else c := by
  rw [plain_eq, filter_trim fun c hc hblank => by rw [hs c hc hblank, Bool.not_true]]

/-- What one insertion keeps. -/
theorem Inserted.keeps (h : Inserted sep s t) (hs : IsSpaced sep s) : IsSpaced sep t ∧ sep.plain t = sep.plain s := by
  obtain ⟨front, back, c, hc⟩ := h
  have ht : IsSpaced sep (front ++ c :: back) := by
    obtain ⟨hfront, hback⟩ := List.forall_mem_append.mp hs
    exact List.forall_mem_append.mpr ⟨hfront, List.forall_mem_cons.mpr ⟨fun _ => hc, hback⟩⟩
  refine ⟨ht, ?_⟩
  rw [plain_of_isSpaced ht, plain_of_isSpaced hs, List.filter_append, List.filter_cons_of_neg (by simp [hc]),
    List.filter_append]

/-- Any number of insertions changes nothing for the reader. -/
theorem plain_of_inserted (h : Relation.ReflTransGen (Inserted sep) s t) (hs : IsSpaced sep s) :
    sep.plain t = sep.plain s := by
  have hkept : IsSpaced sep t ∧ sep.plain t = sep.plain s := by
    induction h with
    | refl => exact ⟨hs, rfl⟩
    | tail _ hstep ih =>
      obtain ⟨hspaced, hplain⟩ := hstep.keeps ih.1
      exact ⟨hspaced, hplain.trans ih.2⟩
  exact hkept.2

-- Insertions do not make a text empty.
theorem ne_nil_of_inserted (h : Relation.ReflTransGen (Inserted sep) s t) (hs : s ≠ []) : t ≠ [] := by
  induction h with
  | refl => exact hs
  | tail _ hstep _ =>
    obtain ⟨front, back, c, -⟩ := hstep
    exact List.append_ne_nil_of_right_ne_nil _ (List.cons_ne_nil _ _)

end Separators

end CallContract.Number

/-! ## 3. Reading numbers -/

namespace CallContract.Conversion

open CallContract.Number CallContract.Text

/-- Whether two texts, each in its locale, are read as the same integer or neither of them as one, and likewise as
decimals. -/
def ReadAlike (room : Room) (field? : Option String) (s t : Option Locale × String) : Prop :=
  (∀ v, toInteger room s.1 field? (.text s.2) = .ok v ↔ toInteger room t.1 field? (.text t.2) = .ok v) ∧
    ∀ v, toDecimal room s.1 field? (.text s.2) = .ok v ↔ toDecimal room t.1 field? (.text t.2) = .ok v

section

variable {locale? locale'? : Option Locale} {text text' : String} (room : Room) (field? : Option String)

theorem toInteger_text_eq_ok_iff {v : Value} (hne : text ≠ "") : toInteger room locale? field? (.text text) = .ok v ↔
    ∃ n, Whole.ofText? ((Separators.ofLocale? locale?).plain text.toList) = some n ∧ v = .int n := by
  have hnothing : isNothing (.text text) = false := decide_eq_false hne
  have hread : numberText? room locale? (.text text) = some ((Separators.ofLocale? locale?).plain text.toList) := rfl
  simp only [toInteger, hnothing, Bool.false_eq_true, if_false, hread, Option.bind_some]
  cases Whole.ofText? ((Separators.ofLocale? locale?).plain text.toList) <;> simp [eq_comm]

theorem toDecimal_text_eq_ok_iff {v : Value} (hne : text ≠ "") : toDecimal room locale? field? (.text text) = .ok v ↔
    ∃ d, Decimal.ofText? ((Separators.ofLocale? locale?).plain text.toList) = some d ∧ v = .decimal d := by
  have hnothing : isNothing (.text text) = false := decide_eq_false hne
  have hread : numberText? room locale? (.text text) = some ((Separators.ofLocale? locale?).plain text.toList) := rfl
  simp only [toDecimal, hnothing, Bool.false_eq_true, if_false, hread, Option.bind_some]
  cases Decimal.ofText? ((Separators.ofLocale? locale?).plain text.toList) <;> simp [eq_comm]

/-- Reading asks only for the plain text. -/
theorem readAlike_of_plain (hne : text ≠ "") (hne' : text' ≠ "")
    (hplain : (Separators.ofLocale? locale?).plain text.toList = (Separators.ofLocale? locale'?).plain text'.toList) :
    ReadAlike room field? (locale?, text) (locale'?, text') := by
  constructor
  · intro v
    rw [toInteger_text_eq_ok_iff room field? hne, toInteger_text_eq_ok_iff room field? hne', hplain]
  · intro v
    rw [toDecimal_text_eq_ok_iff room field? hne, toDecimal_text_eq_ok_iff room field? hne', hplain]

-- No text, no number.
theorem readAlike_empty : ReadAlike room field? (locale?, "") (locale'?, "") := by
  simp [ReadAlike, toInteger, toDecimal, isNothing]

end

/-- A text in decimal point is read as its mirror image in decimal comma.  A text without other blanks than spaces and
no-break spaces may have any number of these, and of the grouping marks of the locale, put in anywhere. -/
theorem number_text_conventions (room : Room) (field? : Option String) :
    (∀ (text : String) (locale? : Option Locale) (comma : Locale),
      (∀ l ∈ locale?, l.language ∉ Separators.commaLanguages) → comma.language ∈ Separators.commaLanguages →
        ReadAlike room field? (locale?, text) (some comma, String.ofList (mirrored text.toList))) ∧
      ∀ (text text' : String) (locale? : Option Locale), text ≠ "" →
        (∀ c ∈ text.toList, isBlank c = true → c = ' ' ∨ c = Char.ofNat 0xA0) →
        Relation.ReflTransGen (Separators.Inserted (Separators.ofLocale? locale?)) text.toList text'.toList →
          ReadAlike room field? (locale?, text) (locale?, text') := by
  refine ⟨fun text locale? comma hpoint hcomma => ?_, fun text text' locale? hne hblank hinserted => ?_⟩
  · by_cases hempty : text = ""
    · subst hempty
      exact readAlike_empty room field?
    · refine readAlike_of_plain room field? hempty (by simpa [mirrored] using hempty) ?_
      rw [Separators.ofLocale?_of_point hpoint, Separators.ofLocale?_of_comma hcomma, String.toList_ofList,
        Separators.plain_mirrored]
  · have hspaced : Separators.IsSpaced (Separators.ofLocale? locale?) text.toList := by
      intro c hc hc'
      rcases hblank c hc hc' with h | h <;> simp [Separators.isDropped, h]
    have hchars : text.toList ≠ [] := by simpa using hne
    have hne' : text' ≠ "" := by simpa using Separators.ne_nil_of_inserted hinserted hchars
    exact readAlike_of_plain room field? hne hne' (Separators.plain_of_inserted hinserted hspaced).symm

/-- A mark in front of everything, and one that splits digits. -/
theorem number_text_conventions_sample :
    ReadAlike (.ofPlaces 0) none (none, "1,234.50") (some ⟨"de", "AT", ""⟩, "1.234,50") ∧
      ("-7,5 " ≠ "" ∧ (∀ c ∈ "-7,5 ".toList, isBlank c = true → c = ' ' ∨ c = Char.ofNat 0xA0)) ∧
      ReadAlike (.ofPlaces 0) none (some ⟨"de", "", ""⟩, "-7,5 ") (some ⟨"de", "", ""⟩, ".-7,\u00a05 ") ∧
      toDecimal (.ofPlaces 0) (some ⟨"de", "", ""⟩) none (.text ".-7,\u00a05 ")
        = .ok (.decimal (.finite true 75 (-1))) := by
  have hinserted : Relation.ReflTransGen (Separators.Inserted Separators.comma) "-7,5 ".toList ".-7,\u00a05 ".toList :=
    .tail (.single (.intro [] ['-', '7', ',', '5', ' '] '.' rfl))
      (.intro ['.', '-', '7', ','] ['5', ' '] (Char.ofNat 0xA0) rfl)
  have hall : ("-7,5 ".toList.all fun c => decide (isBlank c = true → c = ' ' ∨ c = Char.ofNat 0xA0)) = true := by
    decide
  have hblank : ∀ c ∈ "-7,5 ".toList, isBlank c = true → c = ' ' ∨ c = Char.ofNat 0xA0 := fun c hc =>
    of_decide_eq_true (List.all_eq_true.mp hall c hc)
  exact ⟨(number_text_conventions _ none).1 "1,234.50" none ⟨"de", "AT", ""⟩ nofun (by decide), ⟨by decide, hblank⟩,
    (number_text_conventions _ none).2 _ _ (some ⟨"de", "", ""⟩) (by decide) hblank hinserted, rfl⟩

end CallContract.Conversion
