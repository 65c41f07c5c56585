import CallContract.Number.Localized
import Mathlib.Data.List.Induction
import Mathlib.Data.List.TakeWhile

/-!
# Digits — what numbers are written with

Reading a run of ASCII digits gives the number that writing has made it of.  A written number has ASCII letters,
digits, signs and a point only, so that it holds nothing that reading drops or replaces, in any locale.
-/

namespace CallContract.Number

open CallContract.Text Decimal

/-! ## 1. Runs of digits -/

/-- A text of ASCII digits. -/
def AreDigits (s : List Char) : Prop := ∀ c ∈ s, c.isDigit = true

-- The values of the digits of a text.
def digitsOf (s : List Char) : List Nat := s.map fun c => c.toNat - 48

section

variable {s t : List Char} {ds : List Nat} {c : Char} {n : Nat}

theorem AreDigits.append (hs : AreDigits s) (ht : AreDigits t) : AreDigits (s ++ t) :=
  List.forall_mem_append.mpr ⟨hs, ht⟩

theorem AreDigits.subset (hs : AreDigits s) (hsub : t ⊆ s) : AreDigits t := fun c hc => hs c (hsub hc)

theorem AreDigits.exists_head (hs : AreDigits s) (hne : s ≠ []) : ∃ c rest, s = c :: rest ∧ c.isDigit = true := by
  obtain ⟨c, rest, rfl⟩ := List.exists_cons_of_ne_nil hne
  exact ⟨c, rest, rfl, hs c List.mem_cons_self⟩

theorem digitsOf_append (s t : List Char) : digitsOf (s ++ t) = digitsOf s ++ digitsOf t := List.map_append

theorem length_digitsOf (s : List Char) : (digitsOf s).length = s.length := List.length_map ..

theorem digitsOf_ne_nil (hne : s ≠ []) : digitsOf s ≠ [] := by simpa [digitsOf] using hne

theorem digitsOnly?_eq_some_iff : digitsOnly? s = some ds ↔ AreDigits s ∧ digitsOf s = ds := by
  induction s generalizing ds with
  | nil => simp [digitsOnly?, AreDigits, digitsOf]
  | cons c rest ih =>
    have hcons : digitsOnly? (c :: rest)
        = if c.isDigit then (digitsOnly? rest).map ((c.toNat - 48) :: ·) else none := by
      simp only [digitsOnly?, List.mapM_cons]
      cases c.isDigit with
      | false => rfl
      | true => cases rest.mapM fun c => if c.isDigit then some (c.toNat - 48) else none <;> rfl
    rw [hcons, Option.ite_none_right_eq_some, Option.map_eq_some_iff]
    simp [ih, AreDigits, digitsOf, and_assoc, and_left_comm]

theorem digitsOnly?_of_digits (hs : AreDigits s) : digitsOnly? s = some (digitsOf s) :=
  digitsOnly?_eq_some_iff.mpr ⟨hs, rfl⟩

-- The digits of a number are never none.
theorem natDigits_ne_nil (n : Nat) : natDigits n ≠ [] := Nat.toDigits_ne_nil

theorem areDigits_natDigits (n : Nat) : AreDigits (natDigits n) := fun _ hc =>
  Nat.isDigit_of_mem_toDigits (by decide) (by decide) hc

theorem areDigits_replicate (n : Nat) : AreDigits (List.replicate n '0') := by
  intro c hc
  rw [(List.mem_replicate.mp hc).2]
  rfl

theorem digitsValue_digitsOf (s : List Char) : digitsValue (digitsOf s) = Nat.ofDigitChars 10 s 0 := by
  rw [digitsValue, digitsOf, List.foldl_map, Nat.ofDigitChars_eq_foldl]
  rfl

/-- The digits of a number denote it. -/
theorem digitsValue_natDigits (n : Nat) : digitsValue (digitsOf (natDigits n)) = n := by
  rw [digitsValue_digitsOf]
  exact Nat.ofDigitChars_ten_toDigits

-- Zeros in front change nothing.
theorem digitsValue_zeros (n : Nat) (s : List Char) :
    digitsValue (digitsOf (List.replicate n '0' ++ s)) = digitsValue (digitsOf s) := by
  rw [digitsValue_digitsOf, digitsValue_digitsOf, Nat.ofDigitChars_append, Nat.ofDigitChars_replicate_zero,
    Nat.mul_zero]

theorem toNat_of_isDigit (h : c.isDigit = true) : 48 ≤ c.toNat ∧ c.toNat ≤ 57 := by
  simp only [Char.isDigit, Bool.and_eq_true, decide_eq_true_eq] at h
  exact h

end

/-! ## 2. Characters -/

/-- Whether a character may stand in a written number: an ASCII letter or digit, a sign or a point. -/
def isMark (c : Char) : Bool := c.isAlphanum || c = '+' || c = '-' || c = '.'

section

variable {c d : Char} {s t : List Char} {p : Char → Bool}

theorem ne_of_test (hc : p c = true) (hd : p d = false) : c ≠ d := by
  rintro rfl
  rw [hc] at hd
  cases hd

theorem toNat_of_isUpper (h : c.isUpper = true) : 65 ≤ c.toNat ∧ c.toNat ≤ 90 := of_decide_eq_true h

theorem toNat_of_isLower (h : c.isLower = true) : 97 ≤ c.toNat ∧ c.toNat ≤ 122 := by
  have hboth : (decide (97 ≤ c.toNat) && decide (c.toNat ≤ 122)) = true := h
  simpa using hboth

theorem toNat_of_isAlphanum (h : c.isAlphanum = true) : 48 ≤ c.toNat ∧ c.toNat ≤ 122 := by
  have hcases : ((c.isUpper || c.isLower) || c.isDigit) = true := h
  rw [Bool.or_eq_true, Bool.or_eq_true] at hcases
  rcases hcases with (hupper | hlower) | hdigit
  · have hrange := toNat_of_isUpper hupper
    omega
  · have hrange := toNat_of_isLower hlower
    omega
  · have hrange := toNat_of_isDigit hdigit
    omega

theorem toNat_of_isMark (h : isMark c = true) : 43 ≤ c.toNat ∧ c.toNat ≤ 122 := by
  simp only [isMark, Bool.or_eq_true, decide_eq_true_eq] at h
  rcases h with ((h | rfl) | rfl) | rfl
  · have hrange := toNat_of_isAlphanum h
    omega
  all_goals decide

theorem isMark_of_isDigit (h : c.isDigit = true) : isMark c = true := by simp [isMark, Char.isAlphanum, h]

theorem isBlank_of_toNat (h : 33 ≤ c.toNat) (h' : c.toNat ≤ 127) : isBlank c = false := by
  simp [isBlank, inRuns, blankRuns]
  omega

theorem isBlank_of_isMark (h : isMark c = true) : isBlank c = false := by
  have hrange := toNat_of_isMark h
  exact isBlank_of_toNat (by omega) (by omega)

/-- An ASCII character stays what it is. -/
theorem asciiDigit_of_toNat (h : c.toNat ≤ 127) : asciiDigit c = c := by
  unfold asciiDigit digitValue?
  rw [decimalRuns, digitIn, digitIn]
  by_cases hlow : c.toNat < 48
  · rw [if_pos hlow]
  · rw [if_neg hlow]
    by_cases hhigh : c.toNat ≤ 57
    · rw [if_pos hhigh, Nat.mod_eq_of_lt (by omega)]
      dsimp only
      rw [Nat.add_sub_cancel' (by omega)]
      exact Char.ofNat_toNat c
    · rw [if_neg hhigh, if_pos (by omega)]

theorem asciiDigit_of_isMark (h : isMark c = true) : asciiDigit c = c :=
  asciiDigit_of_toNat (Nat.le_trans (toNat_of_isMark h).2 (by decide))

/-! ## 3. Texts of marks -/

/-- A text of marks. -/
def AreMarks (s : List Char) : Prop := ∀ c ∈ s, isMark c = true

instance (s : List Char) : Decidable (AreMarks s) := decidable_of_iff (s.all isMark = true) List.all_eq_true

theorem AreMarks.append (hs : AreMarks s) (ht : AreMarks t) : AreMarks (s ++ t) := List.forall_mem_append.mpr ⟨hs, ht⟩

theorem AreMarks.cons (hc : isMark c = true) (hs : AreMarks s) : AreMarks (c :: s) := List.forall_mem_cons.mpr ⟨hc, hs⟩

theorem AreDigits.areMarks (hs : AreDigits s) : AreMarks s := fun c hc => isMark_of_isDigit (hs c hc)

theorem dropWhile_of_none (h : ∀ c ∈ s, p c = false) : s.dropWhile p = s := by
  cases s with
  | nil => rfl
  | cons c rest => rw [List.dropWhile_cons_of_neg (by simp [h c List.mem_cons_self])]

-- A text without blanks stays as it is.
theorem trim_of_none (h : ∀ c ∈ s, isBlank c = false) : trim s = s := by
  have hreverse : ∀ c ∈ s.reverse, isBlank c = false := fun c hc => h c (List.mem_reverse.mp hc)
  rw [trim, dropWhile_of_none h, dropWhile_of_none hreverse, List.reverse_reverse]

namespace Separators

variable {sep : Separators}

theorem ofLocale?_eq (locale? : Option Locale) : ofLocale? locale? = point ∨ ofLocale? locale? = comma := by
  unfold ofLocale?
  split
  · split
    · exact .inr rfl
    · exact .inl rfl
  · exact .inl rfl

theorem localize_of_noPoint (hs : ∀ c ∈ s, c ≠ '.') (sep : Separators) : sep.localize s = s := by
  rw [localize, List.map_congr_left fun c hc => if_neg (hs c hc), List.map_id']

/-- What is localized is read back. -/
theorem plain_localize (hs : AreMarks s) (locale? : Option Locale) :
    (ofLocale? locale?).plain ((ofLocale? locale?).localize s) = s := by
  -- No character of a localized text is dropped: neither a mark nor a decimal comma is a blank.
  have hkept : ∀ sep, sep = point ∨ sep = comma → ∀ c ∈ sep.localize s,
      isBlank c = false ∧ c ≠ Char.ofNat 0xA0 ∧ c ≠ ' ' ∧ c ≠ sep.grouping := by
    intro sep hsep c hc
    obtain ⟨d, hd, rfl⟩ := List.mem_map.mp hc
    have hmark := hs d hd
    rcases hsep with rfl | rfl
    · rw [show (if d = '.' then point.decimal else d) = d by grind [point]]
      exact ⟨isBlank_of_isMark hmark, ne_of_test hmark rfl, ne_of_test hmark rfl, ne_of_test hmark rfl⟩
    · split
      · decide
      · next hpoint => exact ⟨isBlank_of_isMark hmark, ne_of_test hmark rfl, ne_of_test hmark rfl, hpoint⟩
  have hback : ∀ sep, sep = point ∨ sep = comma → sep.plain (sep.localize s) = s := by
    intro sep hsep
    rw [plain, trim_of_none fun c hc => (hkept sep hsep c hc).1,
      List.filter_eq_self.mpr fun c hc => decide_eq_true (hkept sep hsep c hc).2, localize, List.map_map]
    refine (List.map_congr_left fun c hc => ?_).trans (List.map_id s)
    have hcomma : c ≠ ',' := ne_of_test (hs c hc) rfl
    rcases hsep with rfl | rfl <;> grind [point, comma]
  exact hback _ (ofLocale?_eq locale?)

end Separators

end

end CallContract.Number
