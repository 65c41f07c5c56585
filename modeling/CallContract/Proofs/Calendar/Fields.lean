import CallContract.Calendar.Iso
import CallContract.Calendar.Patterns
import CallContract.Proofs.Number.RoundTrip

/-!
# Fields — the numbers in written dates and times

Dates and times are written in fields of fixed width: the digits of a number, with zeros in front.  Each way of reading
finds the number of a field, whatever stands behind it.  All that is written are visible ASCII characters, so trimming
takes nothing away.
-/

namespace CallContract.Calendar

open CallContract.Number CallContract.Text

/-! ## 1. Fields -/

/-- A text of `width` ASCII digits that denote `n`. -/
structure IsField (s : List Char) (width n : Nat) : Prop where
  digits : AreDigits s
  length_eq : s.length = width
  value_eq : digitsValue (digitsOf s) = n

theorem isField_padded {width n : Nat} (hwidth : 0 < width) (hn : n < Nat.pow 10 width) :
    IsField (padded width n) width n where
  digits := (areDigits_replicate _).append (areDigits_natDigits n)
  length_eq := by
    have hfit : (natDigits n).length ≤ width := (Nat.length_toDigits_le_iff (by decide) hwidth).mpr hn
    simp only [padded, List.length_append, List.length_replicate]
    omega
  value_eq := by
    unfold padded
    rw [digitsValue_zeros, digitsValue_natDigits]

namespace IsField

variable {s rest : List Char} {width n : Nat}

theorem ne_nil (h : IsField s width n) (hwidth : 0 < width) : s ≠ [] := by
  rw [← List.length_pos_iff, h.length_eq]
  exact hwidth

theorem take_append (h : IsField s width n) (rest : List Char) : (s ++ rest).take width = s :=
  List.take_left' h.length_eq

theorem drop_append (h : IsField s width n) (rest : List Char) : (s ++ rest).drop width = rest :=
  List.drop_left' h.length_eq

theorem drop_append_add (h : IsField s width n) (k : Nat) (rest : List Char) :
    (s ++ rest).drop (width + k) = rest.drop k := by
  rw [← List.drop_drop, h.drop_append]

-- A field begins with a digit.
theorem exists_head (h : IsField s width n) (hwidth : 0 < width) (rest : List Char) :
    ∃ c tail, s ++ rest = c :: tail ∧ c.isDigit = true := by
  obtain ⟨c, tail, rfl, hc⟩ := h.digits.exists_head (h.ne_nil hwidth)
  exact ⟨c, tail ++ rest, rfl, hc⟩

end IsField

/-! ## 2. Reading a field -/

/-- A text of `width` characters that is read as the integer `n`. -/
structure IsNumeral (s : List Char) (width : Nat) (n : Int) : Prop where
  length_eq : s.length = width
  value_eq : Whole.ofText? s = some n

namespace IsNumeral

variable {s : List Char} {width : Nat} {n : Int}

theorem field?_eq (h : IsNumeral s width n) (rest : List Char) : Iso.field? (s ++ rest) width = some n := by
  rw [Iso.field?, List.take_left' h.length_eq, h.value_eq]

theorem field?_self (h : IsNumeral s width n) : Iso.field? s width = some n := by
  have hfield := h.field?_eq []
  rwa [List.append_nil] at hfield

theorem drop_append (h : IsNumeral s width n) (rest : List Char) : (s ++ rest).drop width = rest :=
  List.drop_left' h.length_eq

end IsNumeral

namespace IsField

variable {s rest : List Char} {width n : Nat}

/-- A field is read as the number that its digits denote. -/
theorem isNumeral (h : IsField s width n) (hwidth : 0 < width)
    (hfit : width ≤ Whole.maxDigits) : IsNumeral s width n where
  length_eq := h.length_eq
  value_eq := by rw [Whole.ofText?_of_digits h.digits (h.ne_nil hwidth) (h.length_eq ▸ hfit), h.value_eq]

theorem field?_eq (h : IsField s width n) (hwidth : 0 < width) (hfit : width ≤ Whole.maxDigits) (rest : List Char) :
    Iso.field? (s ++ rest) width = some (n : Int) := (h.isNumeral hwidth hfit).field?_eq rest

/-- A field is read as a natural number, and the rest is left. -/
theorem digits?_eq (h : IsField s width n) (rest : List Char) :
    ClockTime.digits? width (s ++ rest) = some (n, rest) := by
  have hall : s.all Char.isDigit = true := List.all_eq_true.mpr h.digits
  unfold ClockTime.digits?
  rw [h.take_append, h.drop_append]
  dsimp only
  rw [if_pos ⟨h.length_eq, hall⟩]
  exact congrArg (fun value => some (value, rest)) h.value_eq

theorem digits?_self (h : IsField s width n) : ClockTime.digits? width s = some (n, []) := by
  have hdigits := h.digits?_eq []
  rwa [List.append_nil] at hdigits

end IsField

/-! ## 3. Dates by position -/

namespace IsNumeral

variable {y m d : List Char} {year month day : Int}

/-- A date is found by the positions of its numbers, in front of any text. -/
theorem calendarDate?_day (hy : IsNumeral y 4 year) (hm : IsNumeral m 2 month) (hd : IsNumeral d 2 day)
    (rest : List Char) :
    Iso.calendarDate? (y ++ '-' :: (m ++ '-' :: (d ++ rest))) = some ((year, month, day), rest) := by
  have hlong : ¬(y ++ '-' :: (m ++ '-' :: (d ++ rest))).length < 4 := by
    rw [List.length_append, hy.length_eq]
    omega
  have hmonth : ¬(m ++ '-' :: (d ++ rest)).length < 2 := by
    rw [List.length_append, hm.length_eq]
    omega
  have hday : ¬(d ++ rest).length < 2 := by
    rw [List.length_append, hd.length_eq]
    omega
  unfold Iso.calendarDate?
  rw [if_neg hlong, hy.field?_eq, hy.drop_append]
  simp only [List.isEmpty_cons, List.head?_cons, List.drop_succ_cons, List.drop_zero, if_true, if_neg hmonth,
    hm.field?_eq, hm.drop_append, if_neg hday, hd.field?_eq, hd.drop_append, ne_eq, not_true_eq_false, and_false,
    Bool.false_eq_true, if_false, Option.pure_def, Option.bind_eq_bind, Option.bind_some]

/-- A year and a month stand for the first day. -/
theorem calendarDate?_month (hy : IsNumeral y 4 year) (hm : IsNumeral m 2 month) :
    Iso.calendarDate? (y ++ '-' :: m) = some ((year, month, 1), []) := by
  have hlong : ¬(y ++ '-' :: m).length < 4 := by
    rw [List.length_append, hy.length_eq]
    omega
  have hmonth : ¬m.length < 2 := by rw [hm.length_eq]; decide
  have hend : m.drop 2 = [] := by rw [← hm.length_eq, List.drop_length]
  unfold Iso.calendarDate?
  rw [if_neg hlong, hy.field?_eq, hy.drop_append]
  simp only [List.isEmpty_cons, List.head?_cons, List.drop_succ_cons, List.drop_zero, if_true, if_neg hmonth,
    hm.field?_self, hend, List.isEmpty_nil, Bool.false_eq_true, if_false, Option.pure_def, Option.bind_eq_bind,
    Option.bind_some]

end IsNumeral

/-! ## 4. Digits of all scripts -/

/-- An ASCII digit has its value in the table of all scripts. -/
theorem digitValue?_of_isDigit {c : Char} (h : c.isDigit = true) : digitValue? c = some (c.toNat - 48) := by
  have hrange := toNat_of_isDigit h
  unfold digitValue?
  rw [decimalRuns, digitIn, if_neg (by omega), if_pos (by omega), Nat.mod_eq_of_lt (by omega)]

theorem mapM_digitValue? {s : List Char} (h : AreDigits s) : s.mapM digitValue? = some (digitsOf s) := by
  induction s with
  | nil => rfl
  | cons c rest ih =>
    obtain ⟨hc, hrest⟩ := List.forall_mem_cons.mp h
    rw [List.mapM_cons, digitValue?_of_isDigit hc, ih hrest]
    rfl

theorem yearPattern?_of_isField {s : List Char} {year : Nat} (h : IsField s 4 year) :
    Date.yearPattern? s = some year := by
  unfold Date.yearPattern?
  rw [mapM_digitValue? h.digits]
  dsimp only [Option.bind_eq_bind, Option.bind_some]
  rw [length_digitsOf, if_pos h.length_eq, h.value_eq]

theorem monthPattern?_padded {month : Nat} (hpos : 1 ≤ month) (hle : month ≤ 12) :
    Date.monthPattern? (padded 2 month) = some month := by
  have hall : ∀ m < 13, 1 ≤ m → Date.monthPattern? (padded 2 m) = some m := by decide
  exact hall month (by omega) hpos

theorem dayPattern?_padded {day : Nat} (hpos : 1 ≤ day) (hle : day ≤ 31) :
    Date.dayPattern? (padded 2 day) = some day := by
  have hall : ∀ d < 32, 1 ≤ d → Date.dayPattern? (padded 2 d) = some d := by decide
  exact hall day (by omega) hpos

/-! ## 5. Visible characters -/

/-- A text of visible ASCII characters. -/
def AreVisible (s : List Char) : Prop := ∀ c ∈ s, 33 ≤ c.toNat ∧ c.toNat ≤ 126

section

variable {s t : List Char} {c : Char}

theorem AreVisible.append (hs : AreVisible s) (ht : AreVisible t) : AreVisible (s ++ t) :=
  List.forall_mem_append.mpr ⟨hs, ht⟩

theorem AreVisible.cons (hc : 33 ≤ c.toNat ∧ c.toNat ≤ 126) (hs : AreVisible s) : AreVisible (c :: s) :=
  List.forall_mem_cons.mpr ⟨hc, hs⟩

theorem areVisible_of_digits (h : AreDigits s) : AreVisible s := by
  intro c hc
  have hrange := toNat_of_isDigit (h c hc)
  omega

theorem areVisible_padded (width n : Nat) : AreVisible (padded width n) :=
  areVisible_of_digits ((areDigits_replicate _).append (areDigits_natDigits n))

theorem trim_of_visible (h : AreVisible s) : trim s = s := by
  apply trim_of_none
  intro c hc
  have hrange := h c hc
  exact isBlank_of_toNat hrange.1 (by omega)

-- Every character of a visible text is in ASCII.
theorem not_any_beyond_ascii (h : AreVisible s) : (s.any fun c => 127 < c.toNat) = false := by
  apply List.any_eq_false.mpr
  intro c hc
  have hrange := h c hc
  rw [decide_eq_true_eq]
  omega

-- Positions in a visible text are the same in bytes.
theorem bytewise_of_visible (h : AreVisible s) : s.flatMap (fun c => List.replicate c.utf8Size c) = s := by
  induction s with
  | nil => rfl
  | cons c rest ih =>
    obtain ⟨hc, hrest⟩ := List.forall_mem_cons.mp h
    have hsize : c.utf8Size = 1 := by
      apply Char.utf8Size_eq_one_iff.mpr
      show c.toNat ≤ 127
      omega
    rw [List.flatMap_cons, hsize, ih hrest]
    rfl

end

end CallContract.Calendar
