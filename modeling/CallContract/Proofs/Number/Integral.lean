import CallContract.Proofs.Number.RoundTrip
import CallContract.Proofs.Text.Pieces
import Mathlib.Algebra.Field.Rat
import Mathlib.Algebra.Order.Field.Power
import Mathlib.Data.Rat.Cast.CharZero
import Mathlib.Tactic.FieldSimp
import Mathlib.Tactic.Positivity
import Mathlib.Tactic.Ring

/-!
# Integral — integers among decimals

The value of a finite decimal is a rational number, and it is converted to an integer exactly if it is one.  Every text
that an integer is read from is read as the decimal of the same value: the digits may be grouped by underscores only
singly there, and the padding is a part of what a decimal drops, but no text in the smaller grammar means anything else
in the larger one.
-/

namespace CallContract.Number

open CallContract.Text

namespace Decimal

/-! ## 1. Values -/

/-- The number that a finite decimal denotes. -/
def value? : Decimal → Option ℚ
  | .finite negative coefficient exponent =>
    some ((if negative then -(coefficient : ℚ) else coefficient) * 10 ^ exponent)
  | _ => none

section

variable {fuel n : Nat} {negative : Bool} {coefficient : Nat} {exponent : Int}

-- Nothing is lost by setting zeros apart.
theorem stripZeros_mul (fuel n : Nat) : (stripZeros fuel n).1 * 10 ^ (stripZeros fuel n).2 = n := by
  induction fuel generalizing n with
  | zero => simp [stripZeros]
  | succ fuel ih =>
    unfold stripZeros
    split
    · next h =>
      have hrest := ih (n / 10)
      dsimp only
      rw [Nat.pow_succ, ← Nat.mul_assoc, hrest]
      omega
    · simp

/-- With enough fuel no zero is left at the end. -/
theorem stripZeros_mod (hpos : n ≠ 0) (hfuel : n < 10 ^ fuel) : (stripZeros fuel n).1 % 10 ≠ 0 := by
  induction fuel generalizing n with
  | zero => omega
  | succ fuel ih =>
    unfold stripZeros
    split
    · next h =>
      rw [Nat.pow_succ] at hfuel
      exact ih (by omega) (by omega)
    · next h => simpa [hpos] using h

theorem length_natDigits_le_iff {k : Nat} (hk : 0 < k) : (natDigits n).length ≤ k ↔ n < 10 ^ k :=
  Nat.length_toDigits_le_iff (by decide) hk

theorem lt_pow_length (n : Nat) : n < 10 ^ (natDigits n).length :=
  (length_natDigits_le_iff (List.length_pos_iff.mpr (natDigits_ne_nil n))).mp (Nat.le_refl _)

theorem normalForm_of_ne_zero (negative : Bool) (exponent : Int) (hpos : coefficient ≠ 0) : ∃ m k : Nat,
    normalForm negative coefficient exponent = (negative, m, exponent + k) ∧ m * 10 ^ k = coefficient ∧ m % 10 ≠ 0 := by
  rw [normalForm, if_neg hpos]
  exact ⟨_, _, rfl, stripZeros_mul _ _, stripZeros_mod hpos (lt_pow_length coefficient)⟩

-- A number that does not end in a zero is no integer after the point has moved to the left.
theorem not_integral_of_neg {m : Nat} (hm : m % 10 ≠ 0) (he : exponent < 0) (n : Int) :
    (m : ℚ) * 10 ^ exponent ≠ n := by
  intro h
  obtain ⟨k, hk⟩ := Int.eq_ofNat_of_zero_le (show 0 ≤ -exponent - 1 by omega)
  have hmultiple : (m : ℚ) = n * 10 ^ (k + 1) := by
    have hexponent : exponent = -((k + 1 : Nat) : Int) := by omega
    rw [← h, hexponent, zpow_neg, zpow_natCast, mul_assoc, inv_mul_cancel₀ (by positivity), mul_one]
  have hdivides : (m : Int) = n * 10 ^ k * 10 := by
    rw [mul_assoc, ← pow_succ]
    exact_mod_cast hmultiple
  omega

-- An unsigned number, with its zeros apart, is an integer where the point need not move to the left.
theorem integral_iff {m : Nat} (hm : m % 10 ≠ 0) (n : Int) :
    (if 0 ≤ exponent then some ((m * Nat.pow 10 exponent.toNat : Nat) : Int) else none) = some n
      ↔ (m : ℚ) * 10 ^ exponent = n := by
  by_cases he : 0 ≤ exponent
  · obtain ⟨k, rfl⟩ := Int.eq_ofNat_of_zero_le he
    rw [if_pos he, Option.some.injEq, zpow_natCast, Int.toNat_natCast]
    exact_mod_cast Iff.rfl
  · rw [if_neg he]
    exact iff_of_false nofun (not_integral_of_neg hm (by omega) n)

/-- A decimal is converted to an integer exactly if that is its value. -/
theorem toInt?_eq_some_iff {d : Decimal} {n : Int} : d.toInt? = some n ↔ d.value? = some (n : ℚ) := by
  cases d with
  | infinity => exact iff_of_false nofun nofun
  | nan => exact iff_of_false nofun nofun
  | finite negative coefficient exponent =>
    rcases eq_or_ne coefficient 0 with rfl | hpos
    · cases negative <;> simp [toInt?, normalForm, value?, eq_comm]
    · obtain ⟨m, k, hform, rfl, hmod⟩ := normalForm_of_ne_zero negative exponent hpos
      have hshift : ((m * 10 ^ k : Nat) : ℚ) * 10 ^ exponent = m * 10 ^ (exponent + k) := by
        rw [zpow_add₀ (by norm_num), zpow_natCast]
        push_cast
        ring
      simp only [toInt?, hform, value?, Option.some.injEq]
      cases negative with
      | false =>
        simp only [Bool.false_eq_true, if_false]
        rw [hshift]
        exact integral_iff hmod n
      | true =>
        simp only [if_true]
        rw [neg_mul, hshift, neg_eq_iff_eq_neg, ← Int.cast_neg, ← integral_iff hmod (-n)]
        split <;> simp [neg_eq_iff_eq_neg]

theorem value?_ofInt (n : Int) : (ofInt n).value? = some (n : ℚ) := by
  rcases lt_or_ge n 0 with h | h
  · simp [ofInt, value?, h, Nat.cast_natAbs, abs_of_neg h]
  · simp [ofInt, value?, not_lt.mpr h, Nat.cast_natAbs, abs_of_nonneg h]

end

end Decimal

/-! ## 2. What may surround a number -/

open Decimal

section

variable {s t front back body : List Char} {c : Char} {ds : List Nat} {negative : Bool} {n : Int}

theorem blank_disjoint : ∀ r ∈ blankRuns, ∀ n ∈ List.range' r.1 (r.2 + 1 - r.1), digitIn n decimalRuns = none := by
  decide

-- No blank is a digit of any script.
theorem digitValue?_of_isBlank (h : isBlank c = true) : digitValue? c = none := forall_blank blank_disjoint h

-- What the characters of a number stand for is no blank.
theorem not_isBlank_of_asciiDigit (h : isMark (asciiDigit c) = true ∨ asciiDigit c = '_') : isBlank c = false := by
  by_contra hblank
  have hblank : isBlank c = true := by simpa using hblank
  rw [asciiDigit, digitValue?_of_isBlank hblank] at h
  rcases h with h | rfl
  · rw [isBlank_of_isMark h] at hblank
    cases hblank
  · exact absurd hblank (by decide)

-- Only the underscore is read as one.
theorem asciiDigit_eq_bar_iff : asciiDigit c = '_' ↔ c = '_' := by
  have hdigits : ∀ d < 10, Char.ofNat (48 + d) ≠ '_' := by decide
  constructor
  · intro h
    unfold asciiDigit at h
    split at h
    · next d hd => exact absurd h (hdigits d (digitValue?_lt hd))
    · exact h
  · rintro rfl
    rfl

/-- Blanks around a text without blanks are dropped. -/
theorem trim_append (hfront : ∀ c ∈ front, isBlank c = true) (hback : ∀ c ∈ back, isBlank c = true)
    (hs : ∀ c ∈ s, isBlank c = false) : trim (front ++ (s ++ back)) = s := by
  rw [trim_append_left hfront, trim_append_right hback, trim_of_none hs]

/-- What surrounds an integer consists of blanks. -/
theorem exists_padding (s : List Char) : ∃ front back, s = front ++ (Whole.trimPadding s ++ back)
    ∧ (∀ c ∈ front, isBlank c = true) ∧ ∀ c ∈ back, isBlank c = true := by
  have hblank : ∀ c, Whole.isPadding c = true → isBlank c = true := fun c hc => (Bool.and_eq_true_iff.mp hc).1
  obtain ⟨front, back, hs, hfront, hback⟩ := exists_ends Whole.isPadding s
  exact ⟨front, back, hs, fun c hc => hblank c (hfront c hc), fun c hc => hblank c (hback c hc)⟩

/-! ## 3. One grammar within the other -/

-- The digits that are left without the underscores.
def bare (s : List Char) : List Char := s.filter (· ≠ '_')

theorem bare_cons_digit (hc : c.isDigit = true) (s : List Char) : bare (c :: s) = c :: bare s :=
  List.filter_cons_of_pos (decide_eq_true (ne_of_test hc rfl))

theorem bare_cons_bar (s : List Char) : bare ('_' :: s) = bare s := List.filter_cons_of_neg (by decide)

theorem digits_cons (hc : c.isDigit = true) (hs : AreDigits s ∧ digitsOf s = ds) :
    AreDigits (c :: s) ∧ digitsOf (c :: s) = (c.toNat - 48) :: ds :=
  ⟨List.forall_mem_cons.mpr ⟨hc, hs.1⟩, congrArg _ hs.2⟩

/-- Digits that underscores separate are read as if there were none. -/
theorem groupedDigits?_bare (h : Whole.groupedDigits? s = some ds) :
    (AreDigits (bare s) ∧ digitsOf (bare s) = ds) ∧ ds ≠ [] := by
  fun_induction Whole.groupedDigits? s generalizing ds with
  | case1 | case3 | case5 | case7 => cases h
  | case2 c hc =>
    cases h
    rw [bare_cons_digit hc]
    exact ⟨digits_cons hc ⟨List.forall_mem_nil _, rfl⟩, List.cons_ne_nil _ _⟩
  | case4 c rest hc ih =>
    obtain ⟨es, hes, rfl⟩ := Option.map_eq_some_iff.mp h
    rw [bare_cons_digit hc, bare_cons_bar]
    exact ⟨digits_cons hc (ih hes).1, List.cons_ne_nil _ _⟩
  | case6 c d rest hbar hc ih =>
    obtain ⟨es, hes, rfl⟩ := Option.map_eq_some_iff.mp h
    rw [bare_cons_digit hc]
    exact ⟨digits_cons hc (ih hes).1, List.cons_ne_nil _ _⟩

-- A text is its sign, if it has one, and what stands behind it.
theorem takeSign_cases (h : takeSign s = (negative, body)) :
    s = body ∧ negative = false ∨ s = '-' :: body ∧ negative = true ∨ s = '+' :: body ∧ negative = false := by
  unfold takeSign at h
  split at h <;> cases h <;> simp

-- The sign stays when underscores are left out.
theorem takeSign_bare (h : takeSign s = (negative, body)) (hbody : ∃ c rest, bare body = c :: rest ∧ c.isDigit = true) :
    takeSign (bare s) = (negative, bare body) := by
  obtain ⟨c, rest, hhead, hc⟩ := hbody
  rcases takeSign_cases h with ⟨rfl, rfl⟩ | ⟨rfl, rfl⟩ | ⟨rfl, rfl⟩
  · rw [hhead]
    exact takeSign_signText false (ne_of_test hc rfl) (ne_of_test hc rfl)
  · rfl
  · rfl

-- A number of few digits is small.
theorem digitsValue_lt (hs : ∀ d ∈ ds, d < 10) : digitsValue ds < 10 ^ ds.length := by
  induction ds using List.reverseRecOn with
  | nil => exact Nat.one_pos
  | append_singleton front d ih =>
    have hfront := ih fun e he => hs e (List.mem_append_left _ he)
    have hd := hs d (by simp)
    have hvalue : digitsValue (front ++ [d]) = 10 * digitsValue front + d := by simp [digitsValue]
    rw [hvalue, List.length_append, List.length_singleton, Nat.pow_succ]
    omega

theorem digitsOf_lt (hs : AreDigits s) : ∀ d ∈ digitsOf s, d < 10 := by
  intro d hd
  obtain ⟨c, hc, rfl⟩ := List.mem_map.mp hd
  have hrange := toNat_of_isDigit (hs c hc)
  omega

theorem finite?_of_digits (hs : AreDigits s) (hlength : s.length ≤ Whole.maxDigits) :
    finite? negative (digitsValue (digitsOf s)) 0 = some (.finite negative (digitsValue (digitsOf s)) 0) := by
  have hlt := digitsValue_lt (digitsOf_lt hs)
  rw [length_digitsOf] at hlt
  have hfew : (natDigits (digitsValue (digitsOf s))).length ≤ Whole.maxDigits :=
    (length_natDigits_le_iff (by decide)).mpr
      (Nat.lt_of_lt_of_le hlt (Nat.pow_le_pow_right (by decide) hlength))
  refine finite?_eq_some_iff.mpr ⟨⟨by decide, ?_⟩, rfl⟩
  simp only [adjusted, maxAdjusted, Whole.maxDigits] at hfew ⊢
  omega

theorem map_bare (s : List Char) : (bare s).map asciiDigit = bare (s.map asciiDigit) := by
  rw [bare, bare, List.filter_map]
  exact congrArg (List.map asciiDigit) (List.filter_congr fun c _ => by simp [asciiDigit_eq_bar_iff])

/-- A text that an integer is read from is read as the decimal of its value. -/
theorem ofText?_of_whole (h : Whole.ofText? s = some n) :
    ∃ d, Decimal.ofText? s = some d ∧ d.value? = some (n : ℚ) := by
  simp only [Whole.ofText?] at h
  generalize hsign : takeSign ((Whole.trimPadding s).map asciiDigit) = signed at h
  obtain ⟨negative, body⟩ := signed
  obtain ⟨ds, hgrouped, hn⟩ := Option.bind_eq_some_iff.mp h
  obtain ⟨hfew, hn⟩ := Option.ite_none_right_eq_some.mp hn
  obtain ⟨⟨hdigits, rfl⟩, hne⟩ := groupedDigits?_bare hgrouped
  have hnonempty : bare body ≠ [] := fun h => hne (by rw [h]; rfl)
  have hbody : ∀ c ∈ body, isMark c = true ∨ c = '_' := fun c hc => by
    by_cases hbar : c = '_'
    · exact .inr hbar
    · exact .inl (isMark_of_isDigit (hdigits c (List.mem_filter.mpr ⟨hc, decide_eq_true hbar⟩)))
  have hmarks : ∀ c ∈ (Whole.trimPadding s).map asciiDigit, isMark c = true ∨ c = '_' := by
    rcases takeSign_cases hsign with ⟨hs, -⟩ | ⟨hs, -⟩ | ⟨hs, -⟩ <;> rw [hs]
    · exact hbody
    all_goals exact List.forall_mem_cons.mpr ⟨.inl rfl, hbody⟩
  -- What an integer is read from holds no blank, so that the larger set of blanks removes no more of the text.
  have htrim : trim s = Whole.trimPadding s := by
    obtain ⟨front, back, hs, hfront, hback⟩ := exists_padding s
    conv_lhs => rw [hs]
    exact trim_append hfront hback fun c hc => not_isBlank_of_asciiDigit (hmarks _ (List.mem_map_of_mem hc))
  have hreads : Reads (bare body) (digitsOf (bare body) ++ []) 0 := (mantissa_digits hdigits hnonempty).reads rfl
  rw [List.append_nil] at hreads
  refine ⟨.finite negative (digitsValue (digitsOf (bare body))) 0, ?_, ?_⟩
  · change ofAscii? ((bare (trim s)).map asciiDigit) = _
    rw [htrim, map_bare, ofAscii?_of_reads (takeSign_bare hsign (hdigits.exists_head hnonempty)) hreads]
    exact finite?_of_digits hdigits (by rwa [length_digitsOf] at hfew)
  · obtain rfl := Option.some.inj hn
    cases negative <;> simp [value?]

end

end CallContract.Number

/-! ## 4. The two converters -/

namespace CallContract.Conversion

open CallContract.Number CallContract.Text

variable {room : Room} {locale? : Option Locale} {field? : Option String} {v : Value} {n : Int}

theorem toInteger_decimal {d : Decimal} {w : Value} :
    toInteger room locale? field? (.decimal d) = .ok w ↔ ∃ n : Int, w = .int n ∧ d.value? = some (n : ℚ) := by
  have hread : toInteger room locale? field? (.decimal d) = .ok w ↔ ∃ n : Int, w = .int n ∧ d.toInt? = some n := by
    simp only [toInteger, isNothing, Bool.false_eq_true, if_false]
    cases d.toInt? with
    | none => simp
    | some n => simp [eq_comm]
  simp only [hread, Decimal.toInt?_eq_some_iff]

-- A number whose kind is known is converted by its value.
theorem toDecimal_of_numeric (hkind : isNumeric v = true) (hfloat : ∀ x, v ≠ .float x)
    (h : toInteger room locale? field? v = .ok (.int n)) :
    ∃ d, toDecimal room locale? field? v = .ok (.decimal d) ∧ d.value? = some (n : ℚ) := by
  cases v with
  | bool => cases h
  | float x => exact absurd rfl (hfloat x)
  | int m =>
    cases h
    exact ⟨_, rfl, Decimal.value?_ofInt n⟩
  | decimal d =>
    obtain ⟨m, hm, hvalue⟩ := toInteger_decimal.mp h
    cases hm
    exact ⟨d, rfl, hvalue⟩
  | _ => cases hkind

/-- Integers and decimals that are read from one value agree: what an integer is read from is read as a decimal of the
same value, and a decimal is converted to an integer exactly if it is finite and integral, without rounding. -/
theorem toInteger_agrees_toDecimal (room : Room) (locale? : Option Locale) (field? : Option String) :
    (∀ v n, (∀ x, v ≠ .float x) → toInteger room locale? field? v = .ok (.int n) →
        ∃ d, toDecimal room locale? field? v = .ok (.decimal d) ∧ d.value? = some (n : ℚ))
      ∧ ∀ d w, toInteger room locale? field? (.decimal d) = .ok w
          ↔ ∃ n : Int, w = .int n ∧ d.value? = some (n : ℚ) := by
  refine ⟨fun v n hfloat h => ?_, fun d w => toInteger_decimal⟩
  have hsome : isNothing v = false := by
    cases hnothing : isNothing v with
    | false => rfl
    | true =>
      simp only [toInteger, hnothing, if_true] at h
      cases h
  cases hkind : isNumeric v with
  | true => exact toDecimal_of_numeric hkind hfloat h
  | false =>
    obtain ⟨s, hs, hwhole⟩ := Option.bind_eq_some_iff.mp ((toInteger_of_text hsome hkind).mp h)
    obtain ⟨d, hd, hvalue⟩ := ofText?_of_whole hwhole
    exact ⟨d, (toDecimal_of_text hsome hkind).mpr (by rw [hs]; exact hd), hvalue⟩

-- Padding, a digit of another script, an underscore and a grouping mark at once.
theorem toInteger_agrees_toDecimal_grouped :
    toInteger (.ofPlaces 0) (some ⟨"de", "", ""⟩) none (.text "\u00a0-1.２_30 ") = .ok (.int (-1230))
      ∧ ∃ d, toDecimal (.ofPlaces 0) (some ⟨"de", "", ""⟩) none (.text "\u00a0-1.２_30 ") = .ok (.decimal d)
        ∧ d.value? = some ((-1230 : Int) : ℚ) := by
  have hread : toInteger (.ofPlaces 0) (some ⟨"de", "", ""⟩) none (.text "\u00a0-1.２_30 ") = .ok (.int (-1230)) := by
    rfl
  exact ⟨hread, (toInteger_agrees_toDecimal _ _ _).1 _ _ nofun hread⟩

end CallContract.Conversion
