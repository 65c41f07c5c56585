import CallContract.Proofs.Number.Digits
import CallContract.Conversion.Scalar

/-!
# RoundTrip — numbers survive being written

A decimal is written in positional or scientific form, and an infinity or NaN by name.  Reading the text gives the
decimal back, with its sign, its trailing zeros and its exponent or payload, in every locale; the only decimals that
cannot be read are those beyond the limits of exponents, which no reading makes either.  An integer is given back as
long as it may be written.
-/

namespace CallContract.Number

open CallContract.Text

namespace Decimal

/-- Whether a decimal can exist: its exponents are within the limits. -/
def IsWithinLimits : Decimal → Prop
  | .finite _ coefficient exponent => minExponent ≤ exponent ∧ adjusted coefficient exponent ≤ maxAdjusted
  | _ => True

section

variable {s t p : List Char} {d : Decimal} {negative : Bool} {coefficient : Nat} {exponent x : Int}
  {before after digits : List Nat}

theorem finite?_eq_some_iff : finite? negative coefficient exponent = some d
    ↔ (minExponent ≤ exponent ∧ adjusted coefficient exponent ≤ maxAdjusted)
      ∧ .finite negative coefficient exponent = d := by
  rw [finite?, Option.ite_none_right_eq_some, Option.some.injEq]

/-! ## 1. Positional and scientific form -/

/-- Digits with or without a point among them, the first of them in front of the point. -/
structure Mantissa (s : List Char) (before after : List Nat) : Prop where
  split : splitPoint? s = some (before, after)
  head : ∃ c rest, s = c :: rest ∧ c.isDigit = true
  marks : ∀ c ∈ s, c.isDigit = true ∨ c = '.'

theorem ne_point_of_digits (hs : AreDigits s) : ∀ c ∈ s, decide (c ≠ '.') = true := fun c hc =>
  decide_eq_true (ne_of_test (hs c hc) rfl)

theorem mantissa_digits (hs : AreDigits s) (hne : s ≠ []) : Mantissa s (digitsOf s) [] where
  split := by
    simp only [splitPoint?]
    rw [List.takeWhile_eq_self_iff.mpr (ne_point_of_digits hs), List.dropWhile_eq_nil_iff.mpr (ne_point_of_digits hs),
      digitsOnly?_of_digits hs]
    simp [digitsOnly?, digitsOf_ne_nil hne]
  head := hs.exists_head hne
  marks := fun c hc => .inl (hs c hc)

theorem mantissa_point (hs : AreDigits s) (ht : AreDigits t) (hne : s ≠ []) :
    Mantissa (s ++ '.' :: t) (digitsOf s) (digitsOf t) where
  split := by
    simp only [splitPoint?]
    rw [List.takeWhile_append_of_pos (ne_point_of_digits hs), List.dropWhile_append_of_pos (ne_point_of_digits hs),
      List.takeWhile_cons_of_neg (by decide), List.dropWhile_cons_of_neg (by decide), List.append_nil,
      List.drop_one, List.tail_cons, digitsOnly?_of_digits hs, digitsOnly?_of_digits ht]
    simp [digitsOf_ne_nil hne]
  head := by
    obtain ⟨c, rest, rfl, hc⟩ := hs.exists_head hne
    exact ⟨c, rest ++ '.' :: t, rfl, hc⟩
  marks := by
    intro c hc
    rcases List.mem_append.mp hc with hc | hc
    · exact .inl (hs c hc)
    · rcases List.mem_cons.mp hc with rfl | hc
      · exact .inr rfl
      · exact .inl (ht c hc)

-- A point among digits that are not none in front of it.
theorem mantissa_split (hs : AreDigits s) (hne : s ≠ []) {k : Nat} (hk : 0 < k) :
    Mantissa (s.take k ++ '.' :: s.drop k) (digitsOf (s.take k)) (digitsOf (s.drop k)) :=
  mantissa_point (hs.subset (List.take_subset k s)) (hs.subset (List.drop_subset k s))
    (by rw [ne_eq, List.take_eq_nil_iff]; exact fun h => h.elim (Nat.ne_of_gt hk) hne)

/-- A text that starts with a digit and reads as `digits` with a power of ten. -/
structure Reads (s : List Char) (digits : List Nat) (exponent : Int) : Prop where
  value : scientific? s = some (digits, exponent)
  head : ∃ c rest, s = c :: rest ∧ c.isDigit = true

namespace Mantissa

theorem not_exponentMark (h : Mantissa s before after) : ∀ c ∈ s, (!(c = 'e' || c = 'E')) = true := by
  intro c hc
  rcases h.marks c hc with hdigit | rfl
  · simp [ne_of_test hdigit (d := 'e') rfl, ne_of_test hdigit (d := 'E') rfl]
  · rfl

theorem reads (h : Mantissa s before after) (he : exponent = -after.length) : Reads s (before ++ after) exponent where
  value := by
    simp only [scientific?]
    rw [List.takeWhile_eq_self_iff.mpr h.not_exponentMark, List.dropWhile_eq_nil_iff.mpr h.not_exponentMark, h.split]
    simp [he]
  head := h.head

theorem reads_power (h : Mantissa s before after) (hp : exponentValue? p = some x)
    (he : exponent = x - after.length) : Reads (s ++ 'E' :: p) (before ++ after) exponent where
  value := by
    simp only [scientific?]
    rw [List.takeWhile_append_of_pos h.not_exponentMark, List.dropWhile_append_of_pos h.not_exponentMark,
      List.takeWhile_cons_of_neg (by decide), List.dropWhile_cons_of_neg (by decide), List.append_nil, h.split]
    simp [hp, he]
  head := by
    obtain ⟨c, rest, rfl, hc⟩ := h.head
    exact ⟨c, rest ++ 'E' :: p, rfl, hc⟩

end Mantissa

theorem exponentValue?_signed (n : Int) :
    exponentValue? ((if 0 ≤ n then '+' else '-') :: natDigits n.natAbs) = some n := by
  have hdigits := digitsOnly?_of_digits (areDigits_natDigits n.natAbs)
  have hnonempty : (natDigits n.natAbs).isEmpty = false := by simp [natDigits_ne_nil]
  have hread : ∀ c negative, takeSign (c :: natDigits n.natAbs) = (negative, natDigits n.natAbs) →
      exponentValue? (c :: natDigits n.natAbs) = some (if negative then -(n.natAbs : Int) else n.natAbs) := by
    intro c negative hsign
    rw [exponentValue?, hsign]
    dsimp only
    rw [if_neg (by rw [hnonempty]; nofun), hdigits, Option.map_some, digitsValue_natDigits]
  split
  case isTrue hn =>
    have habs : (n.natAbs : Int) = n := Int.natAbs_of_nonneg hn
    rw [hread '+' false rfl]
    exact congrArg some habs
  case isFalse hn =>
    have habs : -(n.natAbs : Int) = n := by omega
    rw [hread '-' true rfl]
    exact congrArg some habs

/-- The written digits denote the coefficient at its exponent. -/
theorem reads_magnitudeText (coefficient : Nat) (exponent : Int) :
    ∃ digits, Reads (magnitudeText coefficient exponent) digits exponent ∧ digitsValue digits = coefficient := by
  have hdigits := areDigits_natDigits coefficient
  have hne := natDigits_ne_nil coefficient
  have hvalue := digitsValue_natDigits coefficient
  have hpos : 0 < (natDigits coefficient).length := List.length_pos_iff.mpr hne
  unfold magnitudeText adjusted
  dsimp only
  generalize natDigits coefficient = ds at *
  have hwhole : ∀ k, digitsValue (digitsOf (ds.take k) ++ digitsOf (ds.drop k)) = coefficient := fun k => by
    rw [← digitsOf_append, List.take_append_drop, hvalue]
  have hplain : digitsValue (digitsOf ds ++ []) = coefficient := by rw [List.append_nil, hvalue]
  split
  · next hposition =>
    generalize hplaces : (-exponent).toNat = places
    split
    · exact ⟨_, (mantissa_digits hdigits hne).reads (by simp; omega), hplain⟩
    · split
      · have hmantissa := mantissa_split hdigits hne (k := ds.length - places) (by omega)
        exact ⟨_, hmantissa.reads (by rw [length_digitsOf, List.length_drop]; omega), hwhole _⟩
      · have hzeros := areDigits_replicate (places - ds.length)
        have hmantissa := mantissa_point (areDigits_replicate 1) (hzeros.append hdigits) (by simp)
        refine ⟨_, hmantissa.reads ?_, ?_⟩
        · rw [length_digitsOf, List.length_append, List.length_replicate]
          omega
        · rw [← digitsOf_append, digitsValue_zeros, digitsValue_zeros, hvalue]
  · have hpower := exponentValue?_signed (exponent + ds.length - 1)
    split
    · next hshort =>
      rw [List.take_of_length_le hshort, List.append_nil]
      exact ⟨_, (mantissa_digits hdigits hne).reads_power hpower (by simp; omega), hplain⟩
    · have hmantissa := mantissa_split hdigits hne (k := 1) Nat.one_pos
      exact ⟨_, hmantissa.reads_power hpower (by rw [length_digitsOf, List.length_drop]; omega), hwhole 1⟩

/-! ## 2. Signs and names -/

theorem takeSign_signText (negative : Bool) {c : Char} (hminus : c ≠ '-') (hplus : c ≠ '+') :
    takeSign (signText negative ++ c :: s) = (negative, c :: s) := by
  cases negative with
  | true => rfl
  | false =>
    rw [signText, if_neg Bool.false_ne_true, List.nil_append]
    unfold takeSign
    split
    · next heq => exact absurd (List.cons.inj heq).1 hminus
    · next heq => exact absurd (List.cons.inj heq).1 hplus
    · rfl

theorem toLower_of_isDigit {c : Char} (hc : c.isDigit = true) : c.toLower = c := by
  have hrange := toNat_of_isDigit hc
  have hupper : ¬ (c.val ≥ 'A'.val ∧ c.val ≤ 'Z'.val) := fun h => by
    have hle : 65 ≤ c.toNat := h.1
    omega
  exact dif_neg hupper

theorem ofAscii?_of_reads (hsign : takeSign t = (negative, s)) (h : Reads s digits exponent) :
    ofAscii? t = finite? negative (digitsValue digits) exponent := by
  obtain ⟨c, rest, rfl, hc⟩ := h.head
  have hi : c ≠ 'i' := ne_of_test hc rfl
  have hn : 'n' ≠ c := (ne_of_test hc rfl).symm
  have hs : 's' ≠ c := (ne_of_test hc rfl).symm
  simp [ofAscii?, hsign, lowerAscii, toLower_of_isDigit hc, hi, hn, hs, h.value]

theorem ofAscii?_infinity (negative : Bool) :
    ofAscii? (signText negative ++ "Infinity".toList) = some (.infinity negative) := by
  cases negative <;> rfl

theorem ofAscii?_nan (negative signaling : Bool) {payload : Nat} (hs : payload? s = some payload) :
    ofAscii? (signText negative ++ (if signaling then "sNaN".toList else "NaN".toList) ++ s)
      = some (.nan negative signaling payload) := by
  rw [List.append_assoc]
  cases signaling with
  | true =>
    change ofAscii? (signText negative ++ 's' :: 'N' :: 'a' :: 'N' :: s) = _
    simp [ofAscii?, takeSign_signText negative (c := 's') (by decide) (by decide), lowerAscii, hs]
  | false =>
    change ofAscii? (signText negative ++ 'N' :: 'a' :: 'N' :: s) = _
    simp [ofAscii?, takeSign_signText negative (c := 'N') (by decide) (by decide), lowerAscii, hs]

theorem payload?_written (payload : Nat) : payload? (if payload = 0 then [] else natDigits payload) = some payload := by
  split
  · next h => rw [h]; rfl
  · rw [payload?, digitsOnly?_of_digits (areDigits_natDigits payload), Option.map_some, digitsValue_natDigits]

/-- What a decimal is written as is read as the decimal. -/
theorem ofAscii?_toText (d : Decimal) : ofAscii? d.toText = some d ↔ d.IsWithinLimits := by
  cases d with
  | finite negative coefficient exponent =>
    obtain ⟨digits, hreads, hvalue⟩ := reads_magnitudeText coefficient exponent
    obtain ⟨c, rest, hhead, hc⟩ := hreads.head
    have hsign := takeSign_signText negative (s := rest) (ne_of_test hc rfl) (ne_of_test hc rfl)
    rw [← hhead] at hsign
    rw [toText, ofAscii?_of_reads hsign hreads, hvalue, finite?_eq_some_iff, and_iff_left rfl, IsWithinLimits]
  | infinity negative => exact iff_of_true (ofAscii?_infinity negative) trivial
  | nan negative signaling payload =>
    exact iff_of_true (ofAscii?_nan negative signaling (payload?_written payload)) trivial

/-! ## 3. What is written consists of marks -/

theorem areMarks_signText (negative : Bool) : AreMarks (signText negative) := by
  cases negative <;> decide

theorem areMarks_magnitudeText (coefficient : Nat) (exponent : Int) :
    AreMarks (magnitudeText coefficient exponent) := by
  have hdigits := areDigits_natDigits coefficient
  unfold magnitudeText
  dsimp only
  generalize natDigits coefficient = ds at *
  have htake : ∀ k, AreMarks (ds.take k) := fun k => (hdigits.subset (List.take_subset k ds)).areMarks
  have hdrop : ∀ k, AreMarks (ds.drop k) := fun k => (hdigits.subset (List.drop_subset k ds)).areMarks
  split
  · split
    · exact hdigits.areMarks
    · split
      · exact (htake _).append ((hdrop _).cons rfl)
      · exact ((((areDigits_replicate _).append hdigits).areMarks).cons rfl).cons rfl
  · refine AreMarks.append (.append (htake 1) ?_) (.cons rfl (.cons ?_ (areDigits_natDigits _).areMarks))
    · split
      · exact List.forall_mem_nil _
      · exact (hdrop 1).cons rfl
    · split <;> rfl

theorem areMarks_toText (d : Decimal) : AreMarks d.toText := by
  cases d with
  | finite negative coefficient exponent =>
    exact (areMarks_signText negative).append (areMarks_magnitudeText coefficient exponent)
  | infinity negative => exact (areMarks_signText negative).append (by decide)
  | nan negative signaling payload =>
    refine .append (.append (areMarks_signText negative) ?_) ?_
    · cases signaling <;> decide
    · split
      · exact List.forall_mem_nil _
      · exact (areDigits_natDigits payload).areMarks

theorem toText_ne_nil (d : Decimal) : d.toText ≠ [] := by
  cases d with
  | finite negative coefficient exponent =>
    obtain ⟨digits, hreads, -⟩ := reads_magnitudeText coefficient exponent
    obtain ⟨c, rest, hhead, -⟩ := hreads.head
    simp [toText, hhead]
  | infinity negative => simp [toText]
  | nan negative signaling payload => cases signaling <;> simp [toText]

/-- Reading looks at a text of marks as it is. -/
theorem ofText?_of_areMarks (hs : AreMarks s) : ofText? s = ofAscii? s := by
  have hkept : s.filter (· ≠ '_') = s :=
    List.filter_eq_self.mpr fun c hc => decide_eq_true (ne_of_test (hs c hc) rfl)
  rw [ofText?, trim_of_none fun c hc => isBlank_of_isMark (hs c hc), hkept,
    List.map_congr_left fun c hc => asciiDigit_of_isMark (hs c hc), List.map_id']

/-- Reading makes decimals within the limits only. -/
theorem isWithinLimits_of_ofText? (h : ofText? s = some d) : d.IsWithinLimits := by
  simp only [ofText?, ofAscii?] at h
  split at h
  · cases h
    trivial
  · split at h
    · obtain ⟨payload, -, rfl⟩ := Option.map_eq_some_iff.mp h
      trivial
    · split at h
      · obtain ⟨payload, -, rfl⟩ := Option.map_eq_some_iff.mp h
        trivial
      · obtain ⟨⟨digits, exponent⟩, -, hfinite⟩ := Option.bind_eq_some_iff.mp h
        obtain ⟨hlimits, rfl⟩ := finite?_eq_some_iff.mp hfinite
        exact hlimits

theorem ofText?_toText (d : Decimal) : ofText? d.toText = some d ↔ d.IsWithinLimits := by
  rw [ofText?_of_areMarks (areMarks_toText d), ofAscii?_toText]

end

end Decimal

namespace Whole

open Decimal

theorem groupedDigits?_of_digits {s : List Char} (hs : AreDigits s) (hne : s ≠ []) :
    groupedDigits? s = some (digitsOf s) := by
  induction s with
  | nil => exact absurd rfl hne
  | cons c rest ih =>
    obtain ⟨hc, hrest⟩ := List.forall_mem_cons.mp hs
    cases rest with
    | nil => rw [groupedDigits?, if_pos hc]; rfl
    | cons d rest =>
      have hbar : d ≠ '_' := ne_of_test (hrest d List.mem_cons_self) rfl
      rw [groupedDigits?.eq_4 _ _ _ hbar, if_pos hc, ih hrest (List.cons_ne_nil d rest)]
      rfl

theorem areMarks_digitsText (n : Int) : AreMarks (digitsText n) :=
  (areMarks_signText _).append (areDigits_natDigits _).areMarks

theorem digitsText_ne_nil (n : Int) : digitsText n ≠ [] := List.append_ne_nil_of_right_ne_nil _ (natDigits_ne_nil _)

theorem noPoint_digitsText (n : Int) : ∀ c ∈ digitsText n, c ≠ '.' := by
  refine List.forall_mem_append.mpr ⟨?_, fun c hc => ne_of_test (areDigits_natDigits _ c hc) rfl⟩
  cases decide (n < 0) <;> simp [signText]

theorem trimPadding_of_none {s : List Char} (hs : ∀ c ∈ s, isPadding c = false) : trimPadding s = s := by
  have hreverse : ∀ c ∈ s.reverse, isPadding c = false := fun c hc => hs c (List.mem_reverse.mp hc)
  rw [trimPadding, dropWhile_of_none hs, dropWhile_of_none hreverse, List.reverse_reverse]

/-- Digits behind a sign, or without one, are read as the integer that they denote, unless they are too many. -/
theorem ofText?_of_signed {negative : Bool} {s ds : List Char} (hs : AreMarks s) (hsign : takeSign s = (negative, ds))
    (hds : AreDigits ds) (hne : ds ≠ []) : ofText? s = if ds.length ≤ maxDigits then
      some (if negative then -(digitsValue (digitsOf ds) : Int) else digitsValue (digitsOf ds)) else none := by
  have hpadding : ∀ c ∈ s, isPadding c = false := fun c hc => by
    rw [isPadding, isBlank_of_isMark (hs c hc), Bool.false_and]
  rw [ofText?, trimPadding_of_none hpadding, List.map_congr_left fun c hc => asciiDigit_of_isMark (hs c hc),
    List.map_id', hsign]
  dsimp only
  rw [groupedDigits?_of_digits hds hne]
  dsimp only [Option.bind_eq_bind, Option.bind_some]
  rw [length_digitsOf]

/-- What an integer is written as is read as the integer, unless it has too many digits. -/
theorem ofText?_digitsText (n : Int) : ofText? (digitsText n) = some n ↔ (natDigits n.natAbs).length ≤ maxDigits := by
  obtain ⟨c, rest, hhead, hc⟩ := (areDigits_natDigits n.natAbs).exists_head (natDigits_ne_nil _)
  have hsign : takeSign (digitsText n) = (decide (n < 0), natDigits n.natAbs) := by
    rw [digitsText, hhead]
    exact takeSign_signText _ (ne_of_test hc rfl) (ne_of_test hc rfl)
  have hsigned : (if decide (n < 0) = true then -(n.natAbs : Int) else n.natAbs) = n := by
    simp only [decide_eq_true_eq]
    split <;> omega
  rw [ofText?_of_signed (areMarks_digitsText n) hsign (areDigits_natDigits _) (natDigits_ne_nil _),
    digitsValue_natDigits, hsigned]
  split
  case isTrue hfit => exact iff_of_true rfl hfit
  case isFalse hlong => exact iff_of_false nofun hlong

/-- Digits without a sign are read as the number that they denote, unless they are too many. -/
theorem ofText?_of_digits {s : List Char} (hs : AreDigits s) (hne : s ≠ []) (hfit : s.length ≤ maxDigits) :
    ofText? s = some (digitsValue (digitsOf s) : Int) := by
  obtain ⟨c, rest, rfl, hc⟩ := hs.exists_head hne
  have hsign : takeSign (c :: rest) = (false, c :: rest) :=
    takeSign_signText false (ne_of_test hc rfl) (ne_of_test hc rfl)
  rw [ofText?_of_signed hs.areMarks hsign hs hne, if_pos hfit]
  rfl

end Whole

end CallContract.Number

/-! ## 4. Conversion to text and back -/

namespace CallContract.Conversion

open CallContract.Number CallContract.Text

/-- Whether converters to numbers look at the kind of a value and not at its text. -/
def isNumeric : Value → Bool
  | .bool _ | .int _ | .float _ | .decimal _ => true
  | _ => false

section

variable {room : Room} {locale? : Option Locale} {field? : Option String} {v : Value} {s : List Char} {n : Int}
  {d : Decimal}

theorem toInteger_of_text (hv : isNothing v = false) (hkind : isNumeric v = false) :
    toInteger room locale? field? v = .ok (.int n) ↔ (numberText? room locale? v).bind Whole.ofText? = some n := by
  simp only [toInteger, hv, Bool.false_eq_true, if_false]
  split
  case h_5 => cases (numberText? room locale? v).bind Whole.ofText? <;> simp
  all_goals cases hkind

theorem toDecimal_of_text (hv : isNothing v = false) (hkind : isNumeric v = false) :
    toDecimal room locale? field? v = .ok (.decimal d)
      ↔ (numberText? room locale? v).bind Decimal.ofText? = some d := by
  simp only [toDecimal, hv, Bool.false_eq_true, if_false]
  split
  case h_5 => cases (numberText? room locale? v).bind Decimal.ofText? <;> simp
  all_goals cases hkind

-- A text in the separators of the locale is read with a point.
theorem numberText?_localized (hs : AreMarks s) :
    numberText? room locale? (.text (String.ofList ((Separators.ofLocale? locale?).localize s))) = some s := by
  simp [numberText?, Value.displayed, Except.toOption, Separators.plain_localize hs]

theorem isNothing_localized (sep : Separators) (hne : s ≠ []) :
    isNothing (.text (String.ofList (sep.localize s))) = false := by
  simpa [isNothing, Separators.localize] using hne

end

/-- Every decimal that can exist, and every integer that may be written, is given back by its text in the separators of
the locale.  The decimals that can exist are those that some text is read as. -/
theorem number_text_round_trip (room : Room) (locale? : Option Locale) (field? : Option String) :
    (∀ d, (toText room locale? field? (.decimal d) >>= toDecimal room locale? field?) = .ok (.decimal d)
        ↔ d.IsWithinLimits)
      ∧ (∀ n, (toText room locale? field? (.int n) >>= toInteger room locale? field?) = .ok (.int n)
          ↔ (natDigits n.natAbs).length ≤ Whole.maxDigits)
      ∧ ∀ d : Decimal, d.IsWithinLimits ↔ ∃ s, Decimal.ofText? s = some d := by
  refine ⟨fun d => ?_, fun n => ?_, fun d => ?_⟩
  · change toDecimal room locale? field? (.text (String.ofList ((Separators.ofLocale? locale?).localize d.toText))) = _
      ↔ _
    rw [toDecimal_of_text (isNothing_localized _ d.toText_ne_nil) rfl, numberText?_localized d.areMarks_toText,
      Option.bind_some, Decimal.ofText?_toText]
  · simp only [toText, Whole.toText?]
    by_cases hfit : (natDigits n.natAbs).length ≤ Whole.maxDigits
    · have hplain : (Separators.ofLocale? locale?).localize (Whole.digitsText n) = Whole.digitsText n :=
        Separators.localize_of_noPoint (Whole.noPoint_digitsText n) _
      rw [if_pos hfit]
      change toInteger room locale? field? (.text (String.ofList (Whole.digitsText n))) = _ ↔ _
      rw [← hplain, toInteger_of_text (isNothing_localized _ (Whole.digitsText_ne_nil n)) rfl,
        numberText?_localized (Whole.areMarks_digitsText n), Option.bind_some, Whole.ofText?_digitsText]
    · rw [if_neg hfit]
      refine iff_of_false (fun h => ?_) hfit
      cases h
  · refine ⟨fun h => ⟨d.toText, d.ofText?_toText.mpr h⟩, fun h => ?_⟩
    obtain ⟨s, hs⟩ := h
    exact Decimal.isWithinLimits_of_ofText? hs

-- Trailing zeros and the sign of zero are written in either form.
example : toText (.ofPlaces 0) (some ⟨"de", "", ""⟩) none (.decimal (.finite true 1500 (-12)))
    = .ok (.text "-1,500E-9") := rfl
example : toText (.ofPlaces 0) none none (.decimal (.finite true 0 (-3))) = .ok (.text "-0.000") := rfl

end CallContract.Conversion
