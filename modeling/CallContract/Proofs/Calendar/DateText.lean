import CallContract.Proofs.Calendar.RoundTrip
import CallContract.Proofs.Text.Pieces

/-!
# DateText — dates and timestamps read a text alike

A date is read by a pattern where the length of the text tells so, and as the date of a timestamp otherwise.  In ASCII
each pattern is narrower than the ISO form: what fits it consists of numerals at the places where the ISO form looks for
them.  So a text that is read as a date is read as a timestamp of that date.
-/

namespace CallContract.Calendar

open CallContract.Number CallContract.Text

/-! ## 1. Patterns and numerals -/

/-- A text of ASCII characters. -/
def IsAscii (s : List Char) : Prop := ∀ c ∈ s, c.toNat ≤ 127

instance : DecidablePred IsAscii := fun s =>
  decidable_of_iff (s.all fun c => decide (c.toNat ≤ 127)) (by simp [IsAscii])

section

variable {s t : List Char} {c : Char} {v n year month day : Nat}

theorem IsAscii.subset (hs : IsAscii s) (hsub : t ⊆ s) : IsAscii t := fun c hc => hs c (hsub hc)

/-- Among ASCII characters only the ASCII digits have a value. -/
theorem isDigit_of_digitValue? (hascii : c.toNat ≤ 127) (h : digitValue? c = some v) :
    c.isDigit = true ∧ c.toNat - 48 = v := by
  have hlt := digitValue?_lt h
  have hchar : Char.ofNat (48 + v) = c := by
    have hsame := asciiDigit_of_toNat hascii
    rwa [Decimal.asciiDigit, h] at hsame
  have hall : ∀ v < 10, (Char.ofNat (48 + v)).isDigit = true ∧ (Char.ofNat (48 + v)).toNat - 48 = v := by decide
  rw [← hchar]
  exact hall v hlt

theorem digits_of_mapM {vs : List Nat} (hascii : IsAscii s) (h : s.mapM digitValue? = some vs) :
    AreDigits s ∧ digitsOf s = vs := by
  induction s generalizing vs with
  | nil =>
    cases h
    exact ⟨List.forall_mem_nil _, rfl⟩
  | cons c rest ih =>
    obtain ⟨hc, hrest⟩ := List.forall_mem_cons.mp hascii
    rw [List.mapM_cons] at h
    obtain ⟨v, hv, h⟩ := Option.bind_eq_some_iff.mp h
    obtain ⟨vs, hvs, h⟩ := Option.bind_eq_some_iff.mp h
    cases h
    obtain ⟨hdigit, hvalue⟩ := isDigit_of_digitValue? hc hv
    obtain ⟨hdigits, hvalues⟩ := ih hrest hvs
    exact ⟨List.forall_mem_cons.mpr ⟨hdigit, hdigits⟩, by rw [← hvalue, ← hvalues]; rfl⟩

theorem isField_of_yearPattern? (hascii : IsAscii s) (h : Date.yearPattern? s = some year) : IsField s 4 year := by
  obtain ⟨vs, hvs, h⟩ := Option.bind_eq_some_iff.mp h
  obtain ⟨hlength, hvalue⟩ := Option.ite_none_right_eq_some.mp h
  cases hvalue
  obtain ⟨hdigits, rfl⟩ := digits_of_mapM hascii hvs
  exact ⟨hdigits, by rwa [length_digitsOf] at hlength, rfl⟩

theorem isField_two {a b : Char} (ha : a.isDigit = true) (hb : b.isDigit = true) :
    IsField [a, b] 2 (10 * (a.toNat - 48) + (b.toNat - 48)) where
  digits := List.forall_mem_cons.mpr ⟨ha, List.forall_mem_singleton.mpr hb⟩
  length_eq := rfl
  value_eq := by simp [digitsOf, digitsValue]

theorem isDigit_of_le {low high : Char} (hlow : '0' ≤ low) (hhigh : high ≤ '9') (h : low ≤ c ∧ c ≤ high) :
    c.isDigit = true := by
  have hfrom : '0' ≤ c := Char.le_trans hlow h.1
  have hto : c ≤ '9' := Char.le_trans h.2 hhigh
  exact Bool.and_eq_true_iff.mpr ⟨decide_eq_true hfrom, decide_eq_true hto⟩

theorem isField_of_monthPattern? (h : Date.monthPattern? s = some month) : IsField s 2 month := by
  unfold Date.monthPattern? at h
  split at h
  · next c =>
    obtain ⟨hc, hvalue⟩ := Option.ite_none_right_eq_some.mp h
    cases hvalue
    simpa using isField_two (a := '0') (by decide) (isDigit_of_le (by decide) (by decide) hc)
  · next c =>
    obtain ⟨hc, hvalue⟩ := Option.ite_none_right_eq_some.mp h
    cases hvalue
    simpa using isField_two (a := '1') (by decide) (isDigit_of_le (by decide) (by decide) hc)
  · cases h

/-- Padding in front of an integer is dropped. -/
theorem ofText?_cons_padding (hc : Whole.isPadding c = true) : Whole.ofText? (c :: s) = Whole.ofText? s := by
  have htrim : Whole.trimPadding (c :: s) = Whole.trimPadding s := by
    rw [Whole.trimPadding, List.dropWhile_cons_of_pos hc, Whole.trimPadding]
  rw [Whole.ofText?, htrim, Whole.ofText?]

theorem isNumeral_of_dayPattern? (hascii : IsAscii s) (h : Date.dayPattern? s = some day) : IsNumeral s 2 day := by
  have htwo : ∀ {a b : Char}, a.isDigit = true → b.isDigit = true →
      IsNumeral [a, b] 2 (10 * (a.toNat - 48) + (b.toNat - 48) : Nat) := fun ha hb =>
    (isField_two ha hb).isNumeral (by decide) (by decide)
  unfold Date.dayPattern? at h
  split at h
  · next c =>
    obtain ⟨hc, hvalue⟩ := Option.ite_none_right_eq_some.mp h
    cases hvalue
    simpa using htwo (a := '0') (by decide) (isDigit_of_le (by decide) (by decide) hc)
  · next c =>
    obtain ⟨hc, hvalue⟩ := Option.ite_none_right_eq_some.mp h
    cases hvalue
    have hdigit : AreDigits [c] := List.forall_mem_singleton.mpr (isDigit_of_le (by decide) (by decide) hc)
    refine ⟨rfl, ?_⟩
    rw [ofText?_cons_padding (by decide), Whole.ofText?_of_digits hdigit (by simp) (show 1 ≤ Whole.maxDigits by decide)]
    simp [digitsOf, digitsValue]
  · next c =>
    obtain ⟨v, hv, hvalue⟩ := Option.map_eq_some_iff.mp h
    obtain ⟨hdigit, rfl⟩ := isDigit_of_digitValue? (hascii c (by simp)) hv
    cases hvalue
    simpa using htwo (a := '1') (by decide) hdigit
  · next c =>
    obtain ⟨v, hv, hvalue⟩ := Option.map_eq_some_iff.mp h
    obtain ⟨hdigit, rfl⟩ := isDigit_of_digitValue? (hascii c (by simp)) hv
    cases hvalue
    simpa using htwo (a := '2') (by decide) hdigit
  · next c =>
    obtain ⟨hc, hvalue⟩ := Option.ite_none_right_eq_some.mp h
    cases hvalue
    simpa using htwo (a := '3') (by decide) (isDigit_of_le (by decide) (by decide) hc)
  · cases h

/-! ## 2. One date in both readings -/

-- What stands from a position on, where it is known to begin with a character.
theorem drop_eq_cons (h : (s.drop n).head? = some c) : s.drop n = c :: s.drop (n + 1) := by
  obtain ⟨rest, hrest⟩ := List.head?_eq_some_iff.mp h
  rw [← List.drop_drop, hrest, List.drop_one, List.tail_cons]

/-- A date without a time stands for midnight. -/
theorem timestamp_of_calendarDate? {date : Date} (hascii : IsAscii s)
    (hread : Iso.calendarDate? s = some (((year : Int), (month : Int), (day : Int)), []))
    (hdate : Date.ofParts? year month day = some date) : Iso.timestamp s = .ok ⟨date, .midnight, none, false⟩ := by
  have hnone : (s.any fun c => 127 < c.toNat) = false := by
    apply List.any_eq_false.mpr
    intro c hc
    have hle := hascii c hc
    rw [decide_eq_true_eq]
    omega
  have hwritten : Iso.writtenDate? ((year : Int), (month : Int), (day : Int)) = some date := by
    simp [Iso.writtenDate?, Iso.part?, hdate]
  unfold Iso.timestamp
  rw [hnone, hread]
  simp only [Bool.false_eq_true, if_false, List.isEmpty_nil, if_true, hwritten, pure_bind]
  rfl

theorem timestamp_of_monthPattern {date : Date} (hascii : IsAscii s) (h : Date.ofMonthPattern? s = some date) :
    Iso.timestamp s = .ok ⟨date, .midnight, none, false⟩ := by
  unfold Date.ofMonthPattern? at h
  split at h
  · cases h
  · next hdash =>
    obtain ⟨year, hyear, h⟩ := Option.bind_eq_some_iff.mp h
    obtain ⟨month, hmonth, hdate⟩ := Option.bind_eq_some_iff.mp h
    have hparts : s = s.take 4 ++ '-' :: s.drop 5 := by
      rw [← drop_eq_cons (not_not.mp hdash), List.take_append_drop]
    have hy := (isField_of_yearPattern? (hascii.subset (List.take_subset 4 s)) hyear).isNumeral (by decide) (by decide)
    have hm := (isField_of_monthPattern? hmonth).isNumeral (by decide) (by decide)
    -- A month stands for its first day.
    have hread : Iso.calendarDate? s = some (((year : Int), (month : Int), ((1 : Nat) : Int)), []) := by
      rw [hparts]
      exact hy.calendarDate?_month hm
    exact timestamp_of_calendarDate? hascii hread hdate

theorem timestamp_of_dayPattern {date : Date} (hascii : IsAscii s) (h : Date.ofDayPattern? s = some date) :
    Iso.timestamp s = .ok ⟨date, .midnight, none, false⟩ := by
  unfold Date.ofDayPattern? at h
  split at h
  · cases h
  · next hdash =>
    obtain ⟨hdash4, hdash7⟩ := not_or.mp hdash
    obtain ⟨year, hyear, h⟩ := Option.bind_eq_some_iff.mp h
    obtain ⟨month, hmonth, h⟩ := Option.bind_eq_some_iff.mp h
    obtain ⟨day, hday, hdate⟩ := Option.bind_eq_some_iff.mp h
    have hbehind : s.drop 5 = (s.drop 5).take 2 ++ '-' :: s.drop 8 := by
      have hday : s.drop 7 = (s.drop 5).drop 2 := by rw [List.drop_drop]
      rw [← drop_eq_cons (not_not.mp hdash7), hday, List.take_append_drop]
    have hparts : s = s.take 4 ++ '-' :: ((s.drop 5).take 2 ++ '-' :: (s.drop 8 ++ [])) := by
      rw [List.append_nil, ← hbehind, ← drop_eq_cons (not_not.mp hdash4), List.take_append_drop]
    have hy := (isField_of_yearPattern? (hascii.subset (List.take_subset 4 s)) hyear).isNumeral (by decide) (by decide)
    have hm := (isField_of_monthPattern? hmonth).isNumeral (by decide) (by decide)
    have hd := isNumeral_of_dayPattern? (hascii.subset (List.drop_subset 8 s)) hday
    refine timestamp_of_calendarDate? hascii ?_ hdate
    rw [hparts]
    exact hy.calendarDate?_day hm hd []

end

end CallContract.Calendar

/-! ## 3. Conversion -/

namespace CallContract.Conversion

open CallContract.Calendar CallContract.Text

/-- What is read as a date is the date of an ISO timestamp, in any of the three forms. -/
theorem timestamp_of_dateOfText? {s : List Char} {date : Date} (hascii : IsAscii s) (h : dateOfText? s = some date) :
    ∃ t, Iso.timestamp s = .ok t ∧ t.date = date := by
  unfold dateOfText? at h
  split at h
  · exact ⟨_, timestamp_of_monthPattern hascii h, rfl⟩
  · split at h
    · exact ⟨_, timestamp_of_dayPattern hascii h, rfl⟩
    · split at h
      · next t ht =>
        cases h
        exact ⟨t, ht, rfl⟩
      · cases h

/-- An ASCII text that is read as a date is read as a timestamp of that date, whatever the zone of what names none. -/
theorem date_text_read_alike {text : String} {date : Date} {room : Room} {field? : Option String}
    (hascii : ∀ c ∈ text.toList, c.toNat ≤ 127) (h : toDate room field? (.text text) = .ok (.date date))
    (world : World) (zone : Zone) :
    ∃ t, toTimestamp world zone field? (.text text) = .ok (.timestamp t) ∧ t.date = date := by
  simp only [toDate] at h
  split at h
  · cases h
  · next hsome =>
    split at h
    · next read hread =>
      cases h
      obtain ⟨t, ht, hdate⟩ := timestamp_of_dateOfText? (IsAscii.subset hascii fun c => mem_of_mem_trim) hread
      refine ⟨{ t with zone? := some (t.zone?.getD zone) }, ?_, hdate⟩
      simp only [toTimestamp, hsome, Bool.false_eq_true, if_false, timestampOfText, ht]
    · cases h

/-- A day behind a space, and the hour that ends a leap day. -/
theorem date_text_read_alike_sample :
    (toDate (.ofPlaces 0) none (.text " 2024-02- 9") = .ok (.date ⟨2024, 2, 9, by decide⟩) ∧
        ∃ t, toTimestamp (.ofRoom (.ofPlaces 0)) (.fixed 3600000000) none (.text " 2024-02- 9")
          = .ok (.timestamp t) ∧ t.date = ⟨2024, 2, 9, by decide⟩) ∧
      toDate (.ofPlaces 0) none (.text "2024-02-29T24:00-05") = .ok (.date ⟨2024, 3, 1, by decide⟩) ∧
        ∃ t, toTimestamp (.ofRoom (.ofPlaces 0)) .utc none (.text "2024-02-29T24:00-05")
          = .ok (.timestamp t) ∧ t.date = ⟨2024, 3, 1, by decide⟩ := by
  have hday : toDate (.ofPlaces 0) none (.text " 2024-02- 9") = .ok (.date ⟨2024, 2, 9, by decide⟩) := rfl
  have hhour : toDate (.ofPlaces 0) none (.text "2024-02-29T24:00-05") = .ok (.date ⟨2024, 3, 1, by decide⟩) := rfl
  have hascii : IsAscii " 2024-02- 9".toList ∧ IsAscii "2024-02-29T24:00-05".toList := by decide
  exact ⟨⟨hday, date_text_read_alike hascii.1 hday _ _⟩, hhour, date_text_read_alike hascii.2 hhour _ _⟩

end CallContract.Conversion
