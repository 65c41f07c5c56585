import CallContract.Conversion.Moment
import CallContract.Proofs.Calendar.Fields
import CallContract.Value.Equal

/-!
# RoundTrip — dates and times survive being written

A date is written in ten characters, which tell how it is read.  A time of day is read behind its separators, part by
part, and the fraction is there unless it is zero.  A timestamp is read in ISO form, its date by position and its time
in rounds.  Each of them gives back what was written.
-/

namespace CallContract.Calendar

open CallContract.Number CallContract.Text

/-! ## 1. Dates -/

theorem daysInMonth_le (year month : Nat) : daysInMonth year month ≤ 31 := by
  unfold daysInMonth
  repeat' split
  all_goals decide

namespace Date

variable (d : Date)

theorem isField_year : IsField (padded 4 d.year) 4 d.year :=
  isField_padded (by decide) (Nat.lt_of_le_of_lt d.valid.2.1 (by decide))

theorem isField_month : IsField (padded 2 d.month) 2 d.month :=
  isField_padded (by decide) (Nat.lt_of_le_of_lt d.valid.2.2.2.1 (by decide))

theorem day_le : d.day ≤ 31 := d.valid.2.2.2.2.2.trans (daysInMonth_le d.year d.month)

theorem isField_day : IsField (padded 2 d.day) 2 d.day :=
  isField_padded (by decide) (Nat.lt_of_le_of_lt d.day_le (by decide))

-- Year, month and day, one field behind the other.
theorem toText_eq : d.toText = padded 4 d.year ++ '-' :: (padded 2 d.month ++ '-' :: padded 2 d.day) := by
  simp [toText]

theorem areVisible_toText : AreVisible d.toText := by
  rw [toText_eq]
  exact .append (areVisible_padded _ _) (.cons (by decide) (.append (areVisible_padded _ _) (.cons (by decide)
    (areVisible_padded _ _))))

theorem length_toText : d.toText.length = 10 := by
  simp [toText_eq, d.isField_year.length_eq, d.isField_month.length_eq, d.isField_day.length_eq]

/-- A written date is read as the date. -/
theorem ofDayPattern?_toText : ofDayPattern? d.toText = some d := by
  have hvalid := d.valid
  have hyear : d.toText.take 4 = padded 4 d.year := by rw [toText_eq, d.isField_year.take_append]
  have hbehind : d.toText.drop 4 = '-' :: (padded 2 d.month ++ '-' :: padded 2 d.day) := by
    rw [toText_eq, d.isField_year.drop_append]
  have hmonth : (d.toText.drop 5).take 2 = padded 2 d.month := by
    rw [toText_eq, d.isField_year.drop_append_add 1, List.drop_one, List.tail_cons, d.isField_month.take_append]
  have hdash : d.toText.drop 7 = '-' :: padded 2 d.day := by
    rw [toText_eq, d.isField_year.drop_append_add 3, List.drop_succ_cons, d.isField_month.drop_append]
  have hday : d.toText.drop 8 = padded 2 d.day := by
    rw [toText_eq, d.isField_year.drop_append_add 4, List.drop_succ_cons, d.isField_month.drop_append_add 1,
      List.drop_one, List.tail_cons]
  unfold ofDayPattern?
  rw [hbehind, hdash, hyear, hmonth, hday, yearPattern?_of_isField d.isField_year,
    monthPattern?_padded (by omega) (by omega), dayPattern?_padded (by omega) d.day_le]
  exact d.ofParts?_self

end Date

/-! ## 2. Times of day -/

namespace TimeOfDay

variable (t : TimeOfDay)

theorem isField_hour : IsField (padded 2 t.hour) 2 t.hour :=
  isField_padded (by decide) (Nat.lt_of_lt_of_le t.valid.1 (by decide))

theorem isField_minute : IsField (padded 2 t.minute) 2 t.minute :=
  isField_padded (by decide) (Nat.lt_of_lt_of_le t.valid.2.1 (by decide))

theorem isField_second : IsField (padded 2 t.second) 2 t.second :=
  isField_padded (by decide) (Nat.lt_of_lt_of_le t.valid.2.2.1 (by decide))

theorem isField_micro : IsField (padded 6 t.micro) 6 t.micro :=
  isField_padded (by decide) (Nat.lt_of_lt_of_le t.valid.2.2.2 (by decide))

-- Hour, minute and second, one field behind the other, and the fraction.
theorem toText_eq : t.toText = padded 2 t.hour ++ ':' :: (padded 2 t.minute ++ ':' :: (padded 2 t.second
    ++ if t.micro = 0 then [] else '.' :: padded 6 t.micro)) := by
  simp [toText]

-- No time of day has the hour 24, which stands for the next day.
theorem hour_ne : (t.hour : Int) ≠ 24 := by
  have hvalid := t.valid
  omega

-- A written time has digits and separators only.
theorem isDigit_or_separator {c : Char} (hc : c ∈ t.toText) : c.isDigit = true ∨ c = ':' ∨ c = '.' := by
  rw [toText_eq] at hc
  simp only [List.mem_append, List.mem_cons] at hc
  rcases hc with hc | rfl | hc | rfl | hc | hc
  · exact .inl (t.isField_hour.digits c hc)
  · exact .inr (.inl rfl)
  · exact .inl (t.isField_minute.digits c hc)
  · exact .inr (.inl rfl)
  · exact .inl (t.isField_second.digits c hc)
  · split at hc
    · cases hc
    · rcases List.mem_cons.mp hc with rfl | hc
      · exact .inr (.inr rfl)
      · exact .inl (t.isField_micro.digits c hc)

theorem areVisible_toText : AreVisible t.toText := by
  intro c hc
  rcases t.isDigit_or_separator hc with hdigit | rfl | rfl
  · have hrange := toNat_of_isDigit hdigit
    omega
  · decide
  · decide

end TimeOfDay

namespace ClockTime

variable {parts : FieldParts} {colons : Bool} {index n : Nat} {s after next : List Char}

-- Another part follows behind a colon.
theorem fieldFrom_colon (h : IsField s 2 n) (hindex : index < 2) (hafter : after ≠ []) :
    fieldFrom parts true index (s ++ ':' :: after) next
      = fieldFrom (parts.setPart index n) true (index + 1) after next := by
  rw [fieldFrom, h.digits?_eq]
  simp [hindex, hafter]

-- A fraction follows behind a point.
theorem fieldFrom_point (h : IsField s 2 n) (hindex : index ≠ 0) (hafter : after ≠ []) :
    fieldFrom parts true index (s ++ '.' :: after) next = fractionPart? (parts.setPart index n) after next := by
  rw [fieldFrom, h.digits?_eq]
  simp [hindex, hafter]

theorem fieldFrom_end (h : IsField s 2 n) :
    fieldFrom parts colons index s [] = some { parts.setPart index n with complete := true } := by
  rw [fieldFrom, h.digits?_self]
  rfl

theorem fractionPart?_of_isField (h : IsField s 6 n) :
    fractionPart? parts s [] = some { parts with micro := n, complete := true } := by
  simp [fractionPart?, h.length_eq, h.digits?_self, isOver]

/-- The parts of a written time are read in full. -/
theorem fieldFrom_toText (t : TimeOfDay) :
    fieldFrom {} true 0 t.toText []
      = some { hour := t.hour, minute := t.minute, second := t.second, micro := t.micro } := by
  have hsecond := t.isField_second.ne_nil (by decide)
  rw [t.toText_eq, fieldFrom_colon t.isField_hour (by decide) (by simp),
    fieldFrom_colon t.isField_minute (by decide) (by simp [hsecond])]
  split
  case isTrue hzero =>
    rw [List.append_nil, fieldFrom_end t.isField_second, hzero]
    rfl
  case isFalse =>
    have hmicro := t.isField_micro.ne_nil (by decide)
    rw [fieldFrom_point t.isField_second (by decide) hmicro, fractionPart?_of_isField t.isField_micro]
    rfl

/-- A written time without an offset is read as the time. -/
theorem ofText?_toText (t : TimeOfDay) : ofText? t.toText = some ⟨t, none, false⟩ := by
  -- No sign is found, so all of the text is the time.
  have hnoMark : ∀ c ∈ t.toText, (!(decide (c = '+') || decide (c = '-') || decide (c = 'Z'))) = true := by
    intro c hc
    rcases t.isDigit_or_separator hc with hdigit | rfl | rfl
    · simp [ne_of_test hdigit (d := '+') rfl, ne_of_test hdigit (d := '-') rfl, ne_of_test hdigit (d := 'Z') rfl]
    · decide
    · decide
  obtain ⟨c, tail, htext, hc⟩ : ∃ c tail, t.toText = c :: tail ∧ c.isDigit = true := by
    rw [t.toText_eq]
    exact t.isField_hour.exists_head (by decide) _
  have hhead : t.toText.head? ≠ some 'T' := by
    rw [htext, List.head?_cons]
    exact fun h => ne_of_test hc rfl (Option.some.inj h)
  unfold ofText?
  rw [if_neg hhead, bytewise_of_visible t.areVisible_toText]
  dsimp only
  rw [List.takeWhile_eq_self_iff.mpr hnoMark, List.dropWhile_eq_nil_iff.mpr hnoMark, fieldFrom_toText]
  simp

end ClockTime

/-! ## 3. Timestamps -/

theorem Timestamp.areVisible_wallText (x : Timestamp) : AreVisible x.wallText :=
  .append x.date.areVisible_toText (.cons (by decide) x.time.areVisible_toText)

namespace Iso

variable {y m d f s rest : List Char} {year month day n : Nat} {parts : ClockParts} {colons : Bool}

/-- The parts that reading finds of a written time. -/
def partsOf (t : TimeOfDay) : ClockParts :=
  { hour := t.hour, minute := t.minute, second := t.second, micro := t.micro }

/-- A date in fields is found in front of any text. -/
theorem calendarDate?_of_fields (hy : IsField y 4 year) (hm : IsField m 2 month) (hd : IsField d 2 day)
    (rest : List Char) :
    calendarDate? (y ++ '-' :: (m ++ '-' :: (d ++ rest)))
      = some (((year : Int), (month : Int), (day : Int)), rest) :=
  (hy.isNumeral (by decide) (by decide)).calendarDate?_day (hm.isNumeral (by decide) (by decide))
    (hd.isNumeral (by decide) (by decide)) rest

-- The first round takes the hour.
theorem clockFrom_hour (hf : IsField f 2 n) :
    clockFrom parts colons (f ++ rest) 6 = clockFrom { parts with hour := n } colons rest 5 := by
  obtain ⟨c, tail, htext, hc⟩ := hf.exists_head (by decide) rest
  rw [clockFrom, hf.field?_eq (by decide) (by decide), hf.drop_append, htext]
  simp [ne_of_test hc (d := '-') rfl, ne_of_test hc (d := '+') rfl, ne_of_test hc (d := 'Z') rfl,
    ne_of_test hc (d := 'z') rfl]

-- The second one takes the minute, and sees that it stands behind a colon.
theorem clockFrom_minute (hf : IsField f 2 n) :
    clockFrom parts colons (':' :: (f ++ rest)) 5 = clockFrom { parts with minute := n } true rest 4 := by
  rw [clockFrom]
  simp [hf.field?_eq (by decide) (by decide), hf.drop_append]

theorem clockFrom_second (hf : IsField f 2 n) :
    clockFrom parts true (':' :: (f ++ rest)) 4 = clockFrom { parts with second := n } true rest 3 := by
  rw [clockFrom]
  simp [hf.field?_eq (by decide) (by decide), hf.drop_append]

theorem fraction?_of_isField (hf : IsField f 6 n) : fraction? ('.' :: f) = some (n, []) := by
  have htake : f.takeWhile Char.isDigit = f := List.takeWhile_eq_self_iff.mpr hf.digits
  have hshort : f.take 6 = f := List.take_of_length_le (Nat.le_of_eq hf.length_eq)
  have hvalue : digitsValue (f.map fun c => c.toNat - 48) = n := hf.value_eq
  simp [fraction?, htake, hshort, hvalue, hf.ne_nil (by decide), hf.length_eq]

theorem clockFrom_fraction (hf : IsField f 6 n) :
    clockFrom parts colons ('.' :: f) 3 = some ({ parts with micro := n }, []) := by
  rw [clockFrom, fraction?_of_isField hf]
  rfl

/-- The parts of a written time are read in the rounds that are there for them. -/
theorem clock?_toText (t : TimeOfDay) : clock? t.toText = some (partsOf t) := by
  have hrounds : clockFrom {} false t.toText 6 = some (partsOf t, []) := by
    rw [t.toText_eq, clockFrom_hour t.isField_hour, clockFrom_minute t.isField_minute,
      clockFrom_second t.isField_second]
    split
    case isTrue hzero =>
      rw [partsOf, hzero]
      rfl
    case isFalse => exact clockFrom_fraction t.isField_micro
  have hlength : 2 ≤ t.toText.length := by
    rw [t.toText_eq, List.length_append, t.isField_hour.length_eq]
    omega
  unfold clock?
  rw [if_neg (Nat.not_lt.mpr hlength), hrounds]
  simp [partsOf, t.hour_ne]

/-- What is read as the parts of a time is put together to the time. -/
theorem assemble_partsOf (date : Date) (t : TimeOfDay) : assemble date (partsOf t) = .ok ⟨date, t, none, false⟩ := by
  simp [assemble, part?, partsOf, t.hour_ne]
  rfl

/-- A written local timestamp is read as its date and time, in no zone. -/
theorem timestamp_wallText (x : Timestamp) : timestamp x.wallText = .ok ⟨x.date, x.time, none, false⟩ := by
  have hdate : calendarDate? x.wallText
      = some (((x.date.year : Int), (x.date.month : Int), (x.date.day : Int)), 'T' :: x.time.toText) := by
    rw [Timestamp.wallText, x.date.toText_eq, List.append_assoc, List.cons_append, List.append_assoc, List.cons_append]
    exact calendarDate?_of_fields x.date.isField_year x.date.isField_month x.date.isField_day _
  have hwritten : writtenDate? ((x.date.year : Int), (x.date.month : Int), (x.date.day : Int)) = some x.date := by
    simp [writtenDate?, part?]
  unfold timestamp
  rw [not_any_beyond_ascii x.areVisible_wallText, hdate]
  simp [clock?_toText, hwritten, assemble_partsOf]

end Iso

end CallContract.Calendar

/-! ## 4. Conversion to text and back -/

namespace CallContract.Conversion

open CallContract.Calendar CallContract.Text

section

variable {room : Room} {locale? : Option Locale} {field? : Option String} {s : List Char}

theorem toText_date (d : Date) : toText room locale? field? (.date d) = .ok (.text (String.ofList d.toText)) := rfl

-- Without an offset, the time is all that is written.
theorem toText_time (t : TimeOfDay) (later : Bool) :
    toText room locale? field? (.time ⟨t, none, later⟩) = .ok (.text (String.ofList t.toText)) := by
  simp [toText, ClockTime.toText]

theorem toText_timestamp {x : Timestamp} (hx : x.zone? = none) :
    toText room locale? field? (.timestamp x) = .ok (.text (String.ofList x.wallText)) := by
  have hoffset : x.offset? = none := by rw [Timestamp.offset?, hx, Option.map_none]
  simp [toText, Timestamp.hasUsableOffset, Timestamp.toText, hoffset]

theorem isNothing_of_ne_nil (hs : s ≠ []) : isNothing (.text (String.ofList s)) = false := by
  simpa [isNothing] using hs

theorem toDate_toText (d : Date) (field? : Option String) :
    toDate room field? (.text (String.ofList d.toText)) = .ok (.date d) := by
  have hlength := d.length_toText
  have hread : dateOfText? d.toText = some d := by
    rw [dateOfText?, if_neg (by omega), if_pos hlength, d.ofDayPattern?_toText]
  have hne : d.toText ≠ [] := List.length_pos_iff.mp (by omega)
  simp [toDate, isNothing_of_ne_nil hne, trim_of_visible d.areVisible_toText, hread]

theorem toTime_toText (t : TimeOfDay) (field? : Option String) :
    toTime room field? (.text (String.ofList t.toText)) = .ok (.time ⟨t, none, false⟩) := by
  have hne : t.toText ≠ [] := by simp [t.toText_eq]
  simp [toTime, isNothing_of_ne_nil hne, trim_of_visible t.areVisible_toText, ClockTime.ofText?_toText]

theorem toTimestamp_wallText (x : Timestamp) (world : World) (zone : Zone) (field? : Option String) :
    toTimestamp world zone field? (.text (String.ofList x.wallText))
      = .ok (.timestamp ⟨x.date, x.time, some zone, false⟩) := by
  have hread : timestampOfText world x.wallText = .ok ⟨x.date, x.time, none, false⟩ := by
    rw [timestampOfText, Iso.timestamp_wallText]
  have hne : x.wallText ≠ [] := by simp [Timestamp.wallText]
  simp [toTimestamp, isNothing_of_ne_nil hne, trim_of_visible x.areVisible_wallText, hread]

end

/-- Every date, every time of day without an offset and every local timestamp is given back by its text; a timestamp is
in the zone for what names none then.  Only which of two equal local times is meant is not written, and it makes no
difference when times in one zone, or in none, are compared. -/
theorem moment_text_round_trip (room : Room) (locale? : Option Locale) (field? : Option String) :
    (∀ d, (toText room locale? field? (.date d) >>= toDate room field?) = .ok (.date d)) ∧
      (∀ time later, (toText room locale? field? (.time ⟨time, none, later⟩) >>= toTime room field?)
          = .ok (.time ⟨time, none, false⟩) ∧
        Value.equal? (.time ⟨time, none, false⟩) (.time ⟨time, none, later⟩) = some true) ∧
      ∀ date time later world zone,
        (toText room locale? field? (.timestamp ⟨date, time, none, later⟩) >>= toTimestamp world zone field?)
          = .ok (.timestamp ⟨date, time, some zone, false⟩) ∧
        Value.equal? (.timestamp ⟨date, time, some zone, false⟩) (.timestamp ⟨date, time, some zone, later⟩)
          = some true := by
  refine ⟨fun d => ?_, fun time later => ⟨?_, ?_⟩, fun date time later world zone => ⟨?_, ?_⟩⟩
  · rw [toText_date]
    simp only [bind, Except.bind]
    exact toDate_toText d field?
  · rw [toText_time]
    simp only [bind, Except.bind]
    exact toTime_toText time field?
  · simp [Value.equal?, Value.equalTimes]
  · rw [toText_timestamp rfl]
    simp only [bind, Except.bind]
    exact toTimestamp_wallText _ world zone field?
  · simp [Value.equal?, Value.equalTimestamps?, Timestamp.wallMicros]

-- The first year, and a fraction that begins with zeros.
example : toText (.ofPlaces 0) none none (.timestamp ⟨⟨1, 2, 3, by decide⟩, ⟨4, 5, 6, 70, by decide⟩, none, false⟩)
    = .ok (.text "0001-02-03T04:05:06.000070") := rfl

end CallContract.Conversion
