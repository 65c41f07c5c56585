import CallContract.Conversion.ByType
import CallContract.Proofs.Writing

/-!
# Conversion — what converting a value can give

A converter gives a value of the wanted form, or null for null and empty text.  When it refuses, the fault is a mismatch
that names the value and the field, except for a few values that the converters cannot judge.
-/

namespace CallContract

open CallContract.Calendar CallContract.Text

namespace Fault

def isMismatch : Fault → Bool
  | .mismatch _ => true
  | _ => false

/-- A mismatch is about a value of a field. -/
def Concerns (v : Value) (field? : Option String) : Fault → Prop
  | .mismatch m => m.value = v ∧ m.field? = field?
  | _ => True

theorem concerns_ofUnwritten (reason : Value.Unwritten) (v : Value) (field? : Option String) :
    (ofUnwritten reason).Concerns v field? := by cases reason <;> trivial

theorem isMismatch_ofUnwritten (reason : Value.Unwritten) : (ofUnwritten reason).isMismatch = false := by
  cases reason <;> rfl

theorem concerns_ofMismatch (room : Room) (e : Expectation) (v : Value) (field? : Option String) :
    (ofMismatch room e v field?).Concerns v field? := by
  rw [ofMismatch]
  split
  · exact ⟨rfl, rfl⟩
  · exact concerns_ofUnwritten _ v field?

-- Only a value that cannot be written has no mismatch.
theorem isMismatch_ofMismatch (room : Room) (e : Expectation) (v : Value) (field? : Option String) :
    (ofMismatch room e v field?).isMismatch = v.canBeWritten room := by
  rw [ofMismatch, ← Value.isOk_written]
  cases v.written room with
  | ok written => rfl
  | error reason => exact isMismatch_ofUnwritten reason

end Fault

namespace Conversion

/-! ## 1. Values that no converter can judge -/

/-- Whether a member of a collection cannot be a member of a set. -/
def holdsObstacle : Value → Bool
  | .list _ items | .tuple items | .set _ items => (Value.firstObstacle? items).isSome
  | _ => false

/-- The values that equal an earlier one or one of those `seen`, and so are left out of a set. -/
def repeated (seen : List Value) : List Value → List Value
  | [] => []
  | v :: rest => if Value.equalsAny seen v then v :: repeated seen rest else repeated (v :: seen) rest

/-- Whether a member of a collection repeats another one and is too deep for the comparison. -/
def repeatsTooDeep (room : Room) : Value → Bool
  | .list _ items | .tuple items | .set _ items => !(repeated [] items).all (·.fits room .comparing)
  | _ => false

/-- Whether a text is read as a moment that no calendar has, or with a number that is too long. -/
def namesNoMoment (world : World) : Value → Bool
  | .text s => match timestampOfText world (trim s.toList) with
    | .ok _ | .error .malformed => false
    | .error _ => true
  | _ => false

def nestsTooDeep (room : Room) : Value → Bool
  | .text s => match JsonText.read room s.toList with
    | .error .tooNested => true
    | _ => false
  | _ => false

/-- Whether a value that does not convert to a type fails otherwise than by a mismatch. -/
def isBeyond (world : World) (t : SemanticType) (v : Value) : Bool :=
  !v.canBeWritten world.room || match t with
    | .string | .boolean => !v.hasUsableOffset
    | .set => holdsObstacle v || repeatsTooDeep world.room v
    | .timestamp => namesNoMoment world v
    | .map => nestsTooDeep world.room v
    | _ => false

/-! ## 2. Converters -/

/-- What a converter to a type may give for a value of a field. -/
def Judged (world : World) (t : SemanticType) (field? : Option String) (v : Value) : Except Fault Value → Prop
  | .ok w => t.admitsPresent w = true
  | .error f => f.Concerns v field? ∧ f.isMismatch = !isBeyond world t v

variable {world : World} {t : SemanticType} {locale? : Option Locale} {field? : Option String} {v : Value}

theorem judged_refusal {e : Expectation} (h : isBeyond world t v = !v.canBeWritten world.room) :
    Judged world t field? v (.error (Fault.ofMismatch world.room e v field?)) := by
  refine ⟨Fault.concerns_ofMismatch _ e v field?, ?_⟩
  rw [Fault.isMismatch_ofMismatch, h, Bool.not_not]

/-! ### Numbers -/

theorem isBeyond_number (ht : t.isIntegral ∨ t.isFloating ∨ t = .bigDecimal) :
    isBeyond world t v = !v.canBeWritten world.room := by
  cases t <;> simp_all [isBeyond, SemanticType.isIntegral, SemanticType.isFloating]

theorem toInteger_judged (ht : t.isIntegral) (hv : isNothing v = false) :
    Judged world t field? v (toInteger world.room locale? field? v) := by
  have hbeyond : isBeyond world t v = !v.canBeWritten world.room := isBeyond_number (.inl ht)
  have hint : ∀ n, t.admitsPresent (.int n) = true := by
    intro n
    cases t <;> simp_all [SemanticType.isIntegral, SemanticType.admitsPresent]
  simp only [toInteger, hv, Bool.false_eq_true, if_false]
  -- Every branch gives an integer or refuses the value.
  repeat' first | exact judged_refusal hbeyond | exact hint _ | split

theorem toFloat_judged (ht : t.isFloating) (hv : isNothing v = false) :
    Judged world t field? v (toFloat world.room locale? field? v) := by
  have hbeyond : isBeyond world t v = !v.canBeWritten world.room := isBeyond_number (.inr (.inl ht))
  have hfloat : ∀ x, t.admitsPresent (.float x) = true := by
    intro x
    cases t <;> simp_all [SemanticType.isFloating, SemanticType.admitsPresent]
  simp only [toFloat, hv, Bool.false_eq_true, if_false]
  repeat' first | exact judged_refusal hbeyond | exact hfloat _ | split

theorem toDecimal_judged (hv : isNothing v = false) :
    Judged world .bigDecimal field? v (toDecimal world.room locale? field? v) := by
  have hbeyond : isBeyond world .bigDecimal v = !v.canBeWritten world.room := isBeyond_number (.inr (.inr rfl))
  have hdecimal : ∀ d, SemanticType.admitsPresent .bigDecimal (.decimal d) = true := fun _ => rfl
  simp only [toDecimal, hv, Bool.false_eq_true, if_false]
  repeat' first | exact judged_refusal hbeyond | exact hdecimal _ | split

/-! ### Texts and booleans -/

-- A value that cannot be displayed is one that the converter to booleans cannot judge.
theorem judged_undisplayed {reason : Value.Undisplayed} (h : v.displayed world.room = .error reason) :
    Judged world .boolean field? v (.error (Fault.ofUndisplayed reason)) := by
  have hshown : false = _ := (congrArg Except.isOk h).symm.trans Value.isOk_displayed
  have hbeyond : isBeyond world .boolean v = true := by
    cases hfit : v.canBeWritten world.room <;> simp_all [isBeyond]
  rw [Judged, hbeyond]
  cases reason with
  | unwritten reason => cases reason <;> exact ⟨trivial, rfl⟩
  | offsetTooLong => exact ⟨trivial, rfl⟩

theorem toBoolean_judged (hv : isNothing v = false) :
    Judged world .boolean field? v (toBoolean world.room field? v) := by
  simp only [toBoolean, hv, Bool.false_eq_true, if_false]
  split
  · rfl
  split
  · exact judged_undisplayed ‹_›
  case h_2 shown hd =>
    have hshown : true = _ := (congrArg Except.isOk hd).symm.trans Value.isOk_displayed
    have hbeyond : isBeyond world .boolean v = !v.canBeWritten world.room := by simp_all [isBeyond]
    repeat' first | exact judged_refusal hbeyond | rfl | split

theorem toText_judged (hv : v ≠ .null) : Judged world .string field? v (toText world.room locale? field? v) := by
  unfold toText
  dsimp only
  split
  case h_1 => exact absurd rfl hv
  case h_4 t =>
    split
    · rfl
    · exact ⟨trivial, by simp_all [Fault.isMismatch, isBeyond, Value.hasUsableOffset]⟩
  case h_10 n =>
    have hfit := Value.isOk_written world.room (.int n)
    rw [Value.written] at hfit
    split
    · rfl
    · exact ⟨trivial, by simp_all [Fault.isMismatch, isBeyond, ← hfit, Except.toBool]⟩
  case h_12 v _ _ _ htimestamp _ _ _ _ _ _ _ =>
    apply judged_refusal
    cases v <;> simp_all [isBeyond, Value.hasUsableOffset]
  all_goals rfl

-- A value without text is a mismatch unless it is too long or its offset cannot be used.
theorem isMismatch_toText {room : Room} {f : Fault} (h : toText room locale? field? v = .error f) :
    f.isMismatch = (v.canBeWritten room && v.hasUsableOffset) := by
  have hv : v ≠ .null := by
    rintro rfl
    cases h
  have hjudged : Judged (.ofRoom room) .string field? v (toText room locale? field? v) := toText_judged hv
  rw [h] at hjudged
  simpa [isBeyond, World.ofRoom] using hjudged.2

-- A value that cannot be displayed has no text for the same reason.
theorem toText_of_not_displayed {room : Room} {reason : Value.Undisplayed} (h : v.displayed room = .error reason) :
    toText room locale? field? v = .error (Fault.ofUndisplayed reason) := by
  cases v with
  | timestamp t =>
    rw [Value.displayed] at h
    split at h
    case isTrue => cases h
    case isFalse hoffset =>
      cases h
      exact if_neg hoffset
  | int n =>
    simp only [Value.displayed, Value.written] at h
    simp only [toText]
    cases hn : Number.Whole.toText? n with
    | some s =>
      rw [hn] at h
      cases h
    | none =>
      rw [hn] at h
      cases h
      rfl
  | list | tuple | set | map =>
    simp only [Value.displayed] at h
    obtain ⟨reason', hwritten, rfl⟩ := error_of_mapError h
    simp only [toText, Fault.ofMismatch, hwritten]
    rfl
  | _ => cases h

/-! ### Moments -/

theorem toDate_judged (hv : isNothing v = false) : Judged world .date field? v (toDate world.room field? v) := by
  have hbeyond : isBeyond world .date v = !v.canBeWritten world.room := by simp [isBeyond]
  simp only [toDate, hv, Bool.false_eq_true, if_false]
  repeat' first | exact judged_refusal hbeyond | rfl | split

theorem toTime_judged (hv : isNothing v = false) : Judged world .time field? v (toTime world.room field? v) := by
  have hbeyond : isBeyond world .time v = !v.canBeWritten world.room := by simp [isBeyond]
  simp only [toTime, hv, Bool.false_eq_true, if_false]
  repeat' first | exact judged_refusal hbeyond | rfl | split

theorem toTimestamp_judged {zone : Zone} (hv : isNothing v = false) :
    Judged world .timestamp field? v (toTimestamp world zone field? v) := by
  simp only [toTimestamp, hv, Bool.false_eq_true, if_false]
  split
  case h_3 | h_4 =>
    split
    · rfl
    · exact judged_refusal (by simp [isBeyond, namesNoMoment])
  case h_5 s =>
    -- A text is refused when it has no known form; the other faults are those of a moment that it names.
    split
    · rfl
    · exact judged_refusal (by simp_all [isBeyond, namesNoMoment])
    · exact ⟨trivial, by simp_all [Fault.isMismatch, isBeyond, namesNoMoment]⟩
    · exact ⟨trivial, by simp_all [Fault.isMismatch, isBeyond, namesNoMoment]⟩
  case h_6 htext =>
    apply judged_refusal
    cases v <;> simp_all [isBeyond, namesNoMoment]
  all_goals rfl

/-! ### Zones and locales -/

theorem toLocale_judged (hv : isNothing v = false) : Judged world .locale field? v (toLocale world.room field? v) := by
  have hbeyond : isBeyond world .locale v = !v.canBeWritten world.room := by simp [isBeyond]
  simp only [toLocale, hv, Bool.false_eq_true, if_false]
  repeat' first | exact judged_refusal hbeyond | rfl | split

theorem toTimeZone_judged (hv : isNothing v = false) : Judged world .timeZone field? v (toTimeZone world field? v) := by
  have hbeyond : isBeyond world .timeZone v = !v.canBeWritten world.room := by simp [isBeyond]
  simp only [toTimeZone, hv, Bool.false_eq_true, if_false]
  split
  · rfl
  · split
    · rfl
    · exact judged_refusal hbeyond
  · exact judged_refusal hbeyond

-- A reading of a locale or a zone fails as a mismatch unless the value cannot be told.
theorem isMismatch_toLocale {room : Room} {f : Fault} (h : toLocale room field? v = .error f) :
    f.isMismatch = v.canBeWritten room := by
  unfold toLocale at h
  repeat' split at h
  all_goals cases h
  all_goals exact Fault.isMismatch_ofMismatch _ _ _ _

theorem isMismatch_toTimeZone {f : Fault} (h : toTimeZone world field? v = .error f) :
    f.isMismatch = v.canBeWritten world.room := by
  unfold toTimeZone at h
  repeat' split at h
  all_goals cases h
  all_goals exact Fault.isMismatch_ofMismatch _ _ _ _

/-! ### Collections -/

theorem toList_judged (ht : t = .list ∨ t = .collection) (hv : isNothing v = false) :
    Judged world t field? v (toList world.room "," field? v) := by
  have hbeyond : isBeyond world t v = !v.canBeWritten world.room := by rcases ht with rfl | rfl <;> simp [isBeyond]
  have hlist : ∀ identity items, t.admitsPresent (.list identity items) = true := by
    rcases ht with rfl | rfl <;> exact fun _ _ => rfl
  simp only [toList, hv, Bool.false_eq_true, if_false]
  repeat' first | exact judged_refusal hbeyond | exact hlist _ _ | split

-- A set is made of values without an obstacle of which no repeated one is too deep.
theorem isOk_distinctFrom (room : Room) (seen items : List Value) :
    (Value.distinctFrom room seen items).isOk =
      ((Value.firstObstacle? items).isNone && (repeated seen items).all (·.fits room .comparing)) := by
  induction items generalizing seen with
  | nil => rfl
  | cons v rest ih =>
    rw [Value.distinctFrom, Value.firstObstacle?, repeated]
    cases v.obstacle? with
    | some part => rfl
    | none =>
      rw [Option.none_or]
      dsimp only
      split
      · rw [List.all_cons]
        split
        · rw [ih, ‹v.fits room .comparing = true›, Bool.true_and]
        · simp_all [Except.toBool]
      · exact ih (v :: seen)

theorem isMismatch_ofSetFault (fault : Value.SetFault) : (Fault.ofSetFault fault).isMismatch = false := by
  cases fault with
  | obstacle part => cases part <;> rfl
  | tooNested => rfl

theorem concerns_ofSetFault (fault : Value.SetFault) (v : Value) (field? : Option String) :
    (Fault.ofSetFault fault).Concerns v field? := by
  cases fault with
  | obstacle part => cases part <;> trivial
  | tooNested => trivial

theorem setOf_judged {items : List Value} (hobstacle : holdsObstacle v = (Value.firstObstacle? items).isSome)
    (hdeep : repeatsTooDeep world.room v = !(repeated [] items).all (·.fits world.room .comparing)) :
    Judged world .set field? v ((Value.setOf world.room false items).mapError Fault.ofSetFault) := by
  have hok := isOk_distinctFrom world.room [] items
  rw [Value.setOf]
  cases hset : Value.distinctFrom world.room [] items with
  | ok kept => rfl
  | error fault =>
    rw [hset] at hok
    have hbeyond : isBeyond world .set v = true := by
      simp only [isBeyond, hobstacle, hdeep, ← Option.not_isNone, ← Bool.not_and, ← hok]
      simp [Except.toBool]
    refine ⟨concerns_ofSetFault fault v field?, ?_⟩
    rw [isMismatch_ofSetFault, hbeyond]
    rfl

theorem firstObstacle?_texts (texts : List (List Char)) :
    Value.firstObstacle? (texts.map fun s => .text (String.ofList s)) = none := by
  induction texts with
  | nil => rfl
  | cons s rest ih => simpa [Value.firstObstacle?, Value.obstacle?] using ih

theorem mem_of_mem_repeated {seen items : List Value} {u : Value} (h : u ∈ repeated seen items) : u ∈ items := by
  induction items generalizing seen with
  | nil => cases h
  | cons v rest ih =>
    rw [repeated] at h
    split at h
    · exact (List.mem_cons.mp h).elim (fun e => e ▸ List.mem_cons_self) fun h => List.mem_cons_of_mem v (ih h)
    · exact List.mem_cons_of_mem v (ih h)

-- Texts have no depth.
theorem repeated_texts_fit (room : Room) (texts : List (List Char)) :
    (repeated [] (texts.map fun s => .text (String.ofList s))).all (·.fits room .comparing) = true := by
  rw [List.all_eq_true]
  intro v hv
  obtain ⟨s, -, rfl⟩ := List.mem_map.mp (mem_of_mem_repeated hv)
  rfl

theorem toSet_judged (hv : isNothing v = false) : Judged world .set field? v (toSet world.room field? v) := by
  unfold toSet toList
  rw [if_neg (by simp [hv])]
  cases v with
  | list _ items => exact setOf_judged rfl rfl
  | tuple items => exact setOf_judged rfl rfl
  | set _ items => exact setOf_judged rfl rfl
  | text s => exact setOf_judged (by rw [firstObstacle?_texts]; rfl) (by rw [repeated_texts_fit]; rfl)
  | _ => exact judged_refusal (by simp [isBeyond, holdsObstacle, repeatsTooDeep])

theorem toMap_judged (hv : isNothing v = false) : Judged world .map field? v (toMap world.room field? v) := by
  simp only [toMap, hv, Bool.false_eq_true, if_false]
  split
  · rfl
  · split
    · rfl
    · exact ⟨trivial, by simp_all [Fault.isMismatch, isBeyond, nestsTooDeep]⟩
    · apply judged_refusal
      simp_all [isBeyond, nestsTooDeep]
  · apply judged_refusal
    cases v <;> simp_all [isBeyond, nestsTooDeep]

/-! ## 3. Conversion to a declared type -/

/-- The types whose values are not looked at. -/
def leavesAlone : SemanticType → Bool
  | .object | .genericValue | .genericEntity => true
  | _ => false

/-- The type that values are converted to under a tag; `none` if they are left alone. -/
def convertedType? (tag : String) : Option SemanticType := (SemanticType.ofTag? tag).filter fun t => !leavesAlone t

/-- Whether a value converts to null: null does, and empty text does unless the tag keeps texts. -/
def becomesNull (tag : String) (v : Value) : Bool :=
  v.isNull || (isNothing v && (convertedType? tag).any (· ≠ .string))

/-- Whether a value that does not convert under a tag fails otherwise than by a mismatch. -/
def isUnjudged (world : World) (tag : String) (v : Value) : Bool := (convertedType? tag).any fun t => isBeyond world t v

theorem convertKnown_judged (g : Guide) (ht : leavesAlone t = false) (hv : v ≠ .null)
    (hempty : t ≠ .string → isNothing v = false) : Judged g.world t g.field? v (convertKnown g t v) := by
  cases t with
  | string => exact toText_judged hv
  | boolean => exact toBoolean_judged (hempty nofun)
  | integer | long | bigInteger => exact toInteger_judged rfl (hempty nofun)
  | float | double => exact toFloat_judged rfl (hempty nofun)
  | bigDecimal => exact toDecimal_judged (hempty nofun)
  | timestamp => exact toTimestamp_judged (hempty nofun)
  | date => exact toDate_judged (hempty nofun)
  | time => exact toTime_judged (hempty nofun)
  | list => exact toList_judged (.inl rfl) (hempty nofun)
  | collection => exact toList_judged (.inr rfl) (hempty nofun)
  | set => exact toSet_judged (hempty nofun)
  | map => exact toMap_judged (hempty nofun)
  | locale => exact toLocale_judged (hempty nofun)
  | timeZone => exact toTimeZone_judged (hempty nofun)
  | object | genericValue | genericEntity => cases ht

variable {g : Guide} {tag : String} {w : Value} {f : Fault}

theorem convert_of_left (h : convertedType? tag = none) : convert g tag v = .ok v := by
  unfold convert
  split <;> simp_all [convertedType?, leavesAlone, Option.filter]

theorem ofTag?_of_converted (h : convertedType? tag = some t) : SemanticType.ofTag? tag = some t :=
  (Option.filter_eq_some_iff.mp h).1

theorem leavesAlone_of_converted (h : convertedType? tag = some t) : leavesAlone t = false := by
  simpa using (Option.filter_eq_some_iff.mp h).2

theorem convert_of_converted (h : convertedType? tag = some t) :
    convert g tag v = if v.isNull then .ok v
      else if t ≠ .string ∧ isNothing v then .ok .null
      else if isSettled t v then .ok v
      else (convertKnown g t v).mapError (Fault.declaredAs tag) := by
  obtain ⟨htag, halone⟩ := Option.filter_eq_some_iff.mp h
  unfold convert
  rw [htag]
  cases t <;> first | rfl | cases halone

theorem admitsPresent_of_settled (h : isSettled t v) : t.admitsPresent v = true := by
  simp_all [isSettled]

theorem becomesNull_of_converted (h : convertedType? tag = some t) :
    becomesNull tag v = (v.isNull || (isNothing v && decide (t ≠ .string))) := by
  rw [becomesNull, h, Option.any_some]

-- A value that does not become null is converted as its type asks, and mismatches name the tag.
theorem convert_judged (h : convertedType? tag = some t) (hv : becomesNull tag v = false) :
    ∃ r, Judged g.world t g.field? v r ∧ convert g tag v = r.mapError (Fault.declaredAs tag) := by
  rw [becomesNull_of_converted h, Bool.or_eq_false_iff] at hv
  have hempty : t ≠ .string → isNothing v = false := fun ht => by simpa [ht] using hv.2
  rw [convert_of_converted h, if_neg (by simp [hv.1]), if_neg fun hn => by simp [hempty hn.1] at hn]
  split
  · exact ⟨.ok v, admitsPresent_of_settled ‹_›, rfl⟩
  · refine ⟨_, convertKnown_judged g (leavesAlone_of_converted h) ?_ hempty, rfl⟩
    rintro rfl
    cases hv.1

theorem convert_of_becomesNull (h : becomesNull tag v = true) : convert g tag v = .ok .null := by
  cases hconv : convertedType? tag with
  | none =>
    rw [becomesNull, hconv] at h
    rw [convert_of_left hconv]
    cases v <;> simp_all [Value.isNull]
  | some t =>
    rw [becomesNull_of_converted hconv] at h
    rw [convert_of_converted hconv]
    cases v <;> simp_all [Value.isNull]

theorem isNull_of_admitsPresent (ht : leavesAlone t = false) (h : t.admitsPresent w = true) : w.isNull = false := by
  cases w with
  | null => cases t <;> simp_all [SemanticType.admitsPresent, leavesAlone]
  | _ => rfl

theorem ok_of_judged {r : Except Fault Value} (hr : Judged g.world t g.field? v r)
    (h : r.mapError (Fault.declaredAs tag) = .ok w) : t.admitsPresent w = true := by
  cases r with
  | ok u =>
    cases h
    exact hr
  | error f => cases h

-- What a value converts to is null only if the value becomes null.
theorem isNull_of_convert (h : convert g tag v = .ok w) : w.isNull = becomesNull tag v := by
  cases hnull : becomesNull tag v with
  | true =>
    rw [convert_of_becomesNull hnull] at h
    cases h
    rfl
  | false =>
    cases hconv : convertedType? tag with
    | none =>
      rw [convert_of_left hconv] at h
      cases h
      simpa [becomesNull, hconv] using hnull
    | some t =>
      obtain ⟨r, hr, heq⟩ := convert_judged (g := g) hconv hnull
      rw [heq] at h
      exact isNull_of_admitsPresent (leavesAlone_of_converted hconv) (ok_of_judged hr h)

/-- Whether a tag names a type of entities, whose values conversion does not look at. -/
def isEntityTag (tag : String) : Bool :=
  SemanticType.ofTag? tag = some .genericValue || SemanticType.ofTag? tag = some .genericEntity

theorem isEntityTag_of_converted (h : convertedType? tag = some t) : isEntityTag tag = false := by
  have halone := leavesAlone_of_converted h
  rw [isEntityTag, ofTag?_of_converted h]
  cases t <;> first | rfl | cases halone

theorem admits_of_left (h : convertedType? tag = none) (htag : isEntityTag tag = false) :
    SemanticType.admits tag v = true := by
  rw [SemanticType.admits]
  cases ht : SemanticType.ofTag? tag with
  | none => simp
  | some t =>
    have halone : leavesAlone t = true := by simpa [convertedType?, ht, Option.filter] using h
    cases t <;> simp_all [isEntityTag, leavesAlone, SemanticType.admitsPresent]

-- What a value converts to has the form that the tag asks for.
theorem admits_of_convert (h : convert g tag v = .ok w) (htag : isEntityTag tag = false) :
    SemanticType.admits tag w = true := by
  cases hconv : convertedType? tag with
  | none => exact admits_of_left hconv htag
  | some t =>
    cases hnull : becomesNull tag v with
    | true =>
      rw [convert_of_becomesNull hnull] at h
      cases h
      rfl
    | false =>
      obtain ⟨r, hr, heq⟩ := convert_judged (g := g) hconv hnull
      rw [heq] at h
      rw [SemanticType.admits, ofTag?_of_converted hconv]
      simp [ok_of_judged hr h]

theorem isMismatch_declaredAs (f : Fault) : (f.declaredAs tag).isMismatch = f.isMismatch := by cases f <;> rfl

/-- A value that does not convert is a mismatch of the field under the tag, unless it cannot be judged. -/
theorem error_of_convert (h : convert g tag v = .error f) :
    becomesNull tag v = false ∧ f.isMismatch = !isUnjudged g.world tag v ∧
      ∀ m, f = .mismatch m → m.value = v ∧ m.field? = g.field? ∧ m.typeName = tag := by
  cases hconv : convertedType? tag with
  | none =>
    rw [convert_of_left hconv] at h
    cases h
  | some t =>
    cases hnull : becomesNull tag v with
    | true =>
      rw [convert_of_becomesNull hnull] at h
      cases h
    | false =>
      obtain ⟨r, hr, heq⟩ := convert_judged (g := g) hconv hnull
      rw [heq] at h
      cases r with
      | ok u => cases h
      | error f₀ =>
        cases h
        refine ⟨rfl, ?_, fun m hm => ?_⟩
        · rw [isMismatch_declaredAs, hr.2, isUnjudged, hconv, Option.any_some]
        · cases f₀ with
          | mismatch m₀ =>
            cases hm
            exact ⟨hr.1.1, hr.1.2, rfl⟩
          | _ => cases hm

/-! ## 4. Values of the declared form -/

/-- Whether a tag asks for a number that integers stand for. -/
def widensIntegers (tag : String) : Bool := (convertedType? tag).any fun t => t.isFloating || t = .bigDecimal

theorem admits_iff_of_converted (h : convertedType? tag = some t) :
    SemanticType.admits tag v = true ↔ v.isNull = true ∨ t.admitsPresent v = true := by
  rw [SemanticType.admits, ofTag?_of_converted h, Bool.or_eq_true]

-- Among the types that values are converted to, empty text is of the declared form only for text.
theorem isNothing_of_admitsPresent (ht : leavesAlone t = false) (hv : t.admitsPresent v = true) (hs : t ≠ .string) :
    isNothing v = false := by
  cases v with
  | null => cases t <;> contradiction
  | text s => cases t <;> contradiction
  | _ => rfl

theorem becomesNull_of_admits (h : SemanticType.admits tag v = true) : becomesNull tag v = v.isNull := by
  cases hconv : convertedType? tag with
  | none => simp [becomesNull, hconv]
  | some t =>
    rw [becomesNull_of_converted hconv]
    rcases (admits_iff_of_converted hconv).mp h with hnull | hpresent
    · simp [hnull]
    · by_cases hs : t = .string
      · simp [hs]
      · simp [isNothing_of_admitsPresent (leavesAlone_of_converted hconv) hpresent hs]

/-- A value of the declared form stays as it is, unless the tag asks for a number that integers stand for. -/
theorem convert_of_admits (h : SemanticType.admits tag v = true) (htag : widensIntegers tag = false) :
    convert g tag v = .ok v := by
  cases hconv : convertedType? tag with
  | none => exact convert_of_left hconv
  | some t =>
    rw [convert_of_converted hconv]
    rcases (admits_iff_of_converted hconv).mp h with hnull | hpresent
    · exact if_pos hnull
    · have hsettled : isSettled t v = true := by
        rw [widensIntegers, hconv] at htag
        simp_all [isSettled]
      have hempty : ¬(t ≠ .string ∧ isNothing v = true) := by
        rintro ⟨hs, hnothing⟩
        rw [isNothing_of_admitsPresent (leavesAlone_of_converted hconv) hpresent hs] at hnothing
        cases hnothing
      rw [if_neg hempty, if_pos hsettled, ite_self]

-- What converts to such a number is beyond judgement only when it is too long to be told.
theorem isUnjudged_of_widens (htag : widensIntegers tag = true) (hfit : v.canBeWritten world.room = true) :
    isUnjudged world tag v = false := by
  obtain ⟨t, hconv, hnumber⟩ := (Option.any_eq_true _ _).mp htag
  have ht : t.isFloating = true ∨ t = .bigDecimal := by simpa using hnumber
  rw [isUnjudged, hconv, Option.any_some, isBeyond_number (.inr ht), hfit]
  rfl

-- The numbers that such a tag asks for have no depth.
theorem fits_of_widens (h : SemanticType.admits tag v = true) (htag : widensIntegers tag = true) (room : Room)
    (walk : Walk) : v.fits room walk = true := by
  obtain ⟨t, hconv, hnumber⟩ := (Option.any_eq_true _ _).mp htag
  cases v with
  | list | tuple | set | map =>
    rcases (admits_iff_of_converted hconv).mp h with hnull | hpresent
    · cases hnull
    · cases t <;> simp_all [SemanticType.isFloating, SemanticType.admitsPresent]
  | _ => rfl

theorem isUnjudged_of_admits (h : SemanticType.admits tag v = true) (hfit : v.integersFit = true)
    (hf : convert g tag v = .error f) : isUnjudged g.world tag v = false := by
  cases htag : widensIntegers tag with
  | true =>
    have hwritten : v.canBeWritten g.world.room = true := by
      rw [Value.canBeWritten, hfit, fits_of_widens h htag]
      rfl
    exact isUnjudged_of_widens htag hwritten
  | false =>
    rw [convert_of_admits h htag] at hf
    cases hf

-- Conversion keeps the declared form under every tag, also under those of entities.
theorem admits_of_convert_of_admits (h : SemanticType.admits tag v = true) (hw : convert g tag v = .ok w) :
    SemanticType.admits tag w = true := by
  cases hconv : convertedType? tag with
  | none =>
    rw [convert_of_left hconv] at hw
    cases hw
    exact h
  | some t =>
    exact admits_of_convert hw (isEntityTag_of_converted hconv)

theorem widensIntegers_of_isText (h : SemanticType.isText tag = true) : widensIntegers tag = false := by
  have hof : SemanticType.ofTag? tag = some .string := by simpa [SemanticType.isText] using h
  rw [widensIntegers, convertedType?, hof]
  rfl

/-! ## 5. Converting again -/

theorem isFloat_of_toFloat {room : Room} (hv : isNothing v = false) (h : toFloat room locale? field? v = .ok w) :
    ∃ x, w = .float x := by
  simp only [toFloat, hv, Bool.false_eq_true, if_false] at h
  repeat' split at h
  all_goals cases h
  all_goals exact ⟨_, rfl⟩

theorem isDecimal_of_toDecimal {room : Room} (hv : isNothing v = false) (h : toDecimal room locale? field? v = .ok w) :
    ∃ d, w = .decimal d := by
  simp only [toDecimal, hv, Bool.false_eq_true, if_false] at h
  repeat' split at h
  all_goals cases h
  all_goals exact ⟨_, rfl⟩

-- What stands for a number that integers stand for too is of the number's own kind.
theorem convert_of_widened (g' : Guide) (htag : widensIntegers tag = true) (hv : becomesNull tag v = false)
    (h : convert g tag v = .ok w) : convert g' tag w = .ok w := by
  obtain ⟨t, hconv, hnumber⟩ := (Option.any_eq_true _ _).mp htag
  have hne : t ≠ .string := by
    rintro rfl
    cases hnumber
  have hsettled : ∀ u, isSettled t u = false := by
    intro u
    cases hfloating : t.isFloating <;> simp_all [isSettled]
  rw [becomesNull_of_converted hconv, Bool.or_eq_false_iff] at hv
  have hempty : isNothing v = false := by simpa [hne] using hv.2
  rw [convert_of_converted hconv, if_neg (by simp [hv.1]), if_neg (by simp [hempty]), if_neg (by simp [hsettled])] at h
  cases hknown : convertKnown g t v with
  | error f =>
    rw [hknown] at h
    cases h
  | ok u =>
    rw [hknown] at h
    cases h
    rw [convert_of_converted hconv]
    cases t with
    | float | double =>
      obtain ⟨x, rfl⟩ := isFloat_of_toFloat hempty hknown
      rfl
    | bigDecimal =>
      obtain ⟨d, rfl⟩ := isDecimal_of_toDecimal hempty hknown
      rfl
    | _ => cases hnumber

/-- What conversion gives converts to itself, whatever the second conversion goes by. -/
theorem convert_of_convert (g' : Guide) (h : convert g tag v = .ok w) : convert g' tag w = .ok w := by
  cases hconv : convertedType? tag with
  | none => exact convert_of_left hconv
  | some t =>
    cases hnull : becomesNull tag v with
    | true =>
      rw [convert_of_becomesNull hnull] at h
      cases h
      exact convert_of_becomesNull rfl
    | false =>
      cases htag : widensIntegers tag with
      | true => exact convert_of_widened g' htag hnull h
      | false => exact convert_of_admits (admits_of_convert h (isEntityTag_of_converted hconv)) htag

/-! ## 6. Sound conversion -/

-- A type that no package holds has one tag only.
theorem tag_of_unpackaged (ht : t.package? = none) (h : SemanticType.ofTag? tag = some t) : tag = t.name := by
  have htag := List.find?_some h
  rw [SemanticType.qualifiedName?, ht] at htag
  simpa [eq_comm] using htag

theorem isEntityTag_of_ne (hvalue : tag ≠ "GenericValue") (hentity : tag ≠ "GenericEntity") :
    isEntityTag tag = false := by
  rw [isEntityTag, Bool.or_eq_false_iff]
  constructor
  · exact decide_eq_false fun h => hvalue (tag_of_unpackaged rfl h)
  · exact decide_eq_false fun h => hentity (tag_of_unpackaged rfl h)

/-- What a value converts to stays as it is in every other locale and zone and has the declared form, except that
nothing is said about the form of entities. -/
theorem convert_sound (g g' : Guide) {tag : String} {v w : Value} (h : convert g tag v = .ok w) :
    convert g' tag w = .ok w ∧
      (tag ≠ "GenericValue" → tag ≠ "GenericEntity" → SemanticType.admits tag w = true) :=
  ⟨convert_of_convert g' h, fun hvalue hentity => admits_of_convert h (isEntityTag_of_ne hvalue hentity)⟩

-- A number written in one locale is a decimal in every other.
theorem convert_sound_sample :
    ∃ w, convert ⟨.ofRoom (.ofPlaces 1000), some ⟨"de", "", ""⟩, .utc, none⟩ "java.math.BigDecimal" (.text "1.234,5")
        = .ok w ∧
      convert ⟨.ofRoom (.ofPlaces 10), some .enUS, .fixed 3600000000, none⟩ "java.math.BigDecimal" w = .ok w ∧
      SemanticType.admits "java.math.BigDecimal" w = true := by
  have hgives : convert ⟨.ofRoom (.ofPlaces 1000), some ⟨"de", "", ""⟩, .utc, none⟩ "java.math.BigDecimal"
      (.text "1.234,5") = .ok (.decimal (.finite false 12345 (-1))) := by rfl
  have hsound := convert_sound _ ⟨.ofRoom (.ofPlaces 10), some .enUS, .fixed 3600000000, none⟩ hgives
  exact ⟨_, hgives, hsound.1, hsound.2 (by decide) (by decide)⟩

end Conversion

end CallContract
