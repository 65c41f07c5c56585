import CallContract.Proofs.Coercion.Defaults
import CallContract.Proofs.Coercion.Selection

/-!
# UnlistedModes — what the calls make of a name that is no mode

Filling a target refuses such a name, and no parameter is selected for it.  Validation looks at the part before the
first hyphen only, so it takes the name for a direction whenever that part is one.  Counts, defaults and conversion in
place let the parameters that go both ways take part in anything: they treat the name as if it were the direction both.
-/

namespace CallContract

open Calendar Coercion Context Validation

/-! ## 1. Names -/

namespace Mode

variable {n : String}

theorem ofName_of_not_listed (hn : n ∉ listed.map name) : ofName n = .unlisted n := by
  have hnone : listed.find? (fun m => m.name = n) = none :=
    List.find?_eq_none.mpr fun m hm => by simpa using fun h => hn (List.mem_map.mpr ⟨m, hm, h⟩)
  rw [ofName, hnone]
  rfl

-- Where nothing is declared with a mode, what goes both ways takes part in it and nothing else does.
theorem takesPartIn_of_ne {declared m : Mode} (h : declared ≠ m) :
    declared.takesPartIn m = declared.takesPartIn both := by
  simp [takesPartIn, h]

theorem takesPartIn_both {declared : Mode} : declared.takesPartIn both = true ↔ declared = both := by
  simp [takesPartIn]

end Mode

/-- A parameter that a contract holds, or has looked up for conversion, is declared with a mode. -/
def Store.Declares (s : Store) (c : Contract) (m : Mode) : Prop :=
  ∃ id ∈ c.paramIds ++ s.convertible c, (s.param id).mode = m

section

variable {s : Store} {c : Contract} {m : Mode} {n : String}

theorem mode_ne_of_held (h : ¬s.Declares c m) {p : Param} (hp : p ∈ s.paramsOf c) : p.mode ≠ m := by
  obtain ⟨id, hid, rfl⟩ := List.mem_map.mp hp
  exact fun hmode => h ⟨id, List.mem_append_left _ hid, hmode⟩

theorem mode_ne_of_convertible (h : ¬s.Declares c m) {p : Param} (hp : p ∈ (s.convertible c).map s.param) :
    p.mode ≠ m := by
  obtain ⟨id, hid, rfl⟩ := List.mem_map.mp hp
  exact fun hmode => h ⟨id, List.mem_append_right _ hid, hmode⟩

/-! ## 2. Validation -/

namespace Validation

theorem direction?_ofName {d : Direction} (hd : d ≠ .both) (hbase : Mode.nameBase n = d.name) :
    direction? (.ofName n) = some d := by
  rw [direction?, Mode.cut, Mode.name_ofName, hbase]
  cases d with
  | input => rfl
  | output => rfl
  | both => exact absurd rfl hd

theorem direction?_plain {d : Direction} (hd : d ≠ .both) : direction? (.plain d) = some d := by
  cases d with
  | input => decide
  | output => decide
  | both => exact absurd rfl hd

-- Only the names of the two directions name them.
theorem direction?_ofName_eq_none (hbase : ∀ d : Direction, d ≠ .both → Mode.nameBase n ≠ d.name) :
    direction? (.ofName n) = none := by
  rw [direction?, Mode.cut, Mode.name_ofName]
  split
  case h_1 hmode => exact absurd (by rw [← Mode.name_ofName (Mode.nameBase n), hmode]; rfl) (hbase .input (by decide))
  case h_2 hmode => exact absurd (by rw [← Mode.name_ofName (Mode.nameBase n), hmode]; rfl) (hbase .output (by decide))
  case h_3 => rfl

end Validation

/-! ## 3. What leaves the context alone -/

namespace Coercion

/-- An action that changes no entry of the context. -/
def LeavesEntries {α : Type} (action : ContextAction α) : Prop :=
  ∀ w, (leftBy (action w)).access = w.access ∧ (leftBy (action w)).entries = w.entries

section

variable {α β : Type} {action : ContextAction α} {next : α → ContextAction β} {may : String → Prop}

theorem LeavesEntries.writesOnly (h : LeavesEntries action) : WritesOnly may action :=
  fun w => ⟨(h w).1, fun key _ => by rw [(h w).2]⟩

theorem LeavesEntries.bind (h : LeavesEntries action) (hnext : ∀ a, LeavesEntries (next a)) :
    LeavesEntries (action >>= next) := by
  intro w
  have hfirst := h w
  cases hact : action w with
  | error fault w₁ =>
    rw [bind_of_error hact]
    rwa [hact] at hfirst
  | ok a w₁ =>
    rw [hact] at hfirst
    rw [bind_of_ok hact]
    exact ⟨(hnext a w₁).1.trans hfirst.1, (hnext a w₁).2.trans hfirst.2⟩

theorem leavesEntries_pure (a : α) : LeavesEntries (pure a) := fun _ => ⟨rfl, rfl⟩

theorem leavesEntries_read : LeavesEntries Context.read := by
  intro w
  unfold Context.read
  rw [get_bind]
  split <;> exact ⟨rfl, rfl⟩

theorem leavesEntries_orElseNoting (service? : Option String) (v : Value) (result : Except Fault Value) :
    LeavesEntries (orElseNoting service? v result) := by
  intro w
  cases result with
  | ok u => exact ⟨rfl, rfl⟩
  | error f => cases f <;> exact ⟨rfl, rfl⟩

theorem leavesEntries_givenOr (given? : Option α) (h : LeavesEntries action) :
    LeavesEntries (givenOr given? action) := by
  cases given? with
  | some a => exact leavesEntries_pure a
  | none => exact h

theorem leavesEntries_carried (key : String) (read : Option String → Value → Except Fault Value)
    (pick? : Value → Option α) (substitute : α) (m : Entries Value) :
    LeavesEntries (carried key read pick? substitute m) := by
  unfold carried
  split
  · exact leavesEntries_pure substitute
  · exact (leavesEntries_orElseNoting none _ _).bind fun _ => leavesEntries_pure _

theorem leavesEntries_guidance (around : Surroundings) (locale? : Option Locale) (zone? : Option Zone) :
    LeavesEntries (guidance around locale? zone? Context.read) :=
  (leavesEntries_givenOr locale? (leavesEntries_read.bind (leavesEntries_carried _ _ _ _))).bind fun _ =>
    (leavesEntries_givenOr zone? (leavesEntries_read.bind (leavesEntries_carried _ _ _ _))).bind fun _ =>
      leavesEntries_pure _

end

/-! ## 4. Defaults and conversion in place -/

/-- The keys of the parameters that go both ways. -/
def IsTwoWayKey (ps : List Param) (key : String) : Prop := ∃ p ∈ ps, p.mode = .both ∧ p.name = key

variable {around : Surroundings} {room : Room} {locale? : Option Locale} {zone? : Option Zone}
  {may : String → Prop} {p : Param}

theorem writesOnly_modify (f : ContextWork → ContextWork) (haccess : ∀ w, (f w).access = w.access)
    (hentries : ∀ w, (f w).entries = w.entries) : WritesOnly may (modify f : ContextAction PUnit) :=
  fun w => ⟨haccess w, fun key _ => congrArg (Entries.get? key) (hentries w)⟩

theorem writesOnly_throw {α : Type} (fault : ContextFault) : WritesOnly may (throw fault : ContextAction α) :=
  fun _ => ⟨rfl, fun _ _ => rfl⟩

theorem writesOnly_applyDefault (isRecorded : Bool) (service : String) (hmay : may p.name) :
    WritesOnly may (applyDefault room isRecorded service p) := by
  intro w
  rw [applyDefault, get_bind]
  cases p.produceDefault room w.uses with
  | error fault => exact writesOnly_throw _ w
  | ok produced =>
    have huses : WritesOnly may (modify fun w => { w with uses := produced.2 } : ContextAction PUnit) :=
      writesOnly_modify _ (fun _ => rfl) fun _ => rfl
    refine huses.bind (fun _ => (writesOnly_write hmay produced.1).bind fun _ => ?_) w
    split
    · split
      · exact writesOnly_throw _
      · exact writesOnly_modify _ (fun _ => rfl) fun _ => rfl
    · exact writesOnly_pure _

theorem writesOnly_fillGap (isRecorded : Bool) (service : String) (hmay : may p.name) :
    WritesOnly may (fillGap room isRecorded service p) := by
  refine leavesEntries_read.writesOnly.bind fun m => ?_
  split
  · exact writesOnly_applyDefault isRecorded service hmay
  · exact writesOnly_pure _

theorem writesOnly_convertInPlace (service : String) (locale : Locale) (zone : Zone) (hmay : may p.name) :
    WritesOnly may (convertInPlace around service locale zone p) := by
  refine leavesEntries_read.writesOnly.bind fun m => ?_
  split
  · exact writesOnly_pure _
  · exact (writesOnly_orElseNoting _ _ _).bind fun u => writesOnly_write hmay u

/-! ## 5. What goes both ways -/

theorem filter_takesPartIn_congr {ps : List Param} (h : ∀ p ∈ ps, p.mode ≠ m) (accept : Param → Bool) :
    ps.filter (fun p => p.mode.takesPartIn m && accept p)
      = ps.filter fun p => p.mode.takesPartIn .both && accept p :=
  List.filter_congr fun p hp => by rw [Mode.takesPartIn_of_ne (h p hp)]

theorem applyDefaults_eq_forM : applyDefaults around s c m =
    ((s.paramsOf c).filter fun p => p.mode.takesPartIn m.base && !p.default.isMissing).forM
      (fillGap around.room (recordsDefaults around.settings c) c.name) :=
  forM_filter _ _ _

theorem applyDefaults_eq_both (h : ∀ p ∈ s.paramsOf c, p.mode ≠ m.base) :
    applyDefaults around s c m = applyDefaults around s c .both := by
  rw [applyDefaults_eq_forM, applyDefaults_eq_forM, filter_takesPartIn_congr h]
  rfl

theorem convertFlagged_eq_both (h : ∀ p ∈ (s.convertible c).map s.param, p.mode ≠ m.base) :
    convertFlagged around s c m locale? zone? = convertFlagged around s c .both locale? zone? := by
  have hparams : ((s.convertible c).map s.param).filter (fun p => p.mode.takesPartIn m.base)
      = ((s.convertible c).map s.param).filter fun p => p.mode.takesPartIn Mode.both.base :=
    List.filter_congr fun p hp => Mode.takesPartIn_of_ne (h p hp)
  rw [convertFlagged, convertFlagged, hparams]

-- Without parameters that go both ways there is nothing to visit.
theorem filter_takesPartIn_eq_nil {ps : List Param} (h : ∀ p ∈ ps, p.mode ≠ .both) (accept : Param → Bool) :
    ps.filter (fun p => p.mode.takesPartIn .both && accept p) = [] := by
  refine List.filter_eq_nil_iff.mpr fun p hp haccepted => ?_
  exact h p hp (Mode.takesPartIn_both.mp (Bool.and_eq_true_iff.mp haccepted).1)

theorem leavesEntries_applyDefaults (h : ∀ p ∈ s.paramsOf c, p.mode ≠ .both) :
    LeavesEntries (applyDefaults around s c .both) := by
  have hnone : (s.paramsOf c).filter (fun p => p.mode.takesPartIn Mode.both.base && !p.default.isMissing) = [] :=
    filter_takesPartIn_eq_nil h _
  rw [applyDefaults_eq_forM, hnone]
  exact leavesEntries_pure ()

theorem leavesEntries_convertFlagged (h : ∀ p ∈ (s.convertible c).map s.param, p.mode ≠ .both) :
    LeavesEntries (convertFlagged around s c .both locale? zone?) := by
  have hnone : ((s.convertible c).map s.param).filter (fun p => p.mode.takesPartIn Mode.both.base) = [] :=
    List.filter_eq_nil_iff.mpr fun p hp hboth => h p hp (Mode.takesPartIn_both.mp hboth)
  rw [convertFlagged, hnone]
  dsimp only
  split
  · exact leavesEntries_pure ()
  · exact (leavesEntries_guidance _ locale? zone?).bind fun _ => leavesEntries_pure ()

theorem writesOnly_applyDefaults :
    WritesOnly (IsTwoWayKey (s.paramsOf c)) (applyDefaults around s c .both) := by
  rw [applyDefaults_eq_forM]
  refine writesOnly_forM fun p hp => writesOnly_fillGap _ _ ?_
  obtain ⟨hp, hboth⟩ := List.mem_filter.mp hp
  exact ⟨p, hp, Mode.takesPartIn_both.mp (Bool.and_eq_true_iff.mp hboth).1, rfl⟩

theorem writesOnly_convertFlagged :
    WritesOnly (IsTwoWayKey ((s.convertible c).map s.param)) (convertFlagged around s c .both locale? zone?) := by
  unfold convertFlagged
  dsimp only
  split
  · exact writesOnly_pure ()
  · refine (leavesEntries_guidance _ locale? zone?).writesOnly.bind fun guide => writesOnly_forM fun p hp => ?_
    obtain ⟨hp, hboth⟩ := List.mem_filter.mp hp
    exact writesOnly_convertInPlace _ _ _ ⟨p, hp, Mode.takesPartIn_both.mp hboth, rfl⟩

end Coercion

/-- What the calls make of a name that is no mode: they refuse it, select nothing, or take it for a direction. -/
structure MeetsTwoWay (s : Store) (c : Contract) (n : String) : Prop where
  coercion_refused : ∀ around source options w, fill around s c (.ofName n) source options w
    = .error (.definition (.invalidCoercionMode n c.name)) w
  none_selected : ∀ withOptional withInternal, s.namesFor c (.ofName n) withOptional withInternal = []
  /-- Validation refuses the name unless its part before the first hyphen is a direction. -/
  validation_refused : (∀ d : Direction, d ≠ .both → Mode.nameBase n ≠ d.name) →
    ∀ find room context locale? isRecorded t, validateWith find room s c context (.ofName n) locale? isRecorded t
      = .error (.definition (.invalidValidationMode n c.name)) t
  validation_of_base : ∀ d : Direction, d ≠ .both → Mode.nameBase n = d.name →
    ∀ find room context, validateWith find room s c context (.ofName n) = validateWith find room s c context (.plain d)
  required_eq : s.requiredCount c (.ofName n) = s.requiredCount c .both
  optional_eq : s.optionalCount c (.ofName n) = s.optionalCount c .both
  defaults_eq : ∀ around, applyDefaults around s c (.ofName n) = applyDefaults around s c .both
  conversion_eq : ∀ around locale? zone?, convertFlagged around s c (.ofName n) locale? zone?
    = convertFlagged around s c .both locale? zone?
  defaults_write : ∀ around, WritesOnly (IsTwoWayKey (s.paramsOf c)) (applyDefaults around s c (.ofName n))
  conversion_writes : ∀ around locale? zone?, WritesOnly (IsTwoWayKey ((s.convertible c).map s.param))
    (convertFlagged around s c (.ofName n) locale? zone?)

/-- No call takes a name for a direction, validation apart: nothing is counted and the context stays as it is. -/
structure MeetsNothing (s : Store) (c : Contract) (n : String) : Prop where
  required_eq : s.requiredCount c (.ofName n) = 0
  optional_eq : s.optionalCount c (.ofName n) = 0
  defaults_leave : ∀ around, LeavesEntries (applyDefaults around s c (.ofName n))
  conversion_leaves : ∀ around locale? zone?, LeavesEntries (convertFlagged around s c (.ofName n) locale? zone?)

theorem countP_takesPartIn_congr {ps : List Param} (h : ∀ p ∈ ps, p.mode ≠ m) (accept : Param → Bool) :
    ps.countP (fun p => p.mode.takesPartIn m && accept p)
      = ps.countP fun p => p.mode.takesPartIn .both && accept p := by
  rw [List.countP_eq_length_filter, List.countP_eq_length_filter, filter_takesPartIn_congr h]

theorem countP_takesPartIn_eq_zero {ps : List Param} (h : ∀ p ∈ ps, p.mode ≠ .both) (accept : Param → Bool) :
    ps.countP (fun p => p.mode.takesPartIn .both && accept p) = 0 := by
  rw [List.countP_eq_length_filter, filter_takesPartIn_eq_nil h, List.length_nil]

theorem requiredCount_eq (h : ¬s.Declares c m) : s.requiredCount c m = s.requiredCount c .both := by
  simp only [Store.requiredCount, Bool.and_assoc]
  exact countP_takesPartIn_congr (fun p => mode_ne_of_held h) _

theorem optionalCount_eq (h : ¬s.Declares c m) : s.optionalCount c m = s.optionalCount c .both := by
  simp only [Store.optionalCount, Bool.and_assoc]
  exact countP_takesPartIn_congr (fun p => mode_ne_of_held h) _

theorem requiredCount_eq_zero (h : ¬s.Declares c .both) : s.requiredCount c .both = 0 := by
  simp only [Store.requiredCount, Bool.and_assoc]
  exact countP_takesPartIn_eq_zero (fun p => mode_ne_of_held h) _

theorem optionalCount_eq_zero (h : ¬s.Declares c .both) : s.optionalCount c .both = 0 := by
  simp only [Store.optionalCount, Bool.and_assoc]
  exact countP_takesPartIn_eq_zero (fun p => mode_ne_of_held h) _

end

/-- A name that is none of the modes is refused or selects nothing; but counts, defaults and conversion in place meet
the parameters that go both ways, and validation takes it for the direction before its first hyphen. -/
theorem unlisted_mode_meets_two_way (s : Store) (c : Contract) (n : String) (hn : n ∉ Mode.listed.map Mode.name)
    (hdeclared : ¬s.Declares c (.ofName n)) :
    MeetsTwoWay s c n ∧ (¬s.Declares c .both → MeetsNothing s c n) := by
  have hmode : Mode.ofName n = .unlisted n := Mode.ofName_of_not_listed hn
  have hbase : (Mode.ofName n).base = .ofName n := by rw [hmode]; rfl
  have hheld : ∀ p ∈ s.paramsOf c, p.mode ≠ (Mode.ofName n).base := by
    rw [hbase]
    exact fun p => mode_ne_of_held hdeclared
  have hconvertible : ∀ p ∈ (s.convertible c).map s.param, p.mode ≠ (Mode.ofName n).base := by
    rw [hbase]
    exact fun p => mode_ne_of_convertible hdeclared
  refine ⟨{ coercion_refused := fun around source options w => ?_
            none_selected := fun withOptional withInternal => ?_
            validation_refused := fun hother find room context locale? isRecorded t => ?_
            validation_of_base := fun d hd hname find room context => ?_
            required_eq := requiredCount_eq hdeclared
            optional_eq := optionalCount_eq hdeclared
            defaults_eq := fun around => applyDefaults_eq_both hheld
            conversion_eq := fun around locale? zone? => convertFlagged_eq_both hconvertible
            defaults_write := fun around => ?_
            conversion_writes := fun around locale? zone? => ?_ }, fun hboth => ?_⟩
  · rw [hmode]
    rfl
  · rw [hmode]
    rfl
  · rw [validateWith, direction?_ofName_eq_none hother, Mode.name_ofName]
    rfl
  · funext locale? isRecorded
    rw [validateWith, validateWith, direction?_ofName hd hname, direction?_plain hd]
  · rw [applyDefaults_eq_both hheld]
    exact writesOnly_applyDefaults
  · rw [convertFlagged_eq_both hconvertible]
    exact writesOnly_convertFlagged
  · refine ⟨(requiredCount_eq hdeclared).trans (requiredCount_eq_zero hboth),
      (optionalCount_eq hdeclared).trans (optionalCount_eq_zero hboth), fun around => ?_,
      fun around locale? zone? => ?_⟩
    · rw [applyDefaults_eq_both hheld]
      exact leavesEntries_applyDefaults fun p => mode_ne_of_held hboth
    · rw [convertFlagged_eq_both hconvertible]
      exact leavesEntries_convertFlagged fun p => mode_ne_of_convertible hboth

/-! ## 6. An example -/

namespace Toggle

-- A service that takes a flag and gives it back.
def flag : Param := { name := "flag", type := "Boolean", mode := .both, default := .value (.bool true) }

def contract : Contract := { info := { name := "toggle" }, params := [("flag", 0)] }

def store : Store := { params := #[flag], contracts := #[contract] }

def given : Value := .ofEntries [("flag", .bool false)]

def room : Room := .ofPlaces 1000

def around : Surroundings := { World.ofRoom room with }

end Toggle

-- A made-up name is counted as both directions, and its part before the hyphen decides what is validated.
theorem unlisted_mode_meets_two_way_sample :
    Toggle.store.requiredCount Toggle.contract (.ofName "IN-OUT") = Toggle.store.requiredCount Toggle.contract .both ∧
      validateWith Markup.find? Toggle.room Toggle.store Toggle.contract Toggle.given (.ofName "IN-OUT") none true {}
        = validateWith Markup.find? Toggle.room Toggle.store Toggle.contract Toggle.given .input none true {} := by
  have hdeclared : ¬Toggle.store.Declares Toggle.contract (.ofName "IN-OUT") := by
    rintro ⟨id, hid, hmode⟩
    simp [Toggle.contract, Contract.paramIds, Entries.values, Store.convertible, Toggle.store, Store.param,
      Toggle.flag] at hid
    subst hid
    revert hmode
    decide
  obtain ⟨hmeets, -⟩ := unlisted_mode_meets_two_way Toggle.store Toggle.contract "IN-OUT" (by decide) hdeclared
  exact ⟨hmeets.required_eq,
    congrFun (congrFun (congrFun (hmeets.validation_of_base .input (by decide) (by decide) _ _ _) none) true) {}⟩

/-- A name that is no mode passes validation, counts a parameter and has a default written. -/
theorem unlisted_mode_taken_for_direction :
    "IN-X" ∉ Mode.listed.map Mode.name ∧
      validateWith Markup.find? Toggle.room Toggle.store Toggle.contract Toggle.given (.ofName "IN-X") none true {}
        = .ok () {} ∧
      Toggle.store.requiredCount Toggle.contract (.ofName "IN-X") = 1 ∧
      (leftBy (applyDefaults Toggle.around Toggle.store Toggle.contract (.ofName "IN-X") {})).entries
        = [("flag", .bool true)] :=
  ⟨by decide, rfl, rfl, rfl⟩

end CallContract
