import CallContract.Proofs.Coercion.Filled
import CallContract.Proofs.Copying
import CallContract.Proofs.Validation.Missing
import Mathlib.Data.List.Nodup

/-!
# Defaults — filling exactly the gaps of a context

A gap is a parameter of the direction that has a default and finds no value in the context.  Every gap gets a copy of
its default, and nothing else changes, unless a default cannot be copied or, where defaults are recorded, written.  What
validation finds missing afterwards is what is required, has no default and had no value before.
-/

namespace CallContract.Coercion

open Context Validation

/-! ## 1. Gaps -/

/-- The parameters of a direction that have a default. -/
def defaulted (s : Store) (c : Contract) (d : Direction) : List Param :=
  (s.paramsOf c).filter fun p => p.mode.takesPartIn (.plain d) && !p.default.isMissing

/-- The context has no value for a parameter. -/
def IsGap (p : Param) (w : ContextWork) : Prop := present? p.name w.entries = none

/-- Whether the defaults that are applied are recorded. -/
def recordsDefaults (settings : Settings) (c : Contract) : Bool :=
  (settings.logsDefaults || c.info.debug) && !c.isQuiet

/-- A default can be applied: there is no read-only map in it and room for a copy and, if it is recorded, it can be
written. -/
structure IsUsable (room : Room) (isRecorded : Bool) (v : Value) : Prop where
  changeable : ∀ entries, ¬Value.Occurs (.map true entries) v
  fits : v.fits room .copying = true
  writable : isRecorded = true → v.canBeWritten room = true

/-- A gap whose default cannot be applied. -/
structure IsBlocked (room : Room) (isRecorded : Bool) (p : Param) (w : ContextWork) : Prop where
  gap : IsGap p w
  unusable : ∃ v, p.default = .value v ∧ ¬IsUsable room isRecorded v

/-- Applies the default of a parameter if the context has no value for it. -/
def fillGap (room : Room) (isRecorded : Bool) (service : String) (p : Param) : ContextAction Unit := do
  if (present? p.name (← Context.read)).isNone then applyDefault room isRecorded service p

/-- Only gaps are written to: a key that has a value, or is the name of no parameter, is as it was. -/
def Spares (ps : List Param) (w w' : ContextWork) : Prop :=
  ∀ key, ((present? key w.entries).isSome ∨ ∀ p ∈ ps, p.name ≠ key) →
    Entries.get? key w'.entries = Entries.get? key w.entries

/-- The gaps among parameters have been filled, and nothing else has been written to. -/
structure Supplied (room : Room) (ps : List Param) (w w' : ContextWork) : Prop where
  access_eq : w'.access = w.access
  spares : Spares ps w w'
  copied : ∀ p ∈ ps, IsGap p w →
    ∃ v u, p.default = .value v ∧ v.copy room = .ok u ∧ present? p.name w'.entries = some u

/-- Why a default is not applied. -/
inductive IsDefaultFault : ContextFault → Prop
  | notCopied (fault : Value.CopyFault) : IsDefaultFault (.default (.notCopied fault))
  | notWritten (reason : Value.Unwritten) : IsDefaultFault (.conversion (Fault.ofUnwritten reason))

section

variable {room : Room} {ps rest : List Param} {p : Param} {w w₁ w' : ContextWork} {v u : Value} {isRecorded : Bool}
  {service : String}

theorem present?_congr {key : String} {m m' : Entries Value} (h : Entries.get? key m' = Entries.get? key m) :
    present? key m' = present? key m := by rw [present?, present?, h]

theorem Spares.refl (ps : List Param) (w : ContextWork) : Spares ps w w := fun _ _ => rfl

theorem Spares.cons (h : Spares [p] w w₁) (hrest : Spares rest w₁ w') : Spares (p :: rest) w w' := by
  intro key hkey
  have hfirst : Entries.get? key w₁.entries = Entries.get? key w.entries :=
    h key (hkey.imp_right fun hne => by simpa using hne p List.mem_cons_self)
  rw [hrest key, hfirst]
  rw [present?_congr hfirst]
  exact hkey.imp_right fun hne q hq => hne q (List.mem_cons_of_mem p hq)

-- What fails later has spared what comes before.
theorem Spares.mono (h : Spares ps w w') (hps : ∀ p ∈ ps, p ∈ rest) : Spares rest w w' :=
  fun key hkey => h key (hkey.imp_right fun hne p hp => hne p (hps p hp))

/-! ## 2. One parameter -/

theorem spares_put (hgap : IsGap p w) (u : Value) (journal : Journal) :
    Spares [p] w { w with entries := Entries.put p.name u w.entries, journal } := by
  intro key hkey
  have hne : p.name ≠ key := by
    rintro rfl
    rcases hkey with hpresent | hother
    · rw [hgap] at hpresent
      cases hpresent
    · exact hother p List.mem_cons_self rfl
  exact (Entries.get?_put p.name key u w.entries).trans (if_neg hne)

theorem supplied_put (hgap : IsGap p w) (hvalue : p.default = .value v) (hsome : v.isNull = false)
    (hcopy : v.copy room = .ok u) (journal : Journal) :
    Supplied room [p] w { w with entries := Entries.put p.name u w.entries, journal } where
  access_eq := rfl
  spares := spares_put hgap u journal
  copied q hq _ := by
    cases List.mem_singleton.mp hq
    have hnull : u.isNull = false := (Value.isNull_of_copy hcopy).trans hsome
    refine ⟨v, u, hvalue, hcopy, ?_⟩
    simp [present?, Entries.get?_put, hnull]

theorem supplied_of_present (hpresent : ∀ p ∈ ps, ¬IsGap p w) : Supplied room ps w w :=
  ⟨rfl, .refl ps w, fun p hp hgap => absurd hgap (hpresent p hp)⟩

theorem applyDefault_of_not_copied {fault : Value.CopyFault} (hvalue : p.default = .value v)
    (hcopy : v.copy room = .error fault) :
    applyDefault room isRecorded service p w = .error (.default (.notCopied fault)) w := by
  rw [applyDefault, get_bind, Param.produceDefault, hvalue]
  dsimp only
  rw [hcopy]
  rfl

/-- What is left to do when the default has been written to the context. -/
theorem applyDefault_of_copy (hw : w.access = .writable) (hvalue : p.default = .value v)
    (hcopy : v.copy room = .ok u) :
    applyDefault room isRecorded service p w = (if isRecorded then match u.written room with
        | .error reason => throw (.conversion (Fault.ofUnwritten reason))
        | .ok written => modify fun w => { w with journal := w.journal ++ [defaultRecord service p.name written] }
      else pure () : ContextAction Unit) { w with entries := Entries.put p.name u w.entries } := by
  rw [applyDefault, get_bind, Param.produceDefault, hvalue]
  dsimp only
  rw [hcopy]
  exact bind_of_ok (write_of_writable hw)

theorem fillGap_of_gap (hw : w.access = .writable) (hgap : IsGap p w) :
    fillGap room isRecorded service p w = applyDefault room isRecorded service p w := by
  rw [fillGap, bind_of_ok (read_of_writable hw), hgap]
  rfl

theorem fillGap_of_present (hw : w.access = .writable) (hpresent : ¬IsGap p w) :
    fillGap room isRecorded service p w = .ok () w := by
  rw [fillGap, bind_of_ok (read_of_writable hw), if_neg (by simpa [IsGap] using hpresent)]
  rfl

-- A default can be applied when there is a copy of it and, if it is recorded, the copy can be written.
theorem isUsable_iff : IsUsable room isRecorded v ↔
    ∃ u, v.copy room = .ok u ∧ (isRecorded = true → ∃ written, u.written room = .ok written) := by
  have hwritten : ∀ u, v.copy room = .ok u →
      ((∃ written, u.written room = .ok written) ↔ v.canBeWritten room = true) := by
    intro u hcopy
    rw [Value.exists_written_iff, Value.canBeWritten_of_copy hcopy]
  constructor
  · rintro ⟨hchangeable, hfits, hwritable⟩
    obtain ⟨u, hcopy⟩ := isOk_iff.mp ((Value.isOk_copy_iff room v).mpr ⟨hchangeable, hfits⟩)
    exact ⟨u, hcopy, fun hrecorded => (hwritten u hcopy).mpr (hwritable hrecorded)⟩
  · rintro ⟨u, hcopy, hrecorded⟩
    obtain ⟨hchangeable, hfits⟩ := (Value.isOk_copy_iff room v).mp (isOk_iff.mpr ⟨u, hcopy⟩)
    exact ⟨hchangeable, hfits, fun h => (hwritten u hcopy).mp (hrecorded h)⟩

/-- Applying the default of a gap fills it exactly if the default can be applied; in any case nothing else is written
to. -/
theorem applyDefault_spec (room : Room) (isRecorded : Bool) (service : String) (hw : w.access = .writable)
    (hgap : IsGap p w)
    (hvalue : p.default = .value v) (hsome : v.isNull = false) :
    (IsUsable room isRecorded v ∧ ∃ w', applyDefault room isRecorded service p w = .ok () w' ∧
        Supplied room [p] w w') ∨
      ¬IsUsable room isRecorded v ∧ ∃ fault w', applyDefault room isRecorded service p w = .error fault w' ∧
        IsDefaultFault fault ∧ Spares [p] w w' := by
  rw [isUsable_iff]
  cases hcopy : v.copy room with
  | error fault => exact .inr ⟨by simp, _, w, applyDefault_of_not_copied hvalue hcopy, .notCopied fault, .refl _ w⟩
  | ok u =>
    rw [applyDefault_of_copy hw hvalue hcopy]
    cases isRecorded with
    | false => exact .inl ⟨⟨u, rfl, by simp⟩, _, rfl, supplied_put hgap hvalue hsome hcopy _⟩
    | true =>
      rw [if_pos rfl]
      cases hwritten : u.written room with
      | error reason => exact .inr ⟨by simp [hwritten], _, _, rfl, .notWritten reason, spares_put hgap u _⟩
      | ok written =>
        exact .inl ⟨⟨u, rfl, fun _ => ⟨written, hwritten⟩⟩, _, rfl, supplied_put hgap hvalue hsome hcopy _⟩

/-- A parameter is filled where it has to be, unless it is blocked; in any case nothing else is written to. -/
theorem fillGap_spec (room : Room) (isRecorded : Bool) (service : String) (hw : w.access = .writable)
    (hdefault : ∃ v, p.default = .value v ∧ v.isNull = false) :
    (¬IsBlocked room isRecorded p w ∧ ∃ w', fillGap room isRecorded service p w = .ok () w' ∧
        Supplied room [p] w w') ∨
      IsBlocked room isRecorded p w ∧ ∃ fault w', fillGap room isRecorded service p w = .error fault w' ∧
        IsDefaultFault fault ∧ Spares [p] w w' := by
  obtain ⟨v, hvalue, hsome⟩ := hdefault
  by_cases hgap : IsGap p w
  · rw [fillGap_of_gap hw hgap]
    rcases applyDefault_spec room isRecorded service hw hgap hvalue hsome with
      ⟨husable, hfilled⟩ | ⟨hunusable, hstopped⟩
    · refine .inl ⟨?_, hfilled⟩
      rintro ⟨-, v', hvalue', hunusable⟩
      cases hvalue.symm.trans hvalue'
      exact hunusable husable
    · exact .inr ⟨⟨hgap, v, hvalue, hunusable⟩, hstopped⟩
  · exact .inl ⟨fun h => hgap h.gap, w, fillGap_of_present hw hgap, supplied_of_present (by simpa using hgap)⟩

/-! ## 3. All parameters -/

theorem Supplied.isGap_iff (h : Supplied room [p] w w₁) {q : Param} (hne : p.name ≠ q.name) :
    IsGap q w₁ ↔ IsGap q w := by
  have hsame : present? q.name w₁.entries = present? q.name w.entries :=
    present?_congr (h.spares q.name (.inr (by simpa using hne)))
  rw [IsGap, IsGap, hsame]

theorem Supplied.present_kept {key : String} (h : Supplied room ps w w') (hpresent : (present? key w.entries).isSome) :
    present? key w'.entries = present? key w.entries := present?_congr (h.spares key (.inl hpresent))

theorem Supplied.cons (h : Supplied room [p] w w₁) (hrest : Supplied room rest w₁ w')
    (hnew : p.name ∉ rest.map (·.name)) : Supplied room (p :: rest) w w' where
  access_eq := hrest.access_eq.trans h.access_eq
  spares := h.spares.cons hrest.spares
  copied q hq hgap := by
    rcases List.mem_cons.mp hq with rfl | hq
    · obtain ⟨v, u, hvalue, hcopy, hu⟩ := h.copied q List.mem_cons_self hgap
      refine ⟨v, u, hvalue, hcopy, ?_⟩
      rw [hrest.present_kept (by rw [hu]; rfl), hu]
    · have hne : p.name ≠ q.name := fun e => hnew (e ▸ List.mem_map_of_mem hq)
      exact hrest.copied q hq ((h.isGap_iff hne).mpr hgap)

-- Where there is no gap, nothing is done.
theorem forM_fillGap_of_present (room : Room) (isRecorded : Bool) (service : String) (hw : w.access = .writable)
    (hpresent : ∀ p ∈ ps, ¬IsGap p w) : ps.forM (fillGap room isRecorded service) w = .ok () w := by
  induction ps with
  | nil => rfl
  | cons p rest ih =>
    rw [forM_cons_of_ok (fillGap_of_present hw (hpresent p List.mem_cons_self))]
    exact ih fun q hq => hpresent q (List.mem_cons_of_mem p hq)

/-- The gaps among parameters are filled exactly if none is blocked; in any case nothing else is written to. -/
theorem forM_fillGap_spec (room : Room) (isRecorded : Bool) (service : String) (hw : w.access = .writable)
    (hnames : (ps.map (·.name)).Nodup) (hdefaults : ∀ p ∈ ps, ∃ v, p.default = .value v ∧ v.isNull = false) :
    ((∀ p ∈ ps, ¬IsBlocked room isRecorded p w) ∧
        ∃ w', ps.forM (fillGap room isRecorded service) w = .ok () w' ∧ Supplied room ps w w') ∨
      (∃ p ∈ ps, IsBlocked room isRecorded p w) ∧
        ∃ fault w', ps.forM (fillGap room isRecorded service) w = .error fault w' ∧ IsDefaultFault fault ∧
          Spares ps w w' := by
  induction ps generalizing w with
  | nil => exact .inl ⟨by simp, w, rfl, supplied_of_present (by simp)⟩
  | cons p rest ih =>
    obtain ⟨hnew, htail⟩ : p.name ∉ rest.map (·.name) ∧ (rest.map (·.name)).Nodup := List.nodup_cons.mp hnames
    have hrest : ∀ q ∈ rest, ∃ v, q.default = .value v ∧ v.isNull = false := fun q hq =>
      hdefaults q (List.mem_cons_of_mem p hq)
    rcases fillGap_spec room isRecorded service hw (hdefaults p List.mem_cons_self) with
      ⟨hfree, w₁, hok, hsupplied⟩ | ⟨hblocked, fault, w₁, herror, hfault, hspares⟩
    · -- The gaps of the others are those of before, since no two parameters have one name.
      have hgaps : ∀ q ∈ rest, (IsBlocked room isRecorded q w₁ ↔ IsBlocked room isRecorded q w) := by
        intro q hq
        have hne : p.name ≠ q.name := fun e => hnew (e ▸ List.mem_map_of_mem hq)
        have hgap := hsupplied.isGap_iff hne
        exact ⟨fun h => ⟨hgap.mp h.gap, h.unusable⟩, fun h => ⟨hgap.mpr h.gap, h.unusable⟩⟩
      rcases ih (hsupplied.access_eq.trans hw) htail hrest with
        ⟨hfrees, w', hok', hsupplied'⟩ | ⟨⟨q, hq, hblocked⟩, fault, w', herror, hfault, hspares⟩
      · refine .inl ⟨List.forall_mem_cons.mpr ⟨hfree, fun q hq hblocked => ?_⟩, w', (forM_cons_of_ok hok).trans hok',
          hsupplied.cons hsupplied' hnew⟩
        exact hfrees q hq ((hgaps q hq).mpr hblocked)
      · exact .inr ⟨⟨q, List.mem_cons_of_mem p hq, (hgaps q hq).mp hblocked⟩, fault, w',
          (forM_cons_of_ok hok).trans herror, hfault, hsupplied.spares.cons hspares⟩
    · exact .inr ⟨⟨p, List.mem_cons_self, hblocked⟩, fault, w₁, forM_cons_of_error herror, hfault,
        hspares.mono (by simp)⟩

end

/-! ## 4. The parameters of a contract -/

section

variable {around : Surroundings} {room : Room} {s : Store} {c : Contract} {mode : Mode} {d : Direction}
  {w w' : ContextWork} {p : Param}

/-- No default of a contract is worked out anew at every use. -/
def HasValues (s : Store) (c : Contract) : Prop := ∀ p ∈ s.paramsOf c, ∃ v, p.default = .value v

theorem applyDefaults_eq (hmode : mode.base = .plain d) :
    applyDefaults around s c mode
      = (defaulted s c d).forM (fillGap around.room (recordsDefaults around.settings c) c.name) := by
  rw [applyDefaults, hmode]
  exact forM_filter _ _ _

theorem nodup_defaulted (hc : s.HoldsByName c) : ((defaulted s c d).map (·.name)).Nodup :=
  (List.filter_sublist.map _).nodup hc.nodup

theorem default_of_defaulted (hvalues : HasValues s c) (hp : p ∈ defaulted s c d) :
    ∃ v, p.default = .value v ∧ v.isNull = false := by
  obtain ⟨hp, hdefault⟩ := List.mem_filter.mp hp
  obtain ⟨v, hv⟩ := hvalues p hp
  rw [hv, Bool.and_eq_true] at hdefault
  exact ⟨v, hv, by simpa [Default.isMissing] using hdefault.2⟩

/-- The required parameters of a direction that have neither a default nor a value. -/
def unfilled (s : Store) (c : Contract) (d : Direction) (m : Entries Value) : List String :=
  ((s.paramsOf c).filter fun p =>
    p.mode.takesPartIn (.plain d) && !p.optional && p.default.isMissing && (present? p.name m).isNone).map (·.name)

/-- What validation looks at when it is given a map. -/
def examining (find : Markup.Finder) (room : Room) (s : Store) (c : Contract) (d : Direction) (m : Entries Value)
    (locale? : Option Locale) : Subject :=
  { store := s, contract := c, direction := d, given := .ofEntries m, locale?, find, room }

theorem Supplied.present (h : Supplied room (defaulted s c d) w w') (hp : p ∈ defaulted s c d) :
    (present? p.name w'.entries).isSome := by
  by_cases hgap : IsGap p w
  · obtain ⟨v, u, -, -, hu⟩ := h.copied p hp hgap
    rw [hu]
    rfl
  · have hpresent : (present? p.name w.entries).isSome := Option.ne_none_iff_isSome.mp hgap
    rw [h.present_kept hpresent]
    exact hpresent

-- A parameter without a default shares its name with none that has one.
theorem Supplied.isGap_of_missing (h : Supplied room (defaulted s c d) w w') (hc : s.HoldsByName c)
    (hp : p ∈ s.paramsOf c) (hmissing : p.default.isMissing = true) :
    present? p.name w'.entries = present? p.name w.entries := by
  apply present?_congr
  refine h.spares p.name (.inr fun q hq hname => ?_)
  obtain ⟨hq, hdefault⟩ := List.mem_filter.mp hq
  cases List.inj_on_of_nodup_map hc.nodup hq hp hname
  simp [hmissing] at hdefault

theorem lacking_examining (h : Supplied room (defaulted s c d) w w') (hc : s.HoldsByName c) (find : Markup.Finder)
    (room' : Room) (locale? : Option Locale) :
    (examining find room' s c d w'.entries locale?).lacking = unfilled s c d w.entries := by
  have hcontext : (examining find room' s c d w'.entries locale?).context = w'.entries := rfl
  rw [Subject.lacking, Subject.taking, List.filter_filter, unfilled]
  congr 1
  apply List.filter_congr
  intro p hp
  change ((!p.optional && (present? p.name w'.entries).isNone) && p.mode.takesPartIn (.plain d)) = _
  cases hmissing : p.default.isMissing with
  | true =>
    rw [h.isGap_of_missing hc hp hmissing]
    cases p.optional <;> cases p.mode.takesPartIn (.plain d) <;> simp
  | false =>
    cases htakes : p.mode.takesPartIn (.plain d) with
    | false => simp
    | true =>
      have hpresent := h.present (List.mem_filter.mpr ⟨hp, by simp [htakes, hmissing]⟩)
      simp [Option.isNone_eq_false_iff.mpr hpresent]

end

/-- Exactly the gaps of a context have been filled. -/
structure Completes (around : Surroundings) (s : Store) (c : Contract) (d : Direction) (w w' : ContextWork) :
    Prop where
  /-- A key with a value is as before. -/
  values_kept : ∀ key, (present? key w.entries).isSome → Entries.get? key w'.entries = Entries.get? key w.entries
  /-- So is a key that no parameter of the direction with a default has. -/
  others_kept : ∀ key, (∀ p ∈ defaulted s c d, p.name ≠ key) →
    Entries.get? key w'.entries = Entries.get? key w.entries
  filled : ∀ p ∈ defaulted s c d, (present? p.name w'.entries).isSome
  copied : ∀ p ∈ defaulted s c d, IsGap p w →
    ∃ v u, p.default = .value v ∧ v.copy around.room = .ok u ∧ present? p.name w'.entries = some u
  again : ∀ around' mode, mode.base = .plain d → applyDefaults around' s c mode w' = .ok () w'
  /-- Unless it reports an error, validation finds missing what had neither a value nor a default. -/
  reported : ∀ find room mode locale? isRecorded t, direction? mode = some d →
    ¬(examining find room s c d w'.entries locale?).IsExempt →
    ReportsMissing (unfilled s c d w.entries)
      (validateWith find room s c (.ofEntries w'.entries) mode locale? isRecorded t)

theorem Supplied.completes {around : Surroundings} {s : Store} {c : Contract} {d : Direction} {w w' : ContextWork}
    (h : Supplied around.room (defaulted s c d) w w') (hc : s.HoldsByName c) (hw : w.access = .writable) :
    Completes around s c d w w' where
  values_kept key hpresent := h.spares key (.inl hpresent)
  others_kept key hother := h.spares key (.inr hother)
  filled _ hp := h.present hp
  copied := h.copied
  again around' mode hmode := by
    rw [applyDefaults_eq hmode]
    exact forM_fillGap_of_present _ _ _ (h.access_eq.trans hw) fun p hp => Option.ne_none_iff_isSome.mpr (h.present hp)
  reported find room mode locale? isRecorded t hmode hexempt := by
    rw [← lacking_examining h hc find room locale?]
    exact run_reports_missing hmode (given_ofEntries _).symm rfl hc hexempt t

/-- Applying defaults returns exactly if every default that is needed can be copied and, where defaults are recorded,
written, in the room there is.  When it returns, it has filled exactly the gaps of the context; otherwise it has changed
nothing but gaps. -/
theorem defaults_fill_gaps (around : Surroundings) (s : Store) (c : Contract) (mode : Mode) (d : Direction)
    (w : ContextWork) (hmode : mode.base = .plain d) (hc : s.HoldsByName c) (hvalues : HasValues s c)
    (hw : w.access = .writable) :
    ((∃ w', applyDefaults around s c mode w = .ok () w') ↔
        ∀ p ∈ defaulted s c d, ¬IsBlocked around.room (recordsDefaults around.settings c) p w) ∧
      (∀ w', applyDefaults around s c mode w = .ok () w' → Completes around s c d w w') ∧
      ∀ fault w', applyDefaults around s c mode w = .error fault w' →
        IsDefaultFault fault ∧ Spares (defaulted s c d) w w' := by
  rw [applyDefaults_eq hmode]
  rcases forM_fillGap_spec around.room (recordsDefaults around.settings c) c.name hw (nodup_defaulted hc)
    fun p hp => default_of_defaulted hvalues hp with
    ⟨hfree, w', hok, hsupplied⟩ | ⟨⟨p, hp, hblocked⟩, fault, w', herror, hfault, hspares⟩
  · rw [hok]
    refine ⟨iff_of_true ⟨w', rfl⟩ hfree, fun w'' h => ?_, nofun⟩
    cases h
    exact hsupplied.completes hc hw
  · rw [herror]
    refine ⟨iff_of_false nofun fun h => h p hp hblocked, nofun, fun fault' w'' h => ?_⟩
    cases h
    exact ⟨hfault, hspares⟩

/-! ## 5. An example -/

namespace Booking

-- A service that books seats for a guest and says whether they are paid.
def seats : Param := { name := "seats", type := "Integer", default := .value (.int 1) }

def guest : Param := { name := "guest" }

def paid : Param := { name := "paid", type := "Boolean", mode := .both, default := .value (.bool true) }

def contract : Contract := { info := { name := "book" }, params := [("seats", 0), ("guest", 1), ("paid", 2)] }

def store : Store := { params := #[seats, guest, paid], contracts := #[contract] }

theorem holdsByName : store.HoldsByName contract :=
  ⟨by simp [contract, store, Store.param, seats, guest, paid], by simp [contract, Entries.keys]⟩

def work : ContextWork := Context.begin (.ofEntries [("paid", .bool false), ("seats", .null)]) 0

-- The limits of a service, which nobody may change.
def limits : Param := { name := "limits", type := "Map", default := .value (.map true [("seats", .int 9)]) }

def limited : Contract := { info := { name := "limit" }, params := [("limits", 0)] }

def limitedStore : Store := { params := #[limits], contracts := #[limited] }

end Booking

-- A falsy value stays, an explicit null is filled, and the guest is missing.
theorem defaults_fill_gaps_sample :
    ∃ w', applyDefaults Sample.around Booking.store Booking.contract (.system .input) Booking.work = .ok () w' ∧
      w'.entries = [("paid", .bool false), ("seats", .int 1)] ∧
      applyDefaults Sample.around Booking.store Booking.contract (.system .input) w' = .ok () w' ∧
      ∃ v t, validateWith Markup.find? Sample.around.room Booking.store Booking.contract (.ofEntries w'.entries) .input
        none true {} = .error (.violation v) t ∧ v.check = .required ∧ v.names = [.text "guest"] := by
  have hvalues : HasValues Booking.store Booking.contract := by
    simp [HasValues, Store.paramsOf, Contract.paramIds, Entries.values, Booking.contract, Booking.store, Store.param,
      Booking.seats, Booking.guest, Booking.paid]
  have hfill := defaults_fill_gaps Sample.around Booking.store Booking.contract (.system .input) .input Booking.work rfl
    Booking.holdsByName hvalues rfl
  have hcompletes := hfill.2.1 _ rfl
  have hreports := hcompletes.reported Markup.find? Coercion.Sample.around.room .input none true {} rfl
    (by simp [Subject.IsExempt, examining])
  refine ⟨_, rfl, rfl, hcompletes.again Sample.around (.system .input) rfl, ?_⟩
  obtain ⟨v, t, hresult, hcheck⟩ := hreports.reported_iff.mpr (by decide)
  exact ⟨v, t, hresult, hcheck, hreports.names_eq v t hresult hcheck⟩

/-- A read-only map cannot be copied, so that the gap stays although its parameter has a default. -/
theorem read_only_default_escapes :
    Booking.limits ∈ defaulted Booking.limitedStore Booking.limited .input ∧
      ∃ w', applyDefaults Sample.around Booking.limitedStore Booking.limited .input (Context.begin (.ofEntries []) 0)
        = .error (.default (.notCopied .readOnlyMap)) w' ∧ IsGap Booking.limits w' :=
  ⟨List.mem_singleton.mpr rfl, _, rfl, rfl⟩

end CallContract.Coercion
