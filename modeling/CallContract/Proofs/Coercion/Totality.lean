import CallContract.Proofs.Coercion.Visits

/-!
# Totality — when coercion goes through

Before the parameters are visited, the locale and the zone may be read from the context.  Both parts go through unless
they come to a value that neither converts nor can be told in a failure.
-/

namespace CallContract.Coercion

open CallContract.Calendar CallContract.Conversion Context

/-! ## 1. Locale and zone -/

-- A reading: a value with what a converter gives for it.
abbrev Reading := Value × Except Fault Value

/-- The reading of the value under a key, if it is there. -/
def readings (key : String) (read : Option String → Value → Except Fault Value) (m : Entries Value) : List Reading :=
  (present? key m).toList.map fun v => (v, read (some key) v)

/-- The readings of the locale and the zone, as far as they are not given. -/
def guidanceReadings (world : World) (locale? : Option Locale) (zone? : Option Zone) (m : Entries Value) :
    List Reading :=
  (if locale?.isSome then [] else readings Mode.localeKey (toLocale world.room) m)
    ++ (if zone?.isSome then [] else readings Mode.timeZoneKey (toTimeZone world) m)

/-- The failures that readings give. -/
def mismatches (rs : List Reading) : List Mismatch :=
  rs.filterMap fun r => match r.2 with
    | .error (.mismatch m) => some m
    | _ => none

/-- The work after the failures of readings, which belong to no service. -/
def noted (rs : List Reading) (w : ContextWork) : ContextWork :=
  (mismatches rs).foldl (fun w m => noteFailure none m w) w

/-- A value that is read converts or has a mismatch. -/
def IsTold (r : Reading) : Prop := ∀ f, r.2 = .error f → f.isMismatch = true

/-- What is carried under a key, if it can be read. -/
def carriedValue {α : Type} (key : String) (read : Option String → Value → Except Fault Value)
    (pick? : Value → Option α) (substitute : α) (m : Entries Value) : α :=
  ((readings key read m).findSome? fun r => r.2.toOption.bind pick?).getD substitute

/-- The locale and the zone to convert by. -/
def chosen (around : Surroundings) (locale? : Option Locale) (zone? : Option Zone) (m : Entries Value) :
    Locale × Zone :=
  (locale?.getD (carriedValue Mode.localeKey (toLocale around.room) Value.locale? around.settings.locale m),
    zone?.getD (carriedValue Mode.timeZoneKey (toTimeZone around.toWorld) Value.zone?
      (around.settings.timeZone around.toWorld) m))

section

variable {α : Type} {key : String} {read : Option String → Value → Except Fault Value} {pick? : Value → Option α}
  {substitute : α} {m : Entries Value} {w : ContextWork} {rs : List Reading}

theorem noted_append (rs rs' : List Reading) (w : ContextWork) : noted (rs ++ rs') w = noted rs' (noted rs w) := by
  simp [noted, mismatches]

-- Noting failures leaves alone what noting one of them leaves alone.
theorem noted_kept {β : Type} {part : ContextWork → β} (h : ∀ m w, part (noteFailure none m w) = part w)
    (rs : List Reading) (w : ContextWork) : part (noted rs w) = part w := by
  rw [noted]
  induction mismatches rs generalizing w with
  | nil => rfl
  | cons m rest ih => exact (ih (noteFailure none m w)).trans (h m w)

theorem entries_noted (rs : List Reading) (w : ContextWork) : (noted rs w).entries = w.entries :=
  noted_kept (fun _ _ => rfl) rs w

theorem access_noted (rs : List Reading) (w : ContextWork) : (noted rs w).access = w.access :=
  noted_kept (fun _ _ => rfl) rs w

-- One reading: it gives what was read, or null after its failure has been noted.
theorem orElseNoting_spec (hpick : pick? .null = none) (r : Reading) (w : ContextWork) :
    (IsTold r ∧ ∃ u, orElseNoting none .null r.2 w = .ok u (noted [r] w) ∧ pick? u = r.2.toOption.bind pick?) ∨
      ∃ f, r.2 = .error f ∧ f.isMismatch = false ∧ orElseNoting none .null r.2 w = .error (.conversion f) w := by
  obtain ⟨v, result⟩ := r
  cases result with
  | ok u => exact .inl ⟨nofun, u, rfl, rfl⟩
  | error f =>
    cases f with
    | mismatch e =>
      refine .inl ⟨fun f hf => ?_, .null, rfl, hpick⟩
      cases hf
      rfl
    | _ => exact .inr ⟨_, rfl, rfl, rfl⟩

theorem carried_spec (hpick : pick? .null = none) (m : Entries Value) (w : ContextWork) :
    ((∀ r ∈ readings key read m, IsTold r) ∧ carried key read pick? substitute m w
        = .ok (carriedValue key read pick? substitute m) (noted (readings key read m) w)) ∨
      ∃ r ∈ readings key read m, ∃ f, r.2 = .error f ∧ f.isMismatch = false ∧
        carried key read pick? substitute m w = .error (.conversion f) w := by
  unfold carried carriedValue readings
  cases hpresent : present? key m with
  | none => exact .inl ⟨by simp, rfl⟩
  | some v =>
    dsimp only [Option.toList_some, List.map_cons, List.map_nil]
    rcases orElseNoting_spec hpick (v, read (some key) v) w with ⟨htold, u, hu, hpicked⟩ | ⟨f, hf, hmismatch, herror⟩
    · refine .inl ⟨by simpa using htold, ?_⟩
      rw [bind_of_ok hu, hpicked]
      cases hvalue : (read (some key) v).toOption.bind pick? <;> simp [hvalue] <;> rfl
    · exact .inr ⟨_, List.mem_singleton_self _, f, hf, hmismatch, bind_of_error herror⟩

-- What is given, or else carried by the context that `source` reads.
theorem givenOr_spec (given? : Option α) (key : String) (read : Option String → Value → Except Fault Value)
    (substitute : α) {source : ContextAction (Entries Value)} (hpick : pick? .null = none)
    (hsource : source w = .ok m w) :
    let found := givenOr given? do carried key read pick? substitute (← source)
    let rs := if given?.isSome then [] else readings key read m
    ((∀ r ∈ rs, IsTold r) ∧ found w = .ok (given?.getD (carriedValue key read pick? substitute m)) (noted rs w)) ∨
      ∃ r ∈ rs, ∃ f, r.2 = .error f ∧ f.isMismatch = false ∧ found w = .error (.conversion f) w := by
  cases given? with
  | some a => exact .inl ⟨by simp, rfl⟩
  | none =>
    simp only [givenOr, Option.isSome_none, Bool.false_eq_true, if_false, Option.getD_none, bind_of_ok hsource]
    exact carried_spec hpick m w

/-- The locale and the zone are found, unless a value that is read can neither be used nor be told. -/
theorem guidance_spec {around : Surroundings} {locale? : Option Locale} {zone? : Option Zone}
    {source : ContextAction (Entries Value)}
    (hsource : ∀ w', w'.entries = w.entries → w'.access = w.access → source w' = .ok m w') :
    ((∀ r ∈ guidanceReadings around.toWorld locale? zone? m, IsTold r) ∧ guidance around locale? zone? source w
        = .ok (chosen around locale? zone? m) (noted (guidanceReadings around.toWorld locale? zone? m) w)) ∨
      ∃ r ∈ guidanceReadings around.toWorld locale? zone? m, ∃ f w', r.2 = .error f ∧ f.isMismatch = false ∧
        guidance around locale? zone? source w = .error (.conversion f) w' := by
  have hpick : Value.locale? .null = none := rfl
  have hlocale :=
    givenOr_spec locale? Mode.localeKey (toLocale around.room) around.settings.locale hpick (hsource w rfl rfl)
  rw [guidanceReadings]
  rcases hlocale with ⟨htold, hok⟩ | ⟨r, hr, f, hf, hmismatch, herror⟩
  · let w₁ := noted (if locale?.isSome then [] else readings Mode.localeKey (toLocale around.room) m) w
    have hpick : Value.zone? .null = none := rfl
    have hzone := givenOr_spec zone? Mode.timeZoneKey (toTimeZone around.toWorld)
      (around.settings.timeZone around.toWorld) hpick (hsource w₁ (entries_noted _ w) (access_noted _ w))
    rcases hzone with ⟨htold₂, hok₂⟩ | ⟨r, hr, f, hf, hmismatch, herror⟩
    · left
      refine ⟨fun r hr => ?_, ?_⟩
      · rcases List.mem_append.mp hr with hr | hr
        · exact htold r hr
        · exact htold₂ r hr
      · rw [noted_append]
        exact (bind_of_ok hok).trans (bind_of_ok hok₂)
    · exact .inr ⟨r, List.mem_append_right _ hr, f, w₁, hf, hmismatch,
        (bind_of_ok hok).trans (bind_of_error herror)⟩
  · exact .inr ⟨r, List.mem_append_left _ hr, f, w, hf, hmismatch, bind_of_error herror⟩

end

/-! ## 2. How coercion ends -/

def Fails (r : Except Fault Value) : Prop := ∃ f, r = .error f

/-- How coercion of parameters ends that reads a locale and a zone first. -/
structure Ends (plan : Plan) (rs : List Reading) (ps : List Param) (w : ContextWork)
    (r : EStateM.Result ContextFault ContextWork Unit) : Prop where
  /-- It returns unless a value does not convert that is too long or too deep to be told, or that its converter cannot
  judge. -/
  returns_iff : (∃ w', r = .ok () w') ↔
    (∀ reading ∈ rs, Fails reading.2 → reading.1.canBeWritten plan.around.room = true) ∧
      ∀ p w₁ v, plan.Reaches ps (noted rs w) p w₁ → plan.met? p w₁.entries = some v → Fails (plan.convert p v) →
        isUnjudged plan.around.toWorld p.type v = false
  /-- When it returns, every parameter has been visited. -/
  visits : ∀ w', r = .ok () w' → plan.Visits ps (noted rs w) w'
  /-- Otherwise the fault is that of the value. -/
  faults : ∀ fault w', r = .error fault w' → ∃ f, fault = .conversion f ∧ f.isMismatch = false

section

variable {plan : Plan} {rs : List Reading} {ps : List Param} {p : Param} {w w' w₁ : ContextWork} {v : Value}
  {r : EStateM.Result ContextFault ContextWork Unit} {f : Fault}

theorem isUnjudged_of_convert (h : plan.convert p v = .error f) :
    f.isMismatch = !isUnjudged plan.around.toWorld p.type v := (error_of_convert h).2.1

-- Where no value stops the visits, those that do not convert can be judged.
theorem judged_of_not_stops (h : ¬∃ f, plan.Stops p w f) (hmet : plan.met? p w.entries = some v)
    (hfails : Fails (plan.convert p v)) : isUnjudged plan.around.toWorld p.type v = false := by
  obtain ⟨f, hf⟩ := hfails
  cases hmismatch : f.isMismatch with
  | true => simpa [hmismatch] using isUnjudged_of_convert hf
  | false => exact absurd ⟨f, hmismatch, v, hmet, hf⟩ h

theorem ends_of_visits
    (hreadings : ∀ reading ∈ rs, Fails reading.2 → reading.1.canBeWritten plan.around.room = true)
    (hvisits : plan.Visits ps (noted rs w) w') : Ends plan rs ps w (.ok () w') where
  returns_iff := by
    refine ⟨fun _ => ⟨hreadings, fun p w₁ v hreach hmet => ?_⟩, fun _ => ⟨w', rfl⟩⟩
    apply judged_of_not_stops _ hmet
    rintro ⟨f, hstops⟩
    exact hvisits.not_stops hreach hstops
  visits := by
    rintro w'' h
    cases h
    exact hvisits
  faults := nofun

theorem ends_of_stops (hreach : plan.Reaches ps (noted rs w) p w₁) (hstops : plan.Stops p w₁ f) :
    Ends plan rs ps w (.error (.conversion f) w₁) where
  returns_iff := by
    refine ⟨nofun, fun h => ?_⟩
    obtain ⟨v, hmet, hconvert⟩ := hstops.meets
    have hjudged := h.2 p w₁ v hreach hmet ⟨f, hconvert⟩
    have hmismatch := isUnjudged_of_convert hconvert
    rw [hstops.not_mismatch, hjudged] at hmismatch
    cases hmismatch
  visits := nofun
  faults := by
    rintro fault w'' h
    cases h
    exact ⟨f, rfl, hstops.not_mismatch⟩

theorem ends_of_untold {reading : Reading} (hr : reading ∈ rs) (hf : reading.2 = .error f)
    (hfit : reading.1.canBeWritten plan.around.room = false) (hmismatch : f.isMismatch = false) :
    Ends plan rs ps w (.error (.conversion f) w') where
  returns_iff := by
    refine ⟨nofun, fun h => ?_⟩
    have htold := h.1 reading hr ⟨f, hf⟩
    rw [hfit] at htold
    cases htold
  visits := nofun
  faults := by
    rintro fault w'' h
    cases h
    exact ⟨f, rfl, hmismatch⟩

end

-- What keeps a locale or a zone from being told is the same for both.
theorem isMismatch_of_reading {world : World} {locale? : Option Locale} {zone? : Option Zone} {m : Entries Value}
    {r : Reading} {f : Fault} (hr : r ∈ guidanceReadings world locale? zone? m) (hf : r.2 = .error f) :
    f.isMismatch = r.1.canBeWritten world.room := by
  have hof : ∀ (key : String) (read : Option String → Value → Except Fault Value),
      (∀ field? v, read field? v = .error f → f.isMismatch = v.canBeWritten world.room) → r ∈ readings key read m →
        f.isMismatch = r.1.canBeWritten world.room := by
    intro key read hread hmem
    obtain ⟨v, -, rfl⟩ := List.mem_map.mp hmem
    exact hread (some key) v hf
  rcases List.mem_append.mp hr with hr | hr
  · split at hr
    · cases hr
    · exact hof _ _ (fun field? v h => isMismatch_toLocale h) hr
  · split at hr
    · cases hr
    · exact hof _ _ (fun field? v h => isMismatch_toTimeZone h) hr

theorem ends_of_follows {around : Surroundings} {locale? : Option Locale} {zone? : Option Zone}
    {source : ContextAction (Entries Value)} {m : Entries Value} {w : ContextWork} {planOf : Locale × Zone → Plan}
    {action : Locale × Zone → Param → ContextAction Unit} (hfollows : ∀ g, (planOf g).Follows (action g))
    (haround : ∀ g, (planOf g).around = around)
    (hsource : ∀ w', w'.entries = w.entries → w'.access = w.access → source w' = .ok m w')
    (hw : w.access = .writable) (ps : List Param) :
    Ends (planOf (chosen around locale? zone? m)) (guidanceReadings around.toWorld locale? zone? m) ps w
      ((guidance around locale? zone? source >>= fun g => ps.forM (action g)) w) := by
  rcases guidance_spec hsource with
    ⟨htold, hguidance⟩ | ⟨r, hr, f, w', hf, hmismatch, hguidance⟩
  · rw [bind_of_ok hguidance]
    rcases (hfollows (chosen around locale? zone? m)).run ps ((access_noted _ w).trans hw) with
      ⟨w', hrun, hvisits⟩ | ⟨p, w₁, f, hreach, hstops, hrun⟩
    · rw [hrun]
      refine ends_of_visits (fun r hr ⟨f, hf⟩ => ?_) hvisits
      rw [haround, ← isMismatch_of_reading hr hf]
      exact htold r hr f hf
    · rw [hrun]
      exact ends_of_stops hreach hstops
  · rw [bind_of_error hguidance]
    refine ends_of_untold hr hf ?_ hmismatch
    rw [haround, ← isMismatch_of_reading hr hf, hmismatch]

/-! ## 3. Both kinds of coercion -/

theorem fill_ends (around : Surroundings) (s : Store) (c : Contract) (mode : Mode) (source : Source)
    (options : Options) (w : ContextWork) (hmode : mode.isListed = true) (hsource : source.IsMap)
    (hw : w.access = .writable) :
    let m := source.entriesIn w.entries
    Ends (filling around c.name options source (chosen around options.locale? options.zone? m))
      (guidanceReadings around.toWorld options.locale? options.zone? m)
      ((candidates s c mode).filter (isTaken options mode.base)) w
      (fill around s c mode source options w) := by
  have hread : ∀ w', w'.entries = w.entries → w'.access = w.access →
      source.entries w' = .ok (source.entriesIn w.entries) w' := by
    intro w' hentries haccess
    rw [← hentries]
    exact entries_of_isMap hsource (haccess.trans hw)
  have hfill : fill around s c mode source options w
      = (guidance around options.locale? options.zone? source.entries >>= fun g =>
          ((candidates s c mode).filter (isTaken options mode.base)).forM
            (takeParam around c.name options g.1 g.2 source)) w := by
    rw [fill, hmode]
    rfl
  have hfollows : ∀ g : Locale × Zone, (filling around c.name options source g).Follows
      (takeParam around c.name options g.1 g.2 source) := fun _ => follows_takeParam hsource
  rw [hfill]
  exact ends_of_follows hfollows (fun _ => rfl) hread hw _

theorem convertFlagged_ends {around : Surroundings} {s : Store} {c : Contract} {mode : Mode} {locale? : Option Locale}
    {zone? : Option Zone} {w : ContextWork} (hw : w.access = .writable) :
    Ends (inPlace around c.name (chosen around locale? zone? w.entries))
      (if (s.convertible c).isEmpty then [] else guidanceReadings around.toWorld locale? zone? w.entries)
      (((s.convertible c).map s.param).filter fun p => p.mode.takesPartIn mode.base) w
      (convertFlagged around s c mode locale? zone? w) := by
  have hread : ∀ w', w'.entries = w.entries → w'.access = w.access → Context.read w' = .ok w.entries w' := by
    intro w' hentries haccess
    rw [← hentries]
    exact read_of_writable (haccess.trans hw)
  have hfollows : ∀ g : Locale × Zone, (inPlace around c.name g).Follows (convertInPlace around c.name g.1 g.2) :=
    fun _ => follows_convertInPlace
  rw [convertFlagged, List.isEmpty_map]
  cases hempty : (s.convertible c).isEmpty with
  | true =>
    rw [List.isEmpty_iff.mp hempty]
    exact ends_of_visits nofun (.nil w)
  | false => exact ends_of_follows hfollows (fun _ => rfl) hread hw _

namespace Sample

-- A service that takes a timestamp.
def param : Param := { name := "due", type := "Timestamp" }

def contract : Contract := { info := { name := "remind" }, params := [("due", 0)] }

def store : Store := { params := #[param], contracts := #[contract] }

def around : Surroundings := { World.ofRoom (.ofPlaces 1000) with }

def source (due : Value) : Source := .value (.ofEntries [("due", due)])

def work : ContextWork := Context.begin (.ofEntries []) 0

end Sample

end CallContract.Coercion
