import CallContract.Proofs.Coercion.Totality
import CallContract.Proofs.Naming

/-!
# Filled — what a fresh target holds

When values are taken from one map under the names of their parameters, the visits leave nothing open: the target holds
the parameters that the map has, in their order, each with its converted value or the value itself or else with
what stands in for it, and the failures are those of the values that did not convert.
-/

namespace CallContract.Coercion

open CallContract.Conversion Context

namespace Plan

/-- Parameters are met under their names in one map, and nothing stands in for them. -/
structure ReadsFrom (plan : Plan) (m : Entries Value) (ps : List Param) : Prop where
  met_eq : ∀ p target, plan.met? p target = Entries.get? p.name m
  instead_eq : ∀ p ∈ ps, ∀ target, plan.instead? p target = none
  key_eq : ∀ p, plan.key p = p.name

/-- Parameters are met under their names in one map, and what stands in for them does not depend on the target. -/
structure DrawsFrom (plan : Plan) (m : Entries Value) (stand? : Param → Option Value) (ps : List Param) : Prop where
  met_eq : ∀ p target, plan.met? p target = Entries.get? p.name m
  instead_eq : ∀ p ∈ ps, ∀ target, plan.instead? p target = stand? p
  key_eq : ∀ p, plan.key p = p.name

variable (plan : Plan) (m : Entries Value)

/-- What is written for a value: what it converts to, or else the value itself. -/
def result (p : Param) (v : Value) : Value :=
  match plan.convert p v with
  | .ok u => u
  | .error _ => v

/-- What is written for a parameter, if the map has it. -/
def written? (p : Param) : Option Value := (Entries.get? p.name m).map (plan.result p)

/-- The failure that a parameter adds, if its value does not convert. -/
def failure? (p : Param) : Option Mismatch :=
  (Entries.get? p.name m).bind fun v => match plan.convert p v with
    | .error (.mismatch e) => some e
    | _ => none

/-- What the target holds for a parameter: what is written for its value, or else what stands in for it. -/
def drawn? (stand? : Param → Option Value) (p : Param) : Option Value := (plan.written? m p).or (stand? p)

variable {plan m} {p : Param} {ps rest : List Param} {w w' : ContextWork} {v : Value} {stand? : Param → Option Value}

/-! ## 1. One parameter -/

theorem ReadsFrom.draws (h : plan.ReadsFrom m ps) : plan.DrawsFrom m (fun _ => none) ps :=
  ⟨h.met_eq, h.instead_eq, h.key_eq⟩

theorem DrawsFrom.tail (h : plan.DrawsFrom m stand? (p :: rest)) : plan.DrawsFrom m stand? rest :=
  ⟨h.met_eq, fun q hq => h.instead_eq q (List.mem_cons_of_mem p hq), h.key_eq⟩

theorem Visit.drawn (h : plan.DrawsFrom m stand? (p :: rest)) (hvisit : plan.Visit p w w')
    (hfresh : p.name ∉ Entries.keys w.entries) :
    w'.entries = w.entries ++ ((plan.drawn? m stand? p).map (p.name, ·)).toList ∧
      w'.failures = w.failures ++ (plan.failure? m p).toList := by
  have hput : ∀ u, Entries.put (plan.key p) u w.entries = w.entries ++ [(p.name, u)] := by
    intro u
    rw [h.key_eq]
    exact Entries.put_of_not_mem hfresh u
  cases hvisit with
  | converted hmet hconvert =>
    rw [h.met_eq] at hmet
    simp [put, hput, drawn?, written?, failure?, result, hmet, hconvert]
  | kept hmet hconvert _ _ _ =>
    rw [h.met_eq] at hmet
    simp [put, hput, drawn?, written?, failure?, result, hmet, hconvert, noteFailure]
  | gathered hmet hinstead =>
    rw [h.met_eq] at hmet
    rw [h.instead_eq p List.mem_cons_self] at hinstead
    simp [put, hput, drawn?, written?, failure?, hmet, hinstead]
  | passed hmet hinstead =>
    rw [h.met_eq] at hmet
    rw [h.instead_eq p List.mem_cons_self] at hinstead
    simp [drawn?, written?, failure?, hmet, hinstead]

/-! ## 2. All parameters -/

theorem Visits.drawn (h : plan.DrawsFrom m stand? ps) (hvisits : plan.Visits ps w w') (hnames : (ps.map (·.name)).Nodup)
    (hfresh : ∀ p ∈ ps, p.name ∉ Entries.keys w.entries) :
    w'.entries = w.entries ++ ps.filterMap (fun p => (plan.drawn? m stand? p).map (p.name, ·)) ∧
      w'.failures = w.failures ++ ps.filterMap (plan.failure? m) := by
  induction hvisits with
  | nil w => simp
  | @cons p rest w w₁ w' hvisit _ ih =>
    obtain ⟨hentries, hfailures⟩ := hvisit.drawn h (hfresh p List.mem_cons_self)
    obtain ⟨hhead, htail⟩ := List.nodup_cons.mp hnames
    have hrest : ∀ q ∈ rest, q.name ∉ Entries.keys w₁.entries := by
      intro q hq hkey
      rw [hentries, Entries.keys, List.map_append, List.mem_append] at hkey
      rcases hkey with hkey | hkey
      · exact hfresh q (List.mem_cons_of_mem p hq) hkey
      · have hname : q.name = p.name := by
          cases hdrawn : plan.drawn? m stand? p <;> simp_all
        exact hhead (List.mem_map.mpr ⟨q, hq, hname⟩)
    obtain ⟨hentries', hfailures'⟩ := ih h.tail htail hrest
    refine ⟨?_, ?_⟩
    · rw [hentries', hentries, List.append_assoc]
      cases hdrawn : plan.drawn? m stand? p <;> simp [hdrawn]
    · rw [hfailures', hfailures, List.append_assoc]
      cases hfailure : plan.failure? m p <;> simp [hfailure]

theorem Visits.filled (h : plan.ReadsFrom m ps) (hvisits : plan.Visits ps w w') (hnames : (ps.map (·.name)).Nodup)
    (hfresh : ∀ p ∈ ps, p.name ∉ Entries.keys w.entries) :
    w'.entries = w.entries ++ ps.filterMap (fun p => (plan.written? m p).map (p.name, ·)) ∧
      w'.failures = w.failures ++ ps.filterMap (plan.failure? m) := by
  simpa [drawn?] using hvisits.drawn h.draws hnames hfresh

-- The turn of every parameter comes.
theorem Visits.reaches (h : plan.Visits ps w w') (hp : p ∈ ps) : ∃ w₁, plan.Reaches ps w p w₁ := by
  induction h with
  | nil => cases hp
  | cons hvisit _ ih =>
    rcases List.mem_cons.mp hp with rfl | hp
    · exact ⟨_, .here⟩
    · obtain ⟨w₂, hreach⟩ := ih hp
      exact ⟨w₂, hreach.later hvisit⟩

-- Visits that go through make a failure of every value that does not convert.
theorem Visits.failure (h : plan.DrawsFrom m stand? ps) (hvisits : plan.Visits ps w w') (hp : p ∈ ps)
    (hmet : Entries.get? p.name m = some v) (hfails : Fails (plan.convert p v)) :
    ∃ e, plan.failure? m p = some e ∧ e.field? = some p.name := by
  obtain ⟨f, hf⟩ := hfails
  obtain ⟨w₁, hreach⟩ := hvisits.reaches hp
  cases f with
  | mismatch e =>
    refine ⟨e, by simp [failure?, hmet, hf], ?_⟩
    exact ((error_of_convert hf).2.2 e rfl).2.1
  | _ => exact absurd ⟨rfl, v, (h.met_eq p _).trans hmet, hf⟩ (hvisits.not_stops hreach)

/-! ## 3. What is written -/

theorem isNull_result (p : Param) (v : Value) : (plan.result p v).isNull = becomesNull p.type v := by
  rw [result]
  cases hconvert : plan.convert p v with
  | ok u => exact isNull_of_convert hconvert
  | error f =>
    have hnull := (error_of_convert hconvert).1
    rw [hnull]
    rw [becomesNull, Bool.or_eq_false_iff] at hnull
    exact hnull.1

theorem admits_result (hconvert : ¬Fails (plan.convert p v)) (htag : isEntityTag p.type = false) :
    SemanticType.admits p.type (plan.result p v) = true := by
  rw [result]
  cases h : plan.convert p v with
  | ok u => exact admits_of_convert h htag
  | error f => exact absurd ⟨f, h⟩ hconvert

end Plan

/-! ## 4. Filling from a map -/

variable {around : Surroundings} {s : Store} {c : Contract} {mode : Mode} {options : Options} {source : Value}
  {m : Entries Value} {uses : Nat} {w w' : ContextWork} {p : Param}

-- The parameters of a contract that are taken for a mode.
def taken (s : Store) (c : Contract) (mode : Mode) (options : Options) : List Param :=
  (candidates s c mode).filter (isTaken options mode.base)

theorem names_named (hc : s.HoldsByName c) (names : List String) :
    (s.named c names).map (·.name) = names.filter fun n => Entries.has n c.params := by
  induction names with
  | nil => rfl
  | cons n rest ih =>
    rw [Store.named] at ih ⊢
    cases hget : Entries.get? n c.params with
    | none => simpa [hget, Entries.has] using ih
    | some id => simpa [hget, Entries.has, Entries.NamedBy.name_of_get? hc hget] using ih

theorem nodup_candidates (hc : s.HoldsByName c) (mode : Mode) : ((candidates s c mode).map (·.name)).Nodup := by
  cases mode with
  | plain d => exact hc.nodup
  | unlisted name => exact hc.nodup
  | system d =>
    have hreserved : (Mode.reserved d).Nodup := by cases d <;> decide
    change ((s.named c (Mode.reserved d)).map (·.name)).Nodup
    rw [names_named hc]
    exact hreserved.filter _

theorem mem_paramsOf_of_candidate (hp : p ∈ candidates s c mode) : p ∈ s.paramsOf c := by
  cases mode with
  | plain d => exact hp
  | unlisted name => exact hp
  | system d =>
    obtain ⟨n, -, hparam⟩ := List.mem_filterMap.mp (show p ∈ s.named c (Mode.reserved d) from hp)
    obtain ⟨id, hget, rfl⟩ := Option.map_eq_some_iff.mp hparam
    exact List.mem_map_of_mem (Entries.mem_values_of_get? hget)

theorem mem_paramsOf_of_taken (hp : p ∈ taken s c mode options) : p ∈ s.paramsOf c :=
  mem_paramsOf_of_candidate (List.mem_filter.mp hp).1

theorem nodup_taken (hc : s.HoldsByName c) : ((taken s c mode options).map (·.name)).Nodup :=
  (List.filter_sublist.map _).nodup (nodup_candidates hc mode)

-- Only a parameter with a grouping has a value gathered.
theorem gathered?_of_not_gathers (h : gathers p = false) : gathered? options p m = none := by
  have hempty : ∀ text? : Option String, Param.isGiven text? = false → text?.filter (· ≠ "") = none := by
    intro text? htext
    cases text? with
    | none => rfl
    | some text => simpa [Param.isGiven] using htext
  rw [gathers, Bool.or_eq_false_iff] at h
  rw [gathered?, hempty _ h.1, hempty _ h.2]

theorem given_ofEntries (m : Entries Value) : given (.ofEntries m) = .ofEntries m := by
  cases m <;> rfl

/-- Without words before the names, a target is filled from one map. -/
theorem drawsFrom_filling (hmap : entries (given source) = .ok m) (hsource : options.sourceWord? = none)
    (htarget : options.targetWord? = none) (service : String) (guide : Locale × Calendar.Zone) (ps : List Param) :
    (filling around service options (.value source) guide).DrawsFrom m (fun p => gathered? options p m) ps where
  met_eq p target := by
    simp only [filling, Source.entriesIn, hmap, hsource]
    rfl
  instead_eq p _ target := by
    simp only [filling, Source.entriesIn, hmap]
    cases hgathers : gathers p with
    | true => rfl
    | false => exact (gathered?_of_not_gathers hgathers).symm
  key_eq p := by
    simp only [filling, htarget]
    rfl

theorem failures_noted (rs : List Reading) (w : ContextWork) :
    (noted rs w).failures = w.failures ++ mismatches rs := by
  rw [noted]
  induction mismatches rs generalizing w with
  | nil => simp
  | cons e rest ih =>
    rw [List.foldl_cons, ih]
    simp [noteFailure]

-- A mode that is not listed is refused.
theorem isListed_of_fill {source : Source} (h : fill around s c mode source options w = .ok () w') :
    mode.isListed = true := by
  cases hmode : mode.isListed with
  | true => rfl
  | false =>
    rw [fill, hmode] at h
    cases h

/-- What filling a fresh target from a map leaves in it, when the readings of the locale and the zone come first. -/
structure Outcome (plan : Plan) (rs : List Reading) (stand? : Param → Option Value) (ps : List Param)
    (m : Entries Value) (w' : ContextWork) : Prop where
  entries_eq : w'.entries = ps.filterMap fun p => (plan.drawn? m stand? p).map (p.name, ·)
  failures_eq : w'.failures = mismatches rs ++ ps.filterMap (plan.failure? m)
  /-- No value fails to convert without a failure of its parameter. -/
  told : ∀ p ∈ ps, ∀ v, Entries.get? p.name m = some v → Fails (plan.convert p v) →
    ∃ e, plan.failure? m p = some e ∧ e.field? = some p.name

theorem outcome_of_fill (hc : s.HoldsByName c) (hmap : entries (given source) = .ok m)
    (hsource : options.sourceWord? = none) (htarget : options.targetWord? = none)
    (hfill : fill around s c mode (.value source) options (begin (.ofEntries []) uses) = .ok () w') :
    Outcome (filling around c.name options (.value source) (chosen around options.locale? options.zone? m))
      (guidanceReadings around.toWorld options.locale? options.zone? m) (fun p => gathered? options p m)
      (taken s c mode options) m
      w' := by
  have hends := fill_ends around s c mode (.value source) options (begin (.ofEntries []) uses) (isListed_of_fill hfill)
    ⟨m, hmap⟩ rfl
  have hm : (Source.value source).entriesIn (begin (.ofEntries []) uses).entries = m := by
    rw [Source.entriesIn, hmap]
    rfl
  rw [hm] at hends
  have hvisits := hends.visits w' hfill
  have hdraws : (filling around c.name options (.value source)
      (chosen around options.locale? options.zone? m)).DrawsFrom m (fun p => gathered? options p m)
        (taken s c mode options) := drawsFrom_filling hmap hsource htarget c.name _ _
  have hfresh : ∀ p ∈ taken s c mode options,
      p.name ∉ Entries.keys (noted (guidanceReadings around.toWorld options.locale? options.zone? m)
        (begin (.ofEntries []) uses)).entries := by
    intro p _
    rw [entries_noted]
    exact List.not_mem_nil
  obtain ⟨hentries, hfailures⟩ := hvisits.drawn hdraws (nodup_taken hc) hfresh
  rw [entries_noted] at hentries
  rw [failures_noted] at hfailures
  exact ⟨hentries, hfailures, fun p hp v hmet hfails => hvisits.failure hdraws hp hmet hfails⟩

namespace Outcome

variable {plan : Plan} {rs : List Reading} {stand? : Param → Option Value} {ps : List Param}

theorem get?_eq (h : Outcome plan rs stand? ps m w') (hnames : (ps.map (·.name)).Nodup) (hp : p ∈ ps) :
    Entries.get? p.name w'.entries = plan.drawn? m stand? p := by
  rw [h.entries_eq]
  exact Entries.get?_filterMap hnames hp

theorem name_of_key (h : Outcome plan rs stand? ps m w') {key : String} (hkey : key ∈ Entries.keys w'.entries) :
    ∃ p ∈ ps, p.name = key := by
  rw [h.entries_eq] at hkey
  obtain ⟨e, he, rfl⟩ := List.mem_map.mp hkey
  obtain ⟨p, hp, hdrawn⟩ := List.mem_filterMap.mp he
  obtain ⟨v, -, rfl⟩ := Option.map_eq_some_iff.mp hdrawn
  exact ⟨p, hp, rfl⟩

end Outcome

end CallContract.Coercion
