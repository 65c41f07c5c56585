import CallContract.Coercion
import CallContract.Proofs.Conversion
import CallContract.Proofs.Stateful

/-!
# Visits — what coercion does, parameter by parameter

Filling a target and converting in place go through parameters in the same way: a value that is met for a parameter is
converted, and one that does not convert is written as it is, with one failure noted.  Only a value that cannot be
judged ends the work.
-/

namespace CallContract.Coercion

open CallContract.Calendar Context

/-! ## 1. Reading and writing -/

section

variable {w : ContextWork}

theorem write_of_writable {key : String} {v : Value} (hw : w.access = .writable) :
    write key v w = .ok () { w with entries := Entries.put key v w.entries } := by
  rw [write, get_bind]
  simp only [hw, ne_eq, not_true_eq_false, if_false]
  rw [← hw]
  rfl

theorem read_of_writable (hw : w.access = .writable) : Context.read w = .ok w.entries w := by
  rw [Context.read, get_bind]
  simp only [hw, reduceCtorEq, if_false]
  rfl

end

/-! ## 2. One parameter -/

/-- What is done for each parameter. -/
structure Plan where
  around : Surroundings
  service : String
  locale : Locale
  zone : Zone
  /-- The value that is met for a parameter, when the target holds some entries. -/
  met? : Param → Entries Value → Option Value
  /-- What is written for a parameter that meets no value. -/
  instead? : Param → Entries Value → Option Value
  /-- Where the target holds a parameter. -/
  key : Param → String

namespace Plan

variable (plan : Plan)

def guide (p : Param) : Conversion.Guide :=
  { world := plan.around.toWorld, locale? := some plan.locale, zone := plan.zone, field? := some p.name }

def convert (p : Param) (v : Value) : Except Fault Value := Conversion.convert (plan.guide p) p.type v

def put (p : Param) (v : Value) (w : ContextWork) : ContextWork :=
  { w with entries := Entries.put (plan.key p) v w.entries }

/-- What the visit of a parameter makes of the work. -/
inductive Visit (p : Param) (w : ContextWork) : ContextWork → Prop
  | converted {v u : Value} (hmet : plan.met? p w.entries = some v) (hconvert : plan.convert p v = .ok u) :
      Visit p w (plan.put p u w)
  /-- A value that does not convert is kept, and one failure tells its parameter, type and value. -/
  | kept {v : Value} {m : Mismatch} (hmet : plan.met? p w.entries = some v)
      (hconvert : plan.convert p v = .error (.mismatch m)) (hfield : m.field? = some p.name)
      (htype : m.typeName = p.type) (hvalue : m.value = v) :
      Visit p w (plan.put p v (noteFailure (some plan.service) m w))
  | gathered {v : Value} (hmet : plan.met? p w.entries = none) (hinstead : plan.instead? p w.entries = some v) :
      Visit p w (plan.put p v w)
  | passed (hmet : plan.met? p w.entries = none) (hinstead : plan.instead? p w.entries = none) : Visit p w w

/-- A parameter meets a value that cannot be judged. -/
structure Stops (p : Param) (w : ContextWork) (f : Fault) : Prop where
  not_mismatch : f.isMismatch = false
  meets : ∃ v, plan.met? p w.entries = some v ∧ plan.convert p v = .error f

variable {plan} {p : Param} {w w' w₁ w₂ : ContextWork} {f : Fault}

theorem Visit.access_eq (h : plan.Visit p w w') : w'.access = w.access := by cases h <;> rfl

-- A visit is determined by the work before it.
theorem Visit.unique (h₁ : plan.Visit p w w₁) (h₂ : plan.Visit p w w₂) : w₁ = w₂ := by
  cases h₁ <;> cases h₂ <;> simp_all

theorem Visit.not_stops (h : plan.Visit p w w') : ¬plan.Stops p w f := by
  rintro ⟨hf, v, hmet, hconvert⟩
  cases h <;> simp_all [Fault.isMismatch]

variable (plan) in
/-- An action does for every parameter what the plan says. -/
def Follows (action : Param → ContextAction Unit) : Prop :=
  ∀ p w, w.access = .writable → (∃ w', action p w = .ok () w' ∧ plan.Visit p w w') ∨
    ∃ f, action p w = .error (.conversion f) w ∧ plan.Stops p w f

variable (plan) in
/-- Converts a value for a parameter and writes the result. -/
def take (p : Param) (v : Value) : ContextAction Unit := do
  write (plan.key p) (← convertFor plan.around plan.service p plan.locale plan.zone v)

theorem take_of_met {v : Value} (hw : w.access = .writable) (hmet : plan.met? p w.entries = some v) :
    (∃ w', plan.take p v w = .ok () w' ∧ plan.Visit p w w') ∨
      ∃ f, plan.take p v w = .error (.conversion f) w ∧ plan.Stops p w f := by
  have htake : plan.take p v w
      = EStateM.bind (orElseNoting (some plan.service) v (plan.convert p v)) (write (plan.key p)) w := rfl
  cases hconvert : plan.convert p v with
  | ok u =>
    rw [hconvert] at htake
    exact .inl ⟨_, htake.trans (write_of_writable hw), .converted hmet hconvert⟩
  | error f =>
    rw [hconvert] at htake
    obtain ⟨-, -, hmismatch⟩ := Conversion.error_of_convert hconvert
    cases f with
    | mismatch m =>
      obtain ⟨hvalue, hfield, htype⟩ := hmismatch m rfl
      exact .inl ⟨_, htake.trans (write_of_writable hw), .kept hmet hconvert hfield htype hvalue⟩
    | _ => exact .inr ⟨_, htake, ⟨rfl, v, hmet, hconvert⟩⟩

/-! ## 3. All parameters -/

variable (plan) in
/-- The visits of parameters, one after the other. -/
inductive Visits : List Param → ContextWork → ContextWork → Prop
  | nil (w : ContextWork) : Visits [] w w
  | cons {p : Param} {rest : List Param} {w w₁ w' : ContextWork} (hvisit : plan.Visit p w w₁)
      (hrest : Visits rest w₁ w') : Visits (p :: rest) w w'

variable (plan) in
/-- The turn of a parameter comes when the work has come to `w'`. -/
def Reaches (ps : List Param) (w : ContextWork) (p : Param) (w' : ContextWork) : Prop :=
  ∃ before after, ps = before ++ p :: after ∧ plan.Visits before w w'

variable {ps rest : List Param}

theorem Reaches.here : plan.Reaches (p :: rest) w p w := ⟨[], rest, rfl, .nil w⟩

theorem Reaches.later {q : Param} (hvisit : plan.Visit p w w₁) (h : plan.Reaches rest w₁ q w₂) :
    plan.Reaches (p :: rest) w q w₂ := by
  obtain ⟨before, after, rfl, hbefore⟩ := h
  exact ⟨p :: before, after, rfl, .cons hvisit hbefore⟩

-- Visits that go through have met nothing that cannot be judged.
theorem Visits.not_stops (h : plan.Visits ps w w') {q : Param} (hreach : plan.Reaches ps w q w₂) :
    ¬plan.Stops q w₂ f := by
  obtain ⟨before, after, hps, hbefore⟩ := hreach
  induction hbefore generalizing ps with
  | nil w =>
    subst hps
    cases h with
    | cons hvisit _ => exact hvisit.not_stops
  | cons hvisit₂ _ ih =>
    subst hps
    cases h with
    | cons hvisit hrest =>
      cases hvisit.unique hvisit₂
      exact ih hrest rfl

/-- A run over parameters visits them all, unless it comes to a value that cannot be judged. -/
theorem Follows.run {action : Param → ContextAction Unit} (h : plan.Follows action) (ps : List Param)
    (hw : w.access = .writable) :
    (∃ w', ps.forM action w = .ok () w' ∧ plan.Visits ps w w') ∨
      ∃ p w₁ f, plan.Reaches ps w p w₁ ∧ plan.Stops p w₁ f ∧ ps.forM action w = .error (.conversion f) w₁ := by
  induction ps generalizing w with
  | nil => exact .inl ⟨w, rfl, .nil w⟩
  | cons p rest ih =>
    rcases h p w hw with ⟨w₁, hact, hvisit⟩ | ⟨f, hact, hstops⟩
    · rcases ih (hvisit.access_eq.trans hw) with ⟨w', hrest, hvisits⟩ | ⟨q, w₂, f, hreach, hstops, hrest⟩
      · exact .inl ⟨w', (forM_cons_of_ok hact).trans hrest, .cons hvisit hvisits⟩
      · exact .inr ⟨q, w₂, f, hreach.later hvisit, hstops, (forM_cons_of_ok hact).trans hrest⟩
    · exact .inr ⟨p, w, f, .here, hstops, forM_cons_of_error hact⟩

-- Visits are determined by the work before them.
theorem Visits.unique (h₁ : plan.Visits ps w w₁) (h₂ : plan.Visits ps w w₂) : w₁ = w₂ := by
  induction h₁ with
  | nil w =>
    cases h₂
    rfl
  | cons hvisit₁ _ ih =>
    cases h₂ with
    | cons hvisit₂ hrest₂ =>
      cases hvisit₁.unique hvisit₂
      exact ih hrest₂

/-- Where all parameters can be visited, a run over them returns. -/
theorem Follows.run_of_visits {action : Param → ContextAction Unit} (h : plan.Follows action)
    (hvisits : plan.Visits ps w w') (hw : w.access = .writable) : ps.forM action w = .ok () w' := by
  rcases h.run ps hw with ⟨w'', hrun, hvisits'⟩ | ⟨p, w₁, f, hreach, hstops, _⟩
  · rw [hrun, hvisits'.unique hvisits]
  · exact absurd hstops (hvisits.not_stops hreach)

end Plan

/-! ## 4. Filling a target -/

/-- The entries that values are taken from, when the target holds some entries. -/
def Source.entriesIn (source : Source) (target : Entries Value) : Entries Value :=
  match source with
  | .value v => (Context.entries (given v)).toOption.getD []
  | .target => target

/-- Values are taken from a map. -/
def Source.IsMap : Source → Prop
  | .value v => ∃ m, Context.entries (given v) = .ok m
  | .target => True

/-- Filling a target: values are met under their names in the source, and gathered ones stand in for them. -/
def filling (around : Surroundings) (service : String) (options : Options) (source : Source) (guide : Locale × Zone) :
    Plan where
  around
  service
  locale := guide.1
  zone := guide.2
  met? p target := Entries.get? (joinedName options.sourceWord? p.name) (source.entriesIn target)
  instead? p target := if gathers p then gathered? options p (source.entriesIn target) else none
  key p := joinedName options.targetWord? p.name

variable {around : Surroundings} {service : String} {options : Options} {source : Source} {guide : Locale × Zone}
  {w : ContextWork}

theorem read_of_isMap (hsource : source.IsMap) (hw : w.access = .writable) :
    ∃ readOnly, source.read w = .ok (.map readOnly (source.entriesIn w.entries)) w := by
  cases source with
  | target =>
    refine ⟨false, ?_⟩
    rw [Source.read, bind_of_ok (read_of_writable hw)]
    rfl
  | value v =>
    obtain ⟨m, hm⟩ := hsource
    cases hv : given v with
    | map readOnly entries =>
      refine ⟨readOnly, ?_⟩
      simp only [Source.read, Source.entriesIn, hv]
      rfl
    | _ =>
      rw [hv] at hm
      cases hm

theorem entries_of_isMap (hsource : source.IsMap) (hw : w.access = .writable) :
    source.entries w = .ok (source.entriesIn w.entries) w := by
  obtain ⟨readOnly, hread⟩ := read_of_isMap hsource hw
  rw [Source.entries, bind_of_ok hread]
  rfl

theorem follows_takeParam (hsource : source.IsMap) :
    (filling around service options source guide).Follows
      (takeParam around service options guide.1 guide.2 source) := by
  intro p w hw
  let plan := filling around service options source guide
  obtain ⟨readOnly, hread⟩ := read_of_isMap hsource hw
  rw [takeParam, bind_of_ok hread]
  cases hmet : plan.met? p w.entries with
  | some v =>
    have hfound : found (lookup? (joinedName options.sourceWord? p.name) (.map readOnly (source.entriesIn w.entries))) w
        = .ok (some v) w := by
      rw [lookup?, ← hmet]
      rfl
    rw [bind_of_ok hfound]
    exact plan.take_of_met hw hmet
  | none =>
    have hfound : found (lookup? (joinedName options.sourceWord? p.name) (.map readOnly (source.entriesIn w.entries))) w
        = .ok none w := by
      rw [lookup?, ← hmet]
      rfl
    rw [bind_of_ok hfound]
    left
    cases hg : gathers p with
    | false => exact ⟨w, rfl, .passed hmet (by simp [filling, hg])⟩
    | true =>
      have hinstead : plan.instead? p w.entries = gathered? options p (source.entriesIn w.entries) := by
        simp [plan, filling, hg]
      simp only [if_true]
      rw [bind_of_ok (entries_of_isMap hsource hw)]
      cases hgathered : gathered? options p (source.entriesIn w.entries) with
      | some v => exact ⟨_, write_of_writable hw, .gathered hmet (hinstead.trans hgathered)⟩
      | none => exact ⟨w, rfl, .passed hmet (hinstead.trans hgathered)⟩

/-! ## 5. Converting in place -/

/-- Converting in place: values are met in the target itself. -/
def inPlace (around : Surroundings) (service : String) (guide : Locale × Zone) : Plan where
  around
  service
  locale := guide.1
  zone := guide.2
  met? p target := present? p.name target
  instead? _ _ := none
  key p := p.name

theorem follows_convertInPlace :
    (inPlace around service guide).Follows (convertInPlace around service guide.1 guide.2) := by
  intro p w hw
  let plan := inPlace around service guide
  rw [convertInPlace, bind_of_ok (read_of_writable hw)]
  cases hmet : present? p.name w.entries with
  | some v => exact plan.take_of_met hw hmet
  | none => exact .inl ⟨w, rfl, .passed hmet rfl⟩

end CallContract.Coercion
