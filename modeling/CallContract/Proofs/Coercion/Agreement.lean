import CallContract.Proofs.Coercion.Filled
import CallContract.Proofs.Validation.Completeness

/-!
# Agreement — what coercion lets through, validation accepts

A target that has been filled for a contract without validators is validated for the same direction.  It has no unknown
keys; what is missing was missing in the source or became null; and what has not the declared form is among the
failures.
-/

namespace CallContract.Coercion

open CallContract.Conversion Context Validation

/-- A contract whose parameters stand under their names and have neither validators nor groupings. -/
structure IsDirect (s : Store) (c : Contract) : Prop where
  named : s.HoldsByName c
  unvalidated : ∀ p ∈ s.paramsOf c, p.validators = []
  ungathered : ∀ p ∈ s.paramsOf c, gathers p = false

/-- A contract whose parameters stand under their names and have neither validators nor groupings nor entity types. -/
structure IsSimple (s : Store) (c : Contract) : Prop where
  named : s.HoldsByName c
  unvalidated : ∀ p ∈ s.paramsOf c, p.validators = []
  ungathered : ∀ p ∈ s.paramsOf c, gathers p = false
  typed : ∀ p ∈ s.paramsOf c, isEntityTag p.type = false

theorem IsSimple.direct {s : Store} {c : Contract} (hc : IsSimple s c) : IsDirect s c :=
  ⟨hc.named, hc.unvalidated, hc.ungathered⟩

-- The parameters that go in.
def inward (s : Store) (c : Contract) : List Param := (s.paramsOf c).filter fun p => p.mode.takesPartIn .input

/-- The source has no value for a parameter: none at all, or one that becomes null. -/
def isUnsupplied (m : Entries Value) (p : Param) : Bool := (Entries.get? p.name m).all (becomesNull p.type)

/-- The required parameters that the source does not supply. -/
def unsupplied (s : Store) (c : Contract) (m : Entries Value) : List String :=
  ((inward s c).filter fun p => !p.optional && isUnsupplied m p).map (·.name)

variable {around : Surroundings} {s : Store} {c : Contract} {source : Value} {m : Entries Value}
  {locale? : Option Locale} {zone? : Option Calendar.Zone} {uses : Nat} {w' : ContextWork}

/-! ## 1. The filled target -/

theorem mem_paramsOf_of_inward {p : Param} (hp : p ∈ inward s c) : p ∈ s.paramsOf c := (List.mem_filter.mp hp).1

theorem nodup_inward (hc : IsDirect s c) : ((inward s c).map (·.name)).Nodup :=
  (List.filter_sublist.map _).nodup hc.named.nodup

theorem taken_eq : (candidates s c .input).filter (isTaken { locale?, zone? } Mode.input.base) = inward s c := by
  apply List.filter_congr
  intro p _
  simp [isTaken, Mode.base]

theorem readsFrom_filling (hc : IsDirect s c) (hmap : entries (given source) = .ok m) (guide : Locale × Calendar.Zone) :
    (filling around c.name { locale?, zone? } (.value source) guide).ReadsFrom m (inward s c) where
  met_eq p target := by
    simp only [filling, Source.entriesIn, hmap]
    rfl
  instead_eq p hp target := by simp [filling, hc.ungathered p (mem_paramsOf_of_inward hp)]
  key_eq p := rfl

/-- A plan has filled a fresh target with the parameters that go in, which it takes from one map. -/
structure Fills (plan : Plan) (s : Store) (c : Contract) (m : Entries Value) (w w' : ContextWork) : Prop where
  direct : IsDirect s c
  reads : plan.ReadsFrom m (inward s c)
  fresh : w.entries = []
  visits : plan.Visits (inward s c) w w'

theorem fills_of_fill (hc : IsDirect s c) (hmap : entries (given source) = .ok m)
    (hfill : fill around s c .input (.value source) { locale?, zone? } (begin (.ofEntries []) uses) = .ok () w') :
    ∃ plan w, Fills plan s c m w w' := by
  have hends := fill_ends around s c .input (.value source) { locale?, zone? } (begin (.ofEntries []) uses) rfl
    ⟨m, hmap⟩ rfl
  have hvisits := hends.visits w' hfill
  rw [taken_eq] at hvisits
  exact ⟨_, _, hc, readsFrom_filling hc hmap _, entries_noted _ _, hvisits⟩

-- A target that has been filled for a contract without entity types.
structure IsFilled (plan : Plan) (s : Store) (c : Contract) (m : Entries Value) (w w' : ContextWork) : Prop
    extends Fills plan s c m w w' where
  simple : IsSimple s c

theorem isFilled_of_fill (hc : IsSimple s c) (hmap : entries (given source) = .ok m)
    (hfill : fill around s c .input (.value source) { locale?, zone? } (begin (.ofEntries []) uses) = .ok () w') :
    ∃ plan w, IsFilled plan s c m w w' := by
  obtain ⟨plan, w, h⟩ := fills_of_fill hc.direct hmap hfill
  exact ⟨plan, w, h, hc⟩

namespace Fills

variable {plan : Plan} {w : ContextWork} {p : Param} {v : Value}

theorem outcome (h : Fills plan s c m w w') :
    w'.entries = (inward s c).filterMap (fun p => (plan.written? m p).map (p.name, ·)) ∧
      w'.failures = w.failures ++ (inward s c).filterMap (plan.failure? m) := by
  have hempty : ∀ q ∈ inward s c, q.name ∉ Entries.keys w.entries := by simp [h.fresh, Entries.keys]
  simpa [h.fresh] using h.visits.filled h.reads (nodup_inward h.direct) hempty

theorem get?_eq (h : Fills plan s c m w w') (hp : p ∈ inward s c) :
    Entries.get? p.name w'.entries = plan.written? m p := by
  rw [h.outcome.1]
  exact Entries.get?_filterMap (nodup_inward h.direct) hp

theorem name_of_key (h : Fills plan s c m w w') {key : String} (hkey : key ∈ Entries.keys w'.entries) :
    key ∈ (inward s c).map (·.name) := by
  rw [h.outcome.1] at hkey
  obtain ⟨e, he, rfl⟩ := List.mem_map.mp hkey
  obtain ⟨q, hq, hwritten⟩ := List.mem_filterMap.mp he
  obtain ⟨v, -, rfl⟩ := Option.map_eq_some_iff.mp hwritten
  exact List.mem_map_of_mem hq

theorem failure (h : Fills plan s c m w w') (hp : p ∈ inward s c) (hmet : Entries.get? p.name m = some v)
    (hfails : Fails (plan.convert p v)) : ∃ e ∈ w'.failures, e.field? = some p.name := by
  obtain ⟨e, he, hfield⟩ := h.visits.failure h.reads.draws hp hmet hfails
  refine ⟨e, ?_, hfield⟩
  rw [h.outcome.2]
  exact List.mem_append_right _ (List.mem_filterMap.mpr ⟨p, hp, he⟩)

end Fills

/-! ## 2. Its checks -/

section

variable {x : Subject} {p : Param} {v : Value}

theorem taking_eq_inward (hinput : x.direction = .input) : x.taking = inward x.store x.contract := by
  rw [Subject.taking, hinput]
  rfl

theorem IsDirect.checkable (hc : IsDirect x.store x.contract) : x.Checkable where
  named := hc.named
  askable e he validator hvalidator := by
    rw [hc.unvalidated e.1 (Subject.mem_paramsOf_of_taking (Subject.taking_of_valued he).1)] at hvalidator
    cases hvalidator

theorem IsDirect.canAsk (hc : IsDirect x.store x.contract) : x.CanAsk := by
  intro e he
  rw [Subject.asksInVain, hc.unvalidated e.1 (Subject.mem_paramsOf_of_taking (Subject.taking_of_valued he).1)]
  exact Bool.and_false _

-- Without validators only the declared form counts, which null always has.
theorem IsDirect.rejects_iff (hc : IsDirect x.store x.contract) (hp : p ∈ x.taking) :
    (x.value? p).any (fun v => !x.accepts p v) = true ↔
      ∃ v, Entries.get? p.name x.context = some v ∧ SemanticType.admits p.type v = false := by
  have haccepts : x.accepts p = SemanticType.admits p.type := by
    funext v
    rw [Subject.accepts, hc.unvalidated p (Subject.mem_paramsOf_of_taking hp)]
    rfl
  rw [Subject.value?, present?, haccepts]
  cases Entries.get? p.name x.context with
  | none => simp
  | some v => cases hnull : v.isNull <;> simp [Option.filter, hnull, SemanticType.admits]

theorem IsDirect.mem_mistyped_iff (hc : IsDirect x.store x.contract) {name : String} :
    name ∈ x.mistyped ↔ ∃ p ∈ x.taking,
      (∃ v, Entries.get? p.name x.context = some v ∧ SemanticType.admits p.type v = false) ∧ p.name = name := by
  rw [Subject.mistyped, List.mem_map]
  constructor
  · rintro ⟨p, hp, rfl⟩
    obtain ⟨htaking, hrejected⟩ := List.mem_filter.mp hp
    exact ⟨p, htaking, (hc.rejects_iff htaking).mp hrejected, rfl⟩
  · rintro ⟨p, htaking, hrejected, rfl⟩
    exact ⟨p, List.mem_filter.mpr ⟨htaking, (hc.rejects_iff htaking).mpr hrejected⟩, rfl⟩

end

/-- The validation of a filled target for the same direction. -/
def checking (find : Markup.Finder) (room : Room) (s : Store) (c : Contract) (w' : ContextWork)
    (locale? : Option Locale) : Subject :=
  { store := s, contract := c, direction := .input, given := .ofEntries w'.entries, locale?, find, room }

section

variable {plan : Plan} {w : ContextWork} {p : Param} {v : Value} {find : Markup.Finder} {room : Room}
  {shown? : Option Locale}

namespace Fills

theorem lacking_eq (h : Fills plan s c m w w') : (checking find room s c w' shown?).lacking = unsupplied s c m := by
  have hvalue : ∀ p ∈ inward s c, ((checking find room s c w' shown?).value? p).isNone = isUnsupplied m p := by
    intro p hp
    have hget : (checking find room s c w' shown?).value? p = (plan.written? m p).filter (!·.isNull) := by
      rw [← h.get?_eq hp]
      rfl
    rw [hget, Plan.written?, isUnsupplied]
    cases Entries.get? p.name m with
    | none => rfl
    | some v =>
      have hnull : becomesNull p.type v = (plan.result p v).isNull := (Plan.isNull_result p v).symm
      rw [Option.map_some, Option.all_some, hnull]
      cases h : (plan.result p v).isNull <;> simp [h]
  rw [unsupplied, Subject.lacking]
  congr 1
  apply List.filter_congr
  intro p hp
  rw [hvalue p hp]

theorem undeclared_eq (h : Fills plan s c m w w') : (checking find room s c w' shown?).undeclared = [] := by
  rw [Subject.undeclared, List.filter_eq_nil_iff]
  intro key hkey
  have hname : ((inward s c).map (·.name)).contains key = true := by simpa using h.name_of_key hkey
  have htaking : (checking find room s c w' shown?).taking = inward s c := rfl
  rw [htaking, hname, Bool.true_or]
  exact Bool.false_ne_true

theorem checkable (h : Fills plan s c m w w') : (checking find room s c w' shown?).Checkable := h.direct.checkable

theorem canAsk (h : Fills plan s c m w w') : (checking find room s c w' shown?).CanAsk := h.direct.canAsk

-- A parameter that is mistyped in the target has a value in the source.
theorem met_of_mistyped (h : Fills plan s c m w w') {name : String}
    (hname : name ∈ (checking find room s c w' shown?).mistyped) :
    ∃ p ∈ inward s c, p.name = name ∧ ∃ v, Entries.get? p.name m = some v ∧
      SemanticType.admits p.type (plan.result p v) = false := by
  obtain ⟨p, htaking, ⟨u, hget, hrejected⟩, rfl⟩ := h.direct.mem_mistyped_iff.mp hname
  have hin : p ∈ inward s c := htaking
  have hwritten : plan.written? m p = some u := (h.get?_eq hin).symm.trans hget
  obtain ⟨v, hmet, rfl⟩ := Option.map_eq_some_iff.mp hwritten
  exact ⟨p, hin, rfl, v, hmet, hrejected⟩

end Fills

/-- What has not the declared form is told in a failure. -/
theorem IsFilled.failure_of_mistyped (h : IsFilled plan s c m w w') {name : String}
    (hname : name ∈ (checking find room s c w' shown?).mistyped) : ∃ e ∈ w'.failures, e.field? = some name := by
  obtain ⟨p, hin, rfl, v, hmet, hrejected⟩ := h.met_of_mistyped hname
  by_cases hconvert : Fails (plan.convert p v)
  · exact h.failure hin hmet hconvert
  · rw [Plan.admits_result hconvert (h.simple.typed p (mem_paramsOf_of_inward hin))] at hrejected
    cases hrejected

end

/-- What is told of a context without unknown keys: what is missing, or else what has the wrong form, or markup. -/
def Tells (missing mistyped : List String) (r : Except Failure Unit) : Prop :=
  (missing ≠ [] → ∃ v : Violation, r = .error (.violation v) ∧ v.check = .required ∧ v.names = missing.map .text) ∧
    (missing = [] → ∀ v : Violation, r = .error (.violation v) →
      v.check = .typed ∧ v.names = mistyped.map .text ∨ v.check = .plain)

-- A violation is of the check of required names when some are missing, and otherwise of a later one.
theorem Tells.check {missing mistyped : List String} {r : Except Failure Unit} (h : Tells missing mistyped r)
    {v : Violation} {t t' : Trace} (hv : withTrace r t = .error (.violation v) t') :
    v.check = .required ∧ v.names = missing.map .text ∧ missing ≠ [] ∨
      v.check = .typed ∧ v.names = mistyped.map .text ∨ v.check = .plain := by
  have hr : r = .error (.violation v) := withTrace_injective hv
  by_cases hempty : missing = []
  · exact .inr (h.2 hempty v hr)
  · obtain ⟨v', hv', hcheck, hnames⟩ := h.1 hempty
    cases hr.symm.trans hv'
    exact .inl ⟨hcheck, hnames, hempty⟩

theorem checks_tell {x : Subject} (hmap : entries x.given = .ok m) (hx : x.Checkable) (hask : x.CanAsk)
    (hinput : x.direction = .input) (hknown : x.undeclared = []) :
    ∃ r, Validation.Ends x.checks r ∧ Tells x.lacking x.mistyped r := by
  obtain ⟨r, hends, hcourse⟩ := Subject.checks_course hmap hx
  refine ⟨r, hends, ?_⟩
  cases hcourse with
  | required hlacking hcheck hnames => exact ⟨fun _ => ⟨_, rfl, hcheck, hnames⟩, fun hnone => absurd hnone hlacking⟩
  | known _ hundeclared => exact absurd hknown hundeclared
  | unasked _ _ hvain => exact absurd hask hvain
  | typed hlacking _ _ _ hcheck hnames =>
    refine ⟨fun hsome => absurd hlacking hsome, fun _ v hv => .inl ?_⟩
    cases hv
    exact ⟨hcheck, hnames⟩
  | searched hlacking _ _ _ _ hsearched =>
    obtain ⟨r', hplain, hmarkup⟩ := Subject.ends_checkPlain hinput
    obtain rfl := hsearched.unique hplain
    exact ⟨fun hsome => absurd hlacking hsome, fun _ v hv => .inr (hmarkup v hv)⟩
  | passed _ _ _ _ houtput => exact absurd hinput houtput

/-! ## 3. Agreement -/

/-- No markup is found in the texts of parameters that must not have any. -/
def IsPlain (find : Markup.Finder) (s : Store) (c : Contract) (target : Entries Value) : Prop :=
  ∀ p ∈ inward s c, p.markup ≠ .any → SemanticType.isText p.type = true →
    ∀ text, Entries.get? p.name target = some (.text text) → find text = .ok none

-- The texts that must be plain are those of the context.
theorem isPlain_iff {x : Subject} (hinput : x.direction = .input) :
    IsPlain x.find x.store x.contract x.context ↔ ∀ e ∈ x.plainParams, x.find e.2 = .ok none := by
  rw [IsPlain, ← taking_eq_inward hinput]
  constructor
  · intro hplain e he
    obtain ⟨p, hp, hsome⟩ := List.mem_filterMap.mp he
    obtain ⟨text, htext, rfl⟩ := Option.map_eq_some_iff.mp hsome
    rw [Subject.plainText?] at htext
    split at htext
    case isTrue hlimited =>
      split at htext
      case h_1 s hget =>
        cases htext
        exact hplain p hp hlimited.1 hlimited.2 text hget
      case h_2 => cases htext
    case isFalse => cases htext
  · intro hplain p hp hlimited htext text hget
    have hsome : x.plainText? p = some text := by rw [Subject.plainText?, if_pos ⟨hlimited, htext⟩, hget]
    exact hplain (p, text) (List.mem_filterMap.mpr ⟨p, hp, by rw [hsome]; rfl⟩)

-- Nothing violates a check of a filled target when nothing failed, nothing is missing and nothing has markup.
theorem IsFilled.accepted {plan : Plan} {w : ContextWork} {find : Markup.Finder} {room : Room}
    {shown? : Option Locale} (h : IsFilled plan s c m w w') (hfailures : w'.failures = [])
    (hsupplied : unsupplied s c m = [])
    (hplain : IsPlain find s c w'.entries) : Validation.Ends (checking find room s c w' shown?).checks (.ok ()) := by
  have hmistyped : (checking find room s c w' shown?).mistyped = [] := by
    apply List.eq_nil_iff_forall_not_mem.mpr
    intro name hname
    obtain ⟨e, he, -⟩ := h.failure_of_mistyped hname
    simp [hfailures] at he
  exact Subject.ends_checks_of_acceptable rfl h.checkable h.canAsk rfl
    ⟨h.lacking_eq.trans hsupplied, h.undeclared_eq, hmistyped, (isPlain_iff rfl).mp hplain⟩

/-- How the validation of a filled target agrees with its filling. -/
structure Agrees (s : Store) (c : Contract) (m : Entries Value) (w' : ContextWork) (find : Markup.Finder)
    (r : EStateM.Result Failure Trace Unit) : Prop where
  /-- No key is unknown. -/
  known : ∀ v t, r = .error (.violation v) t → v.check ≠ .known
  /-- What is missing are the required parameters that the source does not supply. -/
  required_iff : (∃ v t, r = .error (.violation v) t ∧ v.check = .required) ↔ unsupplied s c m ≠ []
  required_names : ∀ v t, r = .error (.violation v) t → v.check = .required → v.names = (unsupplied s c m).map .text
  /-- What has the wrong form is told in a failure. -/
  typed_names : ∀ v t, r = .error (.violation v) t → v.check = .typed →
    ∀ name ∈ v.names, ∃ e ∈ w'.failures, ∃ field, e.field? = some field ∧ name = .text field
  /-- Without failures, missing values and markup, the target is accepted. -/
  accepted : w'.failures = [] → unsupplied s c m = [] → IsPlain find s c w'.entries → ∃ t, r = .ok () t

-- What is told of a context accounts for every part of the agreement, except that it is accepted.
theorem agrees_of_tells {find : Markup.Finder} {mistyped : List String} {r : Except Failure Unit}
    (htells : Tells (unsupplied s c m) mistyped r)
    (htyped : ∀ name ∈ mistyped, ∃ e ∈ w'.failures, e.field? = some name)
    (haccepted : w'.failures = [] → unsupplied s c m = [] → IsPlain find s c w'.entries → r = .ok ()) (t : Trace) :
    Agrees s c m w' find (withTrace r t) where
  known v t' h := by
    rcases htells.check h with ⟨h, -⟩ | ⟨h, -⟩ | h <;> simp [h]
  required_iff := by
    constructor
    · rintro ⟨v, t', h, hrequired⟩
      rcases htells.check h with ⟨-, -, h⟩ | ⟨h, -⟩ | h
      · exact h
      all_goals cases hrequired.symm.trans h
    · intro h
      obtain ⟨v, rfl, hrequired, -⟩ := htells.1 h
      exact ⟨v, t, rfl, hrequired⟩
  required_names v t' h hrequired := by
    rcases htells.check h with ⟨-, h, -⟩ | ⟨h, -⟩ | h
    · exact h
    all_goals cases hrequired.symm.trans h
  typed_names v t' h htypes name hname := by
    rcases htells.check h with ⟨h, -⟩ | ⟨-, hnames⟩ | h
    · cases htypes.symm.trans h
    · rw [hnames] at hname
      obtain ⟨field, hfield, rfl⟩ := List.mem_map.mp hname
      obtain ⟨e, he, hnamed⟩ := htyped field hfield
      exact ⟨e, he, field, hnamed, rfl⟩
    · cases htypes.symm.trans h
  accepted hfailures hsupplied hplain := by
    rw [haccepted hfailures hsupplied hplain]
    exact ⟨t, rfl⟩

/-- What coercion lets through without a failure, validation accepts: validating a fresh target that has been filled for
a contract without validators, groupings and entity types reports only what the source did not supply, what is told in
a failure, and markup. -/
theorem filled_agrees (around : Surroundings) (s : Store) (c : Contract) (source : Value) (m : Entries Value)
    (locale? : Option Locale) (zone? : Option Calendar.Zone) (uses : Nat) (w' : ContextWork) (find : Markup.Finder)
    (room : Room) (shown? : Option Locale) (isRecorded : Bool) (t : Trace) (hc : IsSimple s c)
    (hmap : entries (given source) = .ok m)
    (hfill : fill around s c .input (.value source) { locale?, zone? } (begin (.ofEntries []) uses) = .ok () w') :
    Agrees s c m w' find
      (validateWith find room s c (finished (.ofEntries []) w') .input shown? isRecorded t) := by
  obtain ⟨plan, w, h⟩ := isFilled_of_fill hc hmap hfill
  let x := checking find room s c w' shown?
  have hmode : direction? .input = some x.direction := rfl
  have hgiven : x.given = given (finished (.ofEntries []) w') := (given_ofEntries _).symm
  have hentries : entries x.given = .ok w'.entries := rfl
  have hexempt : ¬x.IsExempt := fun hx => nomatch hx.1
  obtain ⟨r, hchecks, htells⟩ := checks_tell hentries h.checkable h.canAsk rfl h.undeclared_eq
  rw [h.lacking_eq] at htells
  obtain ⟨t', ht'⟩ := ends_run isRecorded hmode hgiven hentries hexempt hchecks t
  change Agrees s c m w' find (run x (finished (.ofEntries []) w') .input isRecorded t)
  rw [ht']
  exact agrees_of_tells htells (fun name => h.failure_of_mistyped)
    (fun hfailures hsupplied hplain => hchecks.unique (h.accepted hfailures hsupplied hplain)) t'

theorem Sample.isSimple : IsSimple store contract where
  named := ⟨by simp [contract, store, Store.param, param], by simp [contract, Entries.keys]⟩
  unvalidated p hp := by
    cases List.mem_singleton.mp hp
    rfl
  ungathered p hp := by
    cases List.mem_singleton.mp hp
    rfl
  typed p hp := by
    cases List.mem_singleton.mp hp
    rfl

-- A boolean is kept for a timestamp, and validation names the parameter that the failure names.
theorem filled_agrees_sample :
    ∃ w' v t, fill Sample.around Sample.store Sample.contract .input (Sample.source (.bool true)) {} Sample.work
        = .ok () w' ∧
      validateWith Markup.find? Sample.around.room Sample.store Sample.contract (finished (.ofEntries []) w') .input
        none true {} = .error (.violation v) t ∧
      v.check = .typed ∧ v.names = [.text "due"] ∧
      ∀ name ∈ v.names, ∃ e ∈ w'.failures, ∃ field, e.field? = some field ∧ name = .text field := by
  refine ⟨_, _, _, rfl, rfl, rfl, rfl, ?_⟩
  have hagrees := filled_agrees Sample.around Sample.store Sample.contract (.ofEntries [("due", .bool true)])
    [("due", .bool true)] none none 0 _ Markup.find? Sample.around.room none true {} Sample.isSimple rfl rfl
  exact hagrees.typed_names _ _ rfl rfl

end CallContract.Coercion
