import CallContract.Proofs.Validation.Verdict

/-!
# Completeness — validation reports the whole first check that fails

A context is accepted when nothing violates any check, and otherwise the first check that something violates names all
that violates it.  The one exception is a predicate that wants the text of a value that has none: of a timestamp whose
offset cannot be used, or of collections too deep within each other.
-/

namespace CallContract.Validation

open CallContract.Context

namespace Subject

variable (x : Subject)

/-! ## 1. Verdicts -/

-- The names that violate a check.
def violators : Check → List String
  | .required => x.lacking
  | .known => x.undeclared
  | .typed => x.mistyped
  | .plain => if x.direction = .input then x.marked else []
  | .any => []

/-- The checks, in the order in which they are made. -/
def checkOrder : List Check := [.required, .known, .typed, .plain]

/-- The first check that something violates. -/
def firstViolated? : Option Check := checkOrder.find? fun check => !(x.violators check).isEmpty

/-- The result reports that the call has failed, so it is not checked. -/
def IsExempt : Prop :=
  x.direction = .output ∧ (Entries.get? Mode.responseKey x.context = some (.text "error") ∨
    Entries.get? Mode.responseKey x.context = some (.text "fail"))

/-- The predicates for every value can be asked: none wants the text of a value that has none. -/
def CanAsk : Prop := ∀ e ∈ x.valued, x.asksInVain e.1 e.2 = false

/-- The result that the violators ask for. -/
def IsVerdict (r : Except Failure Unit) : Prop :=
  match x.firstViolated? with
  | none => r = .ok ()
  | some check => ∃ v : Violation, v.check = check ∧ v.names = (x.violators check).map .text ∧ r = .error (.violation v)

variable {x} {m : Entries Value}

theorem firstViolated?_eq_none : x.firstViolated? = none ↔ ∀ check, x.violators check = [] := by
  simp only [firstViolated?, checkOrder, List.find?_eq_none]
  constructor
  · intro h check
    cases check <;> simp_all [violators]
  · intro h check _
    simp [h check]

/-! ## 2. All checks -/

-- A violation of the first check that something violates is the verdict.
theorem isVerdict_of_first {check : Check} (hfirst : x.firstViolated? = some check) :
    ∀ v : Violation, v.check = check → v.names = (x.violators check).map .text →
      x.IsVerdict (.error (.violation v)) := by
  intro v hcheck hnames
  rw [IsVerdict, hfirst]
  exact ⟨v, hcheck, hnames, rfl⟩

theorem isVerdict_ok (h : x.firstViolated? = none) : x.IsVerdict (.ok ()) := by rw [IsVerdict, h]

variable (x) in
/-- Where the checks of a map end: with the first check that something violates, with a predicate that cannot be asked,
or with the check for markup. -/
inductive Course : Except Failure Unit → Prop
  | required {v : Violation} (hlacking : x.lacking ≠ []) (hcheck : v.check = .required)
      (hnames : v.names = x.lacking.map .text) : Course (.error (.violation v))
  | known {v : Violation} (hlacking : x.lacking = []) (hundeclared : x.undeclared ≠ []) (hcheck : v.check = .known)
      (hnames : v.names = x.undeclared.map .text) : Course (.error (.violation v))
  | unasked {reason : Value.Undisplayed} (hlacking : x.lacking = []) (hundeclared : x.undeclared = [])
      (hask : ¬x.CanAsk) : Course (.error (.conversion (Fault.ofUndisplayed reason)))
  | typed {v : Violation} (hlacking : x.lacking = []) (hundeclared : x.undeclared = []) (hask : x.CanAsk)
      (hmistyped : x.mistyped ≠ []) (hcheck : v.check = .typed) (hnames : v.names = x.mistyped.map .text) :
      Course (.error (.violation v))
  | searched {r : Except Failure Unit} (hlacking : x.lacking = []) (hundeclared : x.undeclared = []) (hask : x.CanAsk)
      (hmistyped : x.mistyped = []) (hinput : x.direction = .input) (hplain : Ends x.checkPlain r) : Course r
  | passed (hlacking : x.lacking = []) (hundeclared : x.undeclared = []) (hask : x.CanAsk) (hmistyped : x.mistyped = [])
      (houtput : x.direction ≠ .input) : Course (.ok ())

/-- The checks are made one after the other until one of them ends them. -/
theorem checks_course (hmap : entries x.given = .ok m) (hx : Checkable x) : ∃ r, Ends x.checks r ∧ x.Course r := by
  unfold checks
  refine (decides_checkRequired hmap hx.named).andThen (fun h v hcheck hnames => ?_) fun hlacking => ?_
  · exact .required (by simpa using h) hcheck hnames
  refine (decides_checkKnown hmap).andThen (fun h v hcheck hnames => ?_) fun hundeclared => ?_
  · exact .known (by simpa using hlacking) (by simpa using h) hcheck hnames
  rw [List.map_eq_nil_iff] at hlacking hundeclared
  by_cases hask : x.CanAsk
  case neg =>
    have hvain : ∃ e ∈ x.valued, x.asksInVain e.1 e.2 = true := by simpa [CanAsk] using hask
    obtain ⟨reason, htyped⟩ := ends_checkTyped_error hmap hx hvain
    exact ⟨_, htyped.bind_error, .unasked hlacking hundeclared hask⟩
  refine (decides_checkTyped hmap hx hask).andThen (fun h v hcheck hnames => ?_) fun hmistyped => ?_
  · exact .typed hlacking hundeclared hask (by simpa using h) hcheck hnames
  rw [List.map_eq_nil_iff] at hmistyped
  split
  case isTrue hinput =>
    obtain ⟨r, hplain, -⟩ := ends_checkPlain hinput
    exact ⟨r, hplain, .searched hlacking hundeclared hask hmistyped hinput hplain⟩
  case isFalse houtput => exact ⟨_, ends_pure (), .passed hlacking hundeclared hask hmistyped houtput⟩

/-- The checks end with the verdict, unless they come to a predicate that cannot be asked. -/
theorem checks_end (hmap : entries x.given = .ok m) (hx : Checkable x)
    (hfind : ∀ e ∈ x.plainParams, ∃ found?, x.find e.2 = .ok found?)
    (hask : x.lacking ≠ [] ∨ x.undeclared ≠ [] ∨ x.CanAsk) : ∃ r, Ends x.checks r ∧ x.IsVerdict r := by
  obtain ⟨r, hends, hcourse⟩ := checks_course hmap hx
  refine ⟨r, hends, ?_⟩
  cases hcourse with
  | required hlacking hcheck hnames =>
    refine isVerdict_of_first ?_ _ hcheck hnames
    simp [firstViolated?, checkOrder, violators, hlacking]
  | known hlacking hundeclared hcheck hnames =>
    refine isVerdict_of_first ?_ _ hcheck hnames
    simp [firstViolated?, checkOrder, violators, hlacking, hundeclared]
  | unasked hlacking hundeclared hvain => exact absurd hask (by simp [hlacking, hundeclared, hvain])
  | typed hlacking hundeclared _ hmistyped hcheck hnames =>
    refine isVerdict_of_first ?_ _ hcheck hnames
    simp [firstViolated?, checkOrder, violators, hlacking, hundeclared, hmistyped]
  | searched hlacking hundeclared _ hmistyped hinput hsearched =>
    have hplain := decides_checkPlain hinput hfind
    by_cases hmarked : x.marked = []
    · obtain rfl := hsearched.unique (hplain.passes (by rw [hmarked]; rfl))
      refine isVerdict_ok ?_
      simp [firstViolated?, checkOrder, violators, hlacking, hundeclared, hmistyped, hmarked]
    · obtain ⟨v, hcheck, hnames, hrefused⟩ := hplain.refuses (by simpa using hmarked)
      obtain rfl := hsearched.unique hrefused
      refine isVerdict_of_first ?_ v hcheck ?_
      · simp [firstViolated?, checkOrder, violators, hlacking, hundeclared, hmistyped, hinput, hmarked]
      · rw [violators, if_pos hinput]
        exact hnames
  | passed hlacking hundeclared _ hmistyped houtput =>
    refine isVerdict_ok ?_
    simp [firstViolated?, checkOrder, violators, hlacking, hundeclared, hmistyped, houtput]

-- A predicate that cannot be asked ends the checks with a fault of conversion.
theorem checks_end_error (hmap : entries x.given = .ok m) (hx : Checkable x) (hlacking : x.lacking = [])
    (hundeclared : x.undeclared = []) (hask : ¬x.CanAsk) :
    ∃ f, Ends x.checks (.error (.conversion f)) := by
  obtain ⟨r, hends, hcourse⟩ := checks_course hmap hx
  cases hcourse with
  | unasked => exact ⟨_, hends⟩
  | required hsome => exact absurd hlacking hsome
  | known _ hsome => exact absurd hundeclared hsome
  | typed _ _ hcan => exact absurd hcan hask
  | searched _ _ hcan => exact absurd hcan hask
  | passed _ _ hcan => exact absurd hcan hask

variable (x) in
/-- Nothing violates a check of what goes in, and no text that must be plain is refused by the finder of markup. -/
structure IsAcceptable : Prop where
  supplied : x.lacking = []
  known : x.undeclared = []
  typed : x.mistyped = []
  plain : ∀ e ∈ x.plainParams, x.find e.2 = .ok none

-- The finder may refuse a text, and then the checks end with its refusal.
theorem checks_accept (hmap : entries x.given = .ok m) (hx : Checkable x) (hask : x.CanAsk)
    (hinput : x.direction = .input) : ∃ r, Ends x.checks r ∧ (r = .ok () ↔ x.IsAcceptable) := by
  obtain ⟨r, hends, hcourse⟩ := checks_course hmap hx
  refine ⟨r, hends, ?_⟩
  cases hcourse with
  | required hlacking => exact ⟨nofun, fun ha => absurd ha.supplied hlacking⟩
  | known _ hundeclared => exact ⟨nofun, fun ha => absurd ha.known hundeclared⟩
  | unasked _ _ hvain => exact absurd hask hvain
  | typed _ _ _ hmistyped => exact ⟨nofun, fun ha => absurd ha.typed hmistyped⟩
  | searched hlacking hundeclared _ hmistyped _ hsearched =>
    refine ⟨fun hr => ?_, fun ha => hsearched.unique ((checkPlain_ok_iff hinput).mpr ha.plain)⟩
    subst hr
    exact ⟨hlacking, hundeclared, hmistyped, (checkPlain_ok_iff hinput).mp hsearched⟩
  | passed _ _ _ _ houtput => exact absurd hinput houtput

theorem ends_checks_of_acceptable (hmap : entries x.given = .ok m) (hx : Checkable x) (hask : x.CanAsk)
    (hinput : x.direction = .input) (h : x.IsAcceptable) : Ends x.checks (.ok ()) := by
  obtain ⟨r, hends, hr⟩ := checks_accept hmap hx hask hinput
  exact hr.mpr h ▸ hends

theorem ends_recordedChecks {r : Except Failure Unit} (h : Ends x.checks r) : Ends x.recordedChecks r := by
  intro t
  obtain ⟨t', ht⟩ := h t
  unfold recordedChecks
  rw [ht]
  cases r with
  | ok => exact ⟨t', rfl⟩
  | error f => cases f <;> exact ⟨_, rfl⟩

end Subject

/-! ## 3. Validation -/

variable {x : Subject} {m : Entries Value} {context : Value} {mode : Mode} {isRecorded : Bool}

theorem reportsError_spec (hmap : entries (given context) = .ok m) :
    ∃ reports, reportsError context = .ok reports ∧ (reports = true ↔
      Entries.get? Mode.responseKey m = some (.text "error") ∨
        Entries.get? Mode.responseKey m = some (.text "fail")) := by
  cases hgiven : given context with
  | map readOnly entries =>
    rw [hgiven] at hmap
    cases hmap
    have hhas : has Mode.responseKey (.map readOnly m) = .ok (Entries.get? Mode.responseKey m).isSome := rfl
    have hentries : entries (.map readOnly m) = .ok m := rfl
    unfold reportsError
    rw [hgiven]
    dsimp only
    rw [hhas, hentries]
    cases hresponse : Entries.get? Mode.responseKey m with
    | none => exact ⟨false, rfl, by simp⟩
    | some v =>
      dsimp only [Option.isSome_some, bind, Except.bind]
      rw [if_pos rfl, hresponse]
      cases v <;> exact ⟨_, rfl, by simp⟩
  | _ =>
    rw [hgiven] at hmap
    cases hmap

variable (x context mode isRecorded) in
/-- Validation of what is being checked. -/
def run : Checking Unit := validateWith x.find x.room x.store x.contract context mode x.locale? isRecorded

-- Validation goes through where nothing is checked, and otherwise ends as the checks do.
theorem run_eq (hmode : direction? mode = some x.direction) (hgiven : x.given = given context)
    (hmap : entries x.given = .ok m) :
    (x.IsExempt → run x context mode isRecorded = pure ()) ∧
      (¬x.IsExempt → run x context mode isRecorded = if isRecorded then x.recordedChecks else x.checks) := by
  have hx : x =
      { store := x.store, contract := x.contract, direction := x.direction, given := given context,
        locale? := x.locale?, find := x.find, room := x.room } := by rw [← hgiven]
  obtain ⟨reports, hreports, hiff⟩ := reportsError_spec (hgiven ▸ hmap)
  unfold run validateWith Subject.IsExempt
  rw [hmode]
  dsimp only
  rw [← hx, Subject.context_eq hmap, ← hiff, hreports]
  by_cases hdirection : x.direction = .output
  · rw [if_pos hdirection]
    cases reports <;> simp [hdirection]
  · rw [if_neg hdirection]
    simp [hdirection]

theorem ends_run {r : Except Failure Unit} (isRecorded : Bool) (hmode : direction? mode = some x.direction)
    (hgiven : x.given = given context) (hmap : entries x.given = .ok m) (hexempt : ¬x.IsExempt)
    (hchecks : Ends x.checks r) : Ends (run x context mode isRecorded) r := by
  rw [(run_eq hmode hgiven hmap).2 hexempt]
  split
  · exact x.ends_recordedChecks hchecks
  · exact hchecks

/-- Validation of what goes in returns exactly when nothing violates a check and no text is refused. -/
theorem run_returns_iff (hmode : direction? mode = some x.direction) (hgiven : x.given = given context)
    (hmap : entries x.given = .ok m) (hx : x.Checkable) (hask : x.CanAsk) (hinput : x.direction = .input)
    (t : Trace) : (∃ t', run x context mode isRecorded t = .ok () t') ↔ x.IsAcceptable := by
  have hexempt : ¬x.IsExempt := fun h => nomatch hinput.symm.trans h.1
  obtain ⟨r, hends, hr⟩ := Subject.checks_accept hmap hx hask hinput
  obtain ⟨t', ht'⟩ := ends_run isRecorded hmode hgiven hmap hexempt hends t
  rw [ht', ← hr]
  constructor
  · rintro ⟨t'', h⟩
    have hsame : withTrace r t' = withTrace (.ok ()) t'' := h
    exact withTrace_injective hsame
  · rintro rfl
    exact ⟨t', rfl⟩

/-- Validation is sound and complete: it returns when the result is exempt or nothing violates any check, and otherwise
names everything that violates the first check that something violates. -/
structure Concludes (x : Subject) (r : EStateM.Result Failure Trace Unit) : Prop where
  returns_iff : (∃ t, r = .ok () t) ↔ x.IsExempt ∨ ∀ check, x.violators check = []
  refuses : ∀ check, ¬x.IsExempt → x.firstViolated? = some check →
    ∃ v t, r = .error (.violation v) t ∧ v.check = check ∧ v.names = (x.violators check).map .text

theorem concludes_of_exempt (h : x.IsExempt) (t : Trace) : Concludes x (.ok () t) :=
  ⟨⟨fun _ => .inl h, fun _ => ⟨t, rfl⟩⟩, fun _ hn => absurd h hn⟩

theorem concludes_of_verdict {r : Except Failure Unit} (h : ¬x.IsExempt) (hr : x.IsVerdict r) (t : Trace) :
    Concludes x (withTrace r t) := by
  rw [Subject.IsVerdict] at hr
  split at hr
  case h_1 hfirst =>
    subst hr
    have hnone := Subject.firstViolated?_eq_none.mp hfirst
    refine ⟨⟨fun _ => .inr hnone, fun _ => ⟨t, rfl⟩⟩, fun check _ hsome => ?_⟩
    rw [hfirst] at hsome
    cases hsome
  case h_2 check hfirst =>
    obtain ⟨v, hcheck, hnames, rfl⟩ := hr
    refine ⟨⟨nofun, fun hret => ?_⟩, fun check' _ hfirst' => ?_⟩
    · have hnone := Subject.firstViolated?_eq_none.mpr (hret.resolve_left h)
      rw [hfirst] at hnone
      cases hnone
    · rw [hfirst] at hfirst'
      cases hfirst'
      exact ⟨v, t, rfl, hcheck, hnames⟩

theorem not_concludes_of_fault (h : ¬x.IsExempt) {f : Fault} {t : Trace} :
    ¬Concludes x (.error (.conversion f) t) := by
  intro hc
  cases hfirst : x.firstViolated? with
  | none =>
    obtain ⟨t', ht'⟩ := hc.returns_iff.mpr (.inr (Subject.firstViolated?_eq_none.mp hfirst))
    cases ht'
  | some check =>
    obtain ⟨v, t', ht', -⟩ := hc.refuses check h hfirst
    cases ht'

/-- Validation is sound and complete exactly if it never comes to a predicate that wants the text of a timestamp whose
offset is a day or more, or of collections for which there is no room. -/
theorem validate_concludes_iff (x : Subject) (context : Value) (mode : Mode) (isRecorded : Bool) (m : Entries Value)
    (t : Trace) (hmode : direction? mode = some x.direction) (hgiven : x.given = given context)
    (hmap : entries x.given = .ok m) (hx : x.Checkable)
    (hfind : ∀ e ∈ x.plainParams, ∃ found?, x.find e.2 = .ok found?) :
    Concludes x (validateWith x.find x.room x.store x.contract context mode x.locale? isRecorded t) ↔
      x.IsExempt ∨ x.lacking ≠ [] ∨ x.undeclared ≠ [] ∨ x.CanAsk := by
  change Concludes x (run x context mode isRecorded t) ↔ _
  by_cases hexempt : x.IsExempt
  · rw [(run_eq hmode hgiven hmap).1 hexempt]
    exact ⟨fun _ => .inl hexempt, fun _ => concludes_of_exempt hexempt t⟩
  · by_cases hask : x.lacking ≠ [] ∨ x.undeclared ≠ [] ∨ x.CanAsk
    · obtain ⟨r, hchecks, hverdict⟩ := Subject.checks_end hmap hx hfind hask
      obtain ⟨t', ht'⟩ := ends_run isRecorded hmode hgiven hmap hexempt hchecks t
      rw [ht']
      exact ⟨fun _ => .inr hask, fun _ => concludes_of_verdict hexempt hverdict t'⟩
    · obtain ⟨hlacking, hundeclared, hcan⟩ : x.lacking = [] ∧ x.undeclared = [] ∧ ¬x.CanAsk := by
        simpa [not_or] using hask
      obtain ⟨f, hchecks⟩ := Subject.checks_end_error hmap hx hlacking hundeclared hcan
      obtain ⟨t', ht'⟩ := ends_run isRecorded hmode hgiven hmap hexempt hchecks t
      rw [ht']
      exact ⟨fun h => absurd h (not_concludes_of_fault hexempt), fun h => absurd (h.resolve_left hexempt) hask⟩

/-! ## 4. An example -/

namespace Sample

-- A rule that looks at the text of a value.
def rule : Validator := { name := "absolute", rule := .imported "os.path:isabs", seesText := true }

def param : Param := { name := "due", type := "Timestamp", validators := [rule] }

def contract : Contract := { info := { name := "remind" }, params := [("due", 0)] }

def store : Store := { params := #[param], contracts := #[contract] }

/-- Midnight in a zone. -/
def moment (zone : Calendar.Zone) : Value := .timestamp ⟨⟨2024, 2, 29, by decide⟩, .midnight, some zone, false⟩

def subject (zone : Calendar.Zone) : Subject :=
  { store, contract, direction := .input, given := .ofEntries [("due", moment zone)], locale? := none,
    find := Markup.find?, room := .ofPlaces 1000 }

theorem checkable (zone : Calendar.Zone) : (subject zone).Checkable where
  named := ⟨by simp [subject, contract, store, Store.param, param], by simp [subject, contract, Entries.keys]⟩
  askable := by
    intro e he validator hvalidator
    have hvalued : (subject zone).valued = [(param, moment zone)] := rfl
    rw [hvalued, List.mem_singleton] at he
    subst he
    have hrule : validator = rule := List.mem_singleton.mp hvalidator
    subst hrule
    exact ⟨fun path hpath => by cases hpath; exact ⟨_, rfl⟩, fun _ => rfl⟩

end Sample

-- The text of a timestamp is no absolute path.
theorem validate_concludes_sample :
    ∃ v t, validateWith Markup.find? (.ofPlaces 1000) Sample.store Sample.contract (Sample.subject .utc).given .input
      none true {} = .error (.violation v) t ∧ v.check = .typed ∧ v.names = [.text "due"] := by
  have hplain : ∀ e ∈ (Sample.subject .utc).plainParams, ∃ found?, Markup.find? e.2 = .ok found? := by
    have hnone : (Sample.subject .utc).plainParams = [] := rfl
    simp [hnone]
  have hconcludes := validate_concludes_iff (Sample.subject .utc) (Sample.subject .utc).given .input true
    [("due", Sample.moment .utc)] {} rfl rfl rfl (Sample.checkable .utc) hplain
  have hask : (Sample.subject .utc).CanAsk := by
    intro e he
    have hvalued : (Sample.subject .utc).valued = [(Sample.param, Sample.moment .utc)] := rfl
    rw [hvalued, List.mem_singleton] at he
    rw [he]
    rfl
  exact (hconcludes.mpr (.inr (.inr (.inr hask)))).refuses .typed (fun h => nomatch h.1) rfl

/-- A moment with an offset of thirty hours has no text, so nobody is told that it fails its rule. -/
theorem long_offset_escapes :
    (Sample.subject (.statedOffset none 108000)).firstViolated? = some .typed ∧
      ∃ t, validateWith Markup.find? (.ofPlaces 1000) Sample.store Sample.contract
        (Sample.subject (.statedOffset none 108000)).given .input none true {} = .error (.conversion .offsetTooLong) t :=
  ⟨rfl, _, rfl⟩

end CallContract.Validation
