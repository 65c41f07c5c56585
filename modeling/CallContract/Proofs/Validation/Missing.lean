import CallContract.Proofs.Stateful
import CallContract.Proofs.Validation.Completeness

/-!
# Missing — which missing parameters are reported

Required parameters are looked for before anything else.  So what is missing is reported whatever other keys and values
there are, and whatever their predicates do; and no later check takes anything for missing.
-/

namespace CallContract.Validation

open CallContract.Context

/-! ## 1. Violations of a kind -/

section

variable {α β : Type} {kind : Check → Prop} {action : Checking α} {next : α → Checking β} {f : Failure}

/-- A violation that an action ends with is one of a check of some kind; the action may end otherwise too. -/
def Blames (kind : Check → Prop) (action : Checking α) : Prop :=
  ∀ t v t', action t = .error (.violation v) t' → kind v.check

theorem blames_pure (a : α) : Blames kind (pure a) := by
  intro t v t' ht
  cases ht

theorem blames_throw (h : ∀ v, f ≠ .violation v) : Blames kind (throw f : Checking α) := by
  intro t v t' ht
  cases ht
  exact absurd rfl (h v)

theorem blames_modify (f : Trace → Trace) : Blames kind (modify f : Checking PUnit) := by
  intro t v t' ht
  cases ht

theorem Blames.bind (h : Blames kind action) (hnext : ∀ a, Blames kind (next a)) : Blames kind (action >>= next) := by
  intro t v t' ht
  cases haction : action t with
  | ok a t₁ =>
    rw [bind_of_ok haction] at ht
    exact hnext a t₁ v t' ht
  | error f t₁ =>
    rw [bind_of_error haction] at ht
    cases ht
    exact h t v t' haction

theorem blames_mapM {step : α → Checking β} (h : ∀ a, Blames kind (step a)) (as : List α) :
    Blames kind (as.mapM step) := by
  induction as with
  | nil => exact blames_pure []
  | cons a rest ih =>
    rw [List.mapM_cons]
    exact (h a).bind fun b => ih.bind fun bs => blames_pure (b :: bs)

end

/-! ## 2. The checks -/

namespace Subject

variable {x : Subject} {kind : Check → Prop}

theorem blames_report {check : Check} (hkind : kind check) (found : List (Value × List String)) :
    Blames kind (x.report check found) := by
  intro t v t' ht
  unfold report at ht
  split at ht
  · cases ht
  · cases ht
    exact hkind

theorem blames_demandMap : Blames kind x.demandMap := by
  unfold demandMap
  split
  · exact blames_pure ()
  · exact blames_throw (by simp)

theorem blames_param (name : String) : Blames kind (x.param name) := by
  unfold param
  split
  · exact blames_pure _
  · exact blames_throw (by simp)

theorem blames_keys : Blames kind x.keys := by
  unfold keys
  split
  · exact blames_throw (by simp)
  · split
    · exact blames_throw (by simp)
    · exact blames_pure _

theorem blames_checkKnown (hkind : kind .known) : Blames kind x.checkKnown := by
  refine blames_keys.bind fun keys => ?_
  refine (blames_mapM (fun key => ?_) _).bind fun found => blames_report hkind found
  split
  · exact blames_pure _
  · exact blames_throw (by simp)

theorem blames_argument (p : Param) (validator : Validator) (v : Value) : Blames kind (x.argument p validator v) := by
  unfold argument
  split
  · split
    · exact blames_pure _
    · split
      · exact blames_pure _
      · exact blames_throw (by simp)
    · exact blames_throw (by simp)
  · exact blames_pure v

theorem blames_ask (p : Param) (validator : Validator) (holds : Predicate) (v : Value) :
    Blames kind (x.ask p validator holds v) := by
  unfold ask
  split
  · exact blames_pure _
  · exact blames_pure _
  · exact (blames_modify _).bind fun _ => blames_pure _

theorem blames_askOpenly (p : Param) (validator : Validator) (holds : Predicate) (v : Value) :
    Blames kind (x.askOpenly p validator holds v) := by
  unfold askOpenly
  split
  · exact (blames_modify _).bind fun _ => blames_ask p validator holds v
  · exact blames_ask p validator holds v

theorem blames_runValidator (p : Param) (v : Value) (validator : Validator) :
    Blames kind (x.runValidator p v validator) := by
  unfold runValidator
  split
  · split
    · exact blames_pure _
    · exact blames_pure _
  · exact (blames_argument p validator v).bind fun u => blames_askOpenly p validator _ u
  · split
    · exact blames_throw (by simp)
    · exact (blames_argument p validator v).bind fun u => blames_ask p validator _ u

theorem blames_judge (p : Param) (v : Value) : Blames kind (x.judge p v) := by
  unfold judge
  split
  · exact blames_pure _
  · exact (blames_mapM (blames_runValidator p v) _).bind fun _ => blames_pure _

theorem blames_judgeNamed (e : Param × Value) : Blames kind (x.judgeNamed e) :=
  (blames_param e.1.name).bind fun p => (blames_judge p e.2).bind fun _ => blames_pure _

theorem blames_checkTyped (hkind : kind .typed) : Blames kind x.checkTyped := by
  have hjudged : Blames kind (do x.report .typed (← x.valued.mapM x.judgeNamed)) :=
    (blames_mapM blames_judgeNamed x.valued).bind fun found => blames_report hkind found
  rw [checkTyped, presentValues_eq, List.mapM_map]
  dsimp only
  split
  · exact blames_demandMap.bind fun _ => hjudged
  · exact hjudged

theorem blames_checkPlain (hkind : kind .plain) : Blames kind x.checkPlain := by
  refine (blames_mapM (fun e => ?_) _).bind fun found => blames_report hkind found
  dsimp only
  split
  · exact blames_pure _
  · exact blames_throw (by simp)

theorem blames_recordedChecks (h : Blames kind x.checks) : Blames kind x.recordedChecks := by
  intro t v t' ht
  unfold recordedChecks at ht
  split at ht
  case h_1 v₁ t₁ hchecks =>
    cases ht
    exact h t v t₁ hchecks
  case h_2 => exact h t v t' ht

/-! ## 3. What is missing -/

variable {m : Entries Value}

theorem blames_checks (hmap : entries x.given = .ok m) (hnames : x.store.HoldsByName x.contract)
    (hlacking : x.lacking = []) : Blames (· ≠ .required) x.checks := by
  have hrest : Blames (· ≠ Check.required) (do
      x.checkKnown
      x.checkTyped
      if x.direction = .input then x.checkPlain) := by
    refine (blames_checkKnown (by decide)).bind fun _ => (blames_checkTyped (by decide)).bind fun _ => ?_
    split
    · exact blames_checkPlain (by decide)
    · exact blames_pure ()
  have hrequired := (decides_checkRequired hmap hnames).passes (by rw [hlacking]; rfl)
  intro t v t' ht
  obtain ⟨t₁, ht₁⟩ := hrequired t
  rw [checks, bind_of_ok ht₁] at ht
  exact hrest t₁ v t' ht

end Subject

/-- A result reports what is missing: all of it when there is some, and nothing as missing otherwise. -/
structure ReportsMissing (names : List String) (r : EStateM.Result Failure Trace Unit) : Prop where
  reported_iff : (∃ v t, r = .error (.violation v) t ∧ v.check = .required) ↔ names ≠ []
  names_eq : ∀ v t, r = .error (.violation v) t → v.check = .required → v.names = names.map .text

/-- Validation reports exactly the required parameters without a value. -/
theorem run_reports_missing {x : Subject} {m : Entries Value} {context : Value} {mode : Mode} {isRecorded : Bool}
    (hmode : direction? mode = some x.direction) (hgiven : x.given = given context) (hmap : entries x.given = .ok m)
    (hnames : x.store.HoldsByName x.contract) (hexempt : ¬x.IsExempt) (t : Trace) :
    ReportsMissing x.lacking (run x context mode isRecorded t) := by
  by_cases hlacking : x.lacking = []
  · have hchecks := Subject.blames_checks hmap hnames hlacking
    have hrun : Blames (· ≠ .required) (run x context mode isRecorded) := by
      rw [(run_eq hmode hgiven hmap).2 hexempt]
      split
      · exact Subject.blames_recordedChecks hchecks
      · exact hchecks
    refine ⟨⟨?_, fun h => absurd hlacking h⟩, fun v t' ht hcheck => absurd hcheck (hrun t v t' ht)⟩
    rintro ⟨v, t', ht, hcheck⟩
    exact absurd hcheck (hrun t v t' ht)
  · obtain ⟨v, hcheck, hall, hrequired⟩ := (Subject.decides_checkRequired hmap hnames).refuses (by simpa using hlacking)
    have hchecks : Ends x.checks (.error (.violation v)) := hrequired.bind_error
    obtain ⟨t', ht'⟩ := ends_run isRecorded hmode hgiven hmap hexempt hchecks t
    rw [ht']
    refine ⟨iff_of_true ⟨v, t', rfl, hcheck⟩ hlacking, fun v' t'' h _ => ?_⟩
    cases h
    exact hall

end CallContract.Validation
