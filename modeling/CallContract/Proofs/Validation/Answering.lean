import CallContract.Proofs.Markup.Readable
import CallContract.Proofs.Validation.Completeness

/-!
# Answering — when the question of validity has an answer

Only violations make a context invalid, so the question is answered when the checks go through or come to a violation.
It stays open when no earlier check fails and a predicate wants the text of a value that has none, or when a text that
must be plain cannot be read.
-/

namespace CallContract.Validation

open CallContract.Context

namespace Subject

variable {x : Subject} {m : Entries Value}

/-! ## 1. Checks that are answered -/

/-- The answer that a result of the checks gives; only a violation makes it no. -/
def answer : Except Failure Unit → Except Failure Bool
  | .ok _ => .ok true
  | .error (.violation _) => .ok false
  | .error f => .error f

variable (x) in
/-- The checks come to a violation before anything that they cannot do, or to nothing of that kind. -/
def IsAnswerable : Prop :=
  x.lacking ≠ [] ∨ x.undeclared ≠ [] ∨
    x.CanAsk ∧ (x.mistyped ≠ [] ∨ ∀ e ∈ x.plainParams, ∃ found?, x.find e.2 = .ok found?)

theorem ends_searchNamed_of_refused {e : Param × String} {refusal : Markup.Refusal}
    (h : x.find e.2 = .error refusal) : Ends (x.searchNamed e) (.error (.markup refusal)) := by
  rw [searchNamed, Markup.messages, h]
  exact ends_throw _

-- A text that the finder refuses ends the check for markup.
theorem ends_checkPlain_refused (hinput : x.direction = .input)
    (h : ¬∀ e ∈ x.plainParams, ∃ found?, x.find e.2 = .ok found?) :
    ∃ refusal, Ends x.checkPlain (.error (.markup refusal)) := by
  rw [checkPlain, plainTexts_eq hinput, List.mapM_map]
  rcases ends_mapM_or fun e _ => ends_of_searchNamed e with ⟨hsteps, -⟩ | ⟨e, -, f, hf, hsearched⟩
  · refine absurd (fun e he => ?_) h
    obtain ⟨b, hb⟩ := hsteps e he
    rcases ends_searchNamed e with ⟨-, hfound⟩ | ⟨refusal, hrefusal⟩
    · exact hfound
    · cases hb.unique hrefusal
  · rcases ends_searchNamed e with ⟨⟨found, hfound⟩, -⟩ | ⟨refusal, hrefusal⟩
    · cases hf.unique hfound
    · cases hf.unique hrefusal
      exact ⟨refusal, hsearched.bind_error⟩

/-- There is an answer when there can be one, and it is right. -/
structure Answers (x : Subject) (q : Except Failure Bool) : Prop where
  answered_iff : (∃ b, q = .ok b) ↔ x.IsAnswerable
  accepted_iff : ∀ b, q = .ok b → (b = true ↔ x.IsAcceptable)

theorem answers_yes (hanswerable : x.IsAnswerable) (hx : x.IsAcceptable) : Answers x (.ok true) :=
  ⟨iff_of_true ⟨true, rfl⟩ hanswerable, fun _ h => by cases h; exact iff_of_true rfl hx⟩

theorem answers_no (hanswerable : x.IsAnswerable) (hx : ¬x.IsAcceptable) : Answers x (.ok false) :=
  ⟨iff_of_true ⟨false, rfl⟩ hanswerable, fun _ h => by cases h; exact iff_of_false nofun hx⟩

theorem answers_open (hopen : ¬x.IsAnswerable) (f : Failure) : Answers x (.error f) :=
  ⟨iff_of_false nofun hopen, nofun⟩

/-- The checks of what goes in are answered as they can be. -/
theorem checks_answer (hmap : entries x.given = .ok m) (hx : Checkable x) (hinput : x.direction = .input) :
    ∃ r, Ends x.checks r ∧ Answers x (answer r) := by
  obtain ⟨r, hends, hcourse⟩ := checks_course hmap hx
  refine ⟨r, hends, ?_⟩
  cases hcourse with
  | required hlacking => exact answers_no (.inl hlacking) fun ha => hlacking ha.supplied
  | known _ hundeclared => exact answers_no (.inr (.inl hundeclared)) fun ha => hundeclared ha.known
  | unasked hlacking hundeclared hvain =>
    refine answers_open ?_ _
    simp [IsAnswerable, hlacking, hundeclared, hvain]
  | typed _ _ hask hmistyped => exact answers_no (.inr (.inr ⟨hask, .inl hmistyped⟩)) fun ha => hmistyped ha.typed
  | searched hlacking hundeclared hask hmistyped _ hsearched =>
    by_cases hfind : ∀ e ∈ x.plainParams, ∃ found?, x.find e.2 = .ok found?
    · have hanswerable : x.IsAnswerable := .inr (.inr ⟨hask, .inr hfind⟩)
      have hplain := decides_checkPlain hinput hfind
      by_cases hmarked : x.marked = []
      · obtain rfl := hsearched.unique (hplain.passes (by rw [hmarked]; rfl))
        exact answers_yes hanswerable ⟨hlacking, hundeclared, hmistyped, (checkPlain_ok_iff hinput).mp hsearched⟩
      · obtain ⟨v, -, -, hrefused⟩ := hplain.refuses (by simpa using hmarked)
        obtain rfl := hsearched.unique hrefused
        refine answers_no hanswerable fun ha => ?_
        cases hrefused.unique ((checkPlain_ok_iff hinput).mpr ha.plain)
    · obtain ⟨refusal, hrefused⟩ := ends_checkPlain_refused hinput hfind
      obtain rfl := hsearched.unique hrefused
      refine answers_open ?_ _
      rintro (h | h | ⟨-, h | h⟩)
      exacts [h hlacking, h hundeclared, h hmistyped, hfind h]
  | passed _ _ _ _ houtput => exact absurd hinput houtput

end Subject

/-! ## 2. The question of validity -/

variable {x : Subject} {m : Entries Value} {context : Value}

theorem ends_isValid {r : Except Failure Unit}
    (h : Ends (validate x.room x.store x.contract context .input x.locale? false) r) :
    Ends (isValid x.room x.store x.contract context x.locale?) (Subject.answer r) := by
  intro t
  obtain ⟨t', ht'⟩ := h t
  refine ⟨t', ?_⟩
  unfold isValid
  rw [ht']
  cases r with
  | ok => rfl
  | error f => cases f <;> rfl

/-- Validity is answered exactly if a violation comes first, or every predicate can be asked and every text that must be
plain can be read; and the answer is yes exactly if nothing is violated.  The search for markup returns exactly on the
texts that can be read, among them all without the start of a marked section and without a reference that is too
long. -/
theorem isValid_answers_iff (x : Subject) (context : Value) (m : Entries Value) (t : Trace)
    (hinput : x.direction = .input) (hfind : x.find = Markup.find?) (hgiven : x.given = given context)
    (hmap : entries x.given = .ok m) (hx : x.Checkable) :
    ((∃ answer t', isValid x.room x.store x.contract context x.locale? t = .ok answer t') ↔
        x.lacking ≠ [] ∨ x.undeclared ≠ [] ∨
          x.CanAsk ∧ (x.mistyped ≠ [] ∨ ∀ e ∈ x.plainParams, ¬Markup.IsUnreadable e.2))
      ∧ (∀ answer t', isValid x.room x.store x.contract context x.locale? t = .ok answer t' →
          (answer = true ↔ x.IsAcceptable))
      ∧ (∀ text, (∃ found?, Markup.find? text = .ok found?) ↔ ¬Markup.IsUnreadable text)
      ∧ ∀ text : String, ¬"<![".toList <:+: text.toList → (∀ s, s <:+ text.toList → ¬Markup.IsOverlong s) →
          ∃ found?, Markup.find? text = .ok found? := by
  have hexempt : ¬x.IsExempt := fun h => nomatch hinput.symm.trans h.1
  obtain ⟨r, hends, hanswers⟩ := Subject.checks_answer hmap hx hinput
  have hmode : direction? .input = some x.direction := by rw [hinput]; rfl
  have hrun : Ends (run x context .input false) r := ends_run false hmode hgiven hmap hexempt hends
  rw [run, hfind] at hrun
  obtain ⟨t', ht'⟩ := ends_isValid hrun t
  have hresult : ∀ b,
      (∃ t', isValid x.room x.store x.contract context x.locale? t = .ok b t') ↔ Subject.answer r = .ok b := by
    intro b
    rw [ht']
    constructor
    · rintro ⟨t'', h⟩
      have hsame : withTrace (Subject.answer r) t' = withTrace (.ok b) t'' := h
      exact withTrace_injective hsame
    · intro h
      exact ⟨t', by rw [h]; rfl⟩
  have hanswerable : x.IsAnswerable ↔ x.lacking ≠ [] ∨ x.undeclared ≠ [] ∨
      x.CanAsk ∧ (x.mistyped ≠ [] ∨ ∀ e ∈ x.plainParams, ¬Markup.IsUnreadable e.2) := by
    simp only [Subject.IsAnswerable, hfind, Markup.find?_returns_iff]
  refine ⟨?_, fun b t' h => hanswers.accepted_iff b ((hresult b).mp ⟨t', h⟩), Markup.find?_returns_iff,
    fun text hsection hreference =>
      (Markup.find?_returns_iff text).mpr (Markup.not_isUnreadable hsection hreference)⟩
  rw [← hanswerable, ← hanswers.answered_iff]
  exact exists_congr hresult

/-! ## 3. An example -/

namespace Plain

def param : Param := { name := "note" }

def contract : Contract := { info := { name := "file" }, params := [("note", 0)] }

def store : Store := { params := #[param], contracts := #[contract] }

def subject (text : String) : Subject :=
  { store, contract, direction := .input, given := .ofEntries [("note", .text text)], locale? := none,
    find := Markup.find?, room := .ofPlaces 1000 }

theorem checkable (text : String) : (subject text).Checkable where
  named := ⟨by simp [subject, contract, store, Store.param, param], by simp [subject, contract, Entries.keys]⟩
  askable := by
    intro e he validator hvalidator
    have hvalued : (subject text).valued = [(param, .text text)] := rfl
    rw [hvalued, List.mem_singleton] at he
    subst he
    cases hvalidator

theorem plainParams_eq (text : String) : (subject text).plainParams = [(param, text)] := rfl

theorem canAsk (text : String) : (subject text).CanAsk := by
  intro e he
  have hvalued : (subject text).valued = [(param, .text text)] := rfl
  rw [hvalued, List.mem_singleton] at he
  rw [he]
  rfl

end Plain

-- A comparison is no markup, and it can be read.
theorem isValid_answers_sample :
    ∃ t, isValid (.ofPlaces 1000) Plain.store Plain.contract (Plain.subject "a < b").given none {} = .ok true t := by
  obtain ⟨hanswered, hright, -, hreads⟩ := isValid_answers_iff (Plain.subject "a < b") (Plain.subject "a < b").given
    [("note", .text "a < b")] {} rfl rfl rfl rfl (Plain.checkable "a < b")
  have hplain : ∀ e ∈ (Plain.subject "a < b").plainParams, ¬Markup.IsUnreadable e.2 := by
    intro e he
    rw [Plain.plainParams_eq, List.mem_singleton] at he
    rw [he, ← Markup.find?_returns_iff]
    refine hreads "a < b" (by decide) fun s hs hlong => ?_
    exact absurd (Nat.lt_of_lt_of_le hlong.lt_length hs.length_le) (by decide)
  obtain ⟨answer, t, hanswer⟩ := hanswered.mpr (.inr (.inr ⟨Plain.canAsk _, .inr hplain⟩))
  have haccepted : (Plain.subject "a < b").IsAcceptable := by
    refine ⟨rfl, rfl, rfl, fun e he => ?_⟩
    rw [Plain.plainParams_eq, List.mem_singleton] at he
    rw [he]
    decide +kernel
  obtain rfl := (hright answer t hanswer).mpr haccepted
  exact ⟨t, hanswer⟩

/-- Behind an element, a section without a known name keeps the text from being read, so that there is no answer. -/
theorem malformed_section_escapes :
    Markup.find? "<b><![x]" = .error .malformedSection ∧
      ∃ t, isValid (.ofPlaces 1000) Plain.store Plain.contract (Plain.subject "<b><![x]").given none {}
        = .error (.markup .malformedSection) t := by
  have hfind : Markup.find? "<b><![x]" = .error .malformedSection := by decide +kernel
  have hplain : Ends (Plain.subject "<b><![x]").checkPlain (.error (.markup .malformedSection)) := by
    rw [Subject.checkPlain, Subject.plainTexts_eq rfl, List.mapM_map, Plain.plainParams_eq, List.mapM_cons]
    exact (Subject.ends_searchNamed_of_refused hfind).bind_error.bind_error
  have hchecks : Ends (Plain.subject "<b><![x]").checks (.error (.markup .malformedSection)) :=
    ((Subject.decides_checkRequired rfl (Plain.checkable _).named).passes rfl).bind <|
      ((Subject.decides_checkKnown rfl).passes rfl).bind <|
        ((Subject.decides_checkTyped rfl (Plain.checkable _) (Plain.canAsk _)).passes rfl).bind hplain
  refine ⟨hfind, ?_⟩
  exact ends_isValid (ends_run false rfl rfl rfl (by simp [Subject.IsExempt, Plain.subject]) hchecks) {}

end CallContract.Validation
