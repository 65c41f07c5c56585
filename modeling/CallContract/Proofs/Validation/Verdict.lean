import CallContract.Proofs.Conversion
import CallContract.Proofs.Naming
import CallContract.Validation
import Mathlib.Tactic.Choose

/-!
# Verdict — what each check decides

A check ends in one way, whatever has been recorded before it: it goes through, or it names everything that violates
it.  Only the check of types can end otherwise, namely when a predicate wants the text of a value that has none.
-/

namespace CallContract.Validation

open CallContract.Context

/-! ## 1. How an action ends -/

section

variable {α β : Type} {action : Checking α} {next : α → Checking β} {a : α} {f : Failure} {r r' : Except Failure α}
  {q : Except Failure β}

/-- A result with what has been recorded. -/
def withTrace (r : Except Failure α) (t : Trace) : EStateM.Result Failure Trace α :=
  match r with
  | .ok a => .ok a t
  | .error f => .error f t

/-- An action has one result, whatever has been recorded before. -/
def Ends (action : Checking α) (r : Except Failure α) : Prop := ∀ t, ∃ t', action t = withTrace r t'

theorem ends_pure (a : α) : Ends (pure a) (.ok a) := fun t => ⟨t, rfl⟩

theorem ends_throw (f : Failure) : Ends (throw f : Checking α) (.error f) := fun t => ⟨t, rfl⟩

theorem Ends.bind (h : Ends action (.ok a)) (hnext : Ends (next a) q) : Ends (action >>= next) q := by
  intro t
  obtain ⟨t₁, h₁⟩ := h t
  obtain ⟨t₂, h₂⟩ := hnext t₁
  refine ⟨t₂, ?_⟩
  change EStateM.bind action next t = _
  rw [EStateM.bind, h₁]
  exact h₂

theorem Ends.bind_error (h : Ends action (.error f)) : Ends (action >>= next) (.error f) := by
  intro t
  obtain ⟨t₁, h₁⟩ := h t
  refine ⟨t₁, ?_⟩
  change EStateM.bind action next t = _
  rw [EStateM.bind, h₁]
  rfl

theorem withTrace_injective {t t' : Trace} (h : withTrace r t = withTrace r' t') : r = r' := by
  cases r <;> cases r' <;> simp_all [withTrace]

theorem Ends.unique (h : Ends action r) (h' : Ends action r') : r = r' := by
  obtain ⟨t₁, h₁⟩ := h {}
  obtain ⟨t₂, h₂⟩ := h' {}
  exact withTrace_injective (h₁.symm.trans h₂)

-- Every step gives its result, and they are given together.
theorem ends_mapM {es : List α} {step : α → Checking β} {result : α → β}
    (h : ∀ e ∈ es, Ends (step e) (.ok (result e))) : Ends (es.mapM step) (.ok (es.map result)) := by
  induction es with
  | nil => exact ends_pure []
  | cons e rest ih =>
    rw [List.mapM_cons]
    have hrest := ih fun e' he' => h e' (List.mem_cons_of_mem e he')
    exact (h e List.mem_cons_self).bind (hrest.bind (ends_pure _))

-- The first step that fails ends them all.
theorem ends_mapM_error {es : List α} {step : α → Checking β}
    (h : ∀ e ∈ es, (∃ b, Ends (step e) (.ok b)) ∨ Ends (step e) (.error f))
    (hexists : ∃ e ∈ es, Ends (step e) (.error f)) : Ends (es.mapM step) (.error f) := by
  induction es with
  | nil => simp at hexists
  | cons e rest ih =>
    rw [List.mapM_cons]
    rcases h e List.mem_cons_self with ⟨b, hb⟩ | hf
    · refine hb.bind (Ends.bind_error (ih (fun e' he' => h e' (List.mem_cons_of_mem e he')) ?_))
      obtain ⟨e', he', hf⟩ := hexists
      rcases List.mem_cons.mp he' with rfl | he'
      · cases hb.unique hf
      · exact ⟨e', he', hf⟩
    · exact hf.bind_error

-- Steps that end in some way end together: all go through, or they end with the failure of one of them.
theorem ends_mapM_or {es : List α} {step : α → Checking β} (h : ∀ e ∈ es, ∃ r, Ends (step e) r) :
    ((∀ e ∈ es, ∃ b, Ends (step e) (.ok b)) ∧ ∃ bs, Ends (es.mapM step) (.ok bs)) ∨
      ∃ e ∈ es, ∃ f, Ends (step e) (.error f) ∧ Ends (es.mapM step) (.error f) := by
  induction es with
  | nil => exact .inl ⟨nofun, [], ends_pure []⟩
  | cons e rest ih =>
    rw [List.mapM_cons]
    obtain ⟨r, hr⟩ := h e List.mem_cons_self
    cases r with
    | error f => exact .inr ⟨e, List.mem_cons_self, f, hr, hr.bind_error⟩
    | ok b =>
      rcases ih fun e' he' => h e' (List.mem_cons_of_mem e he') with ⟨hsteps, bs, hbs⟩ | ⟨e', he', f, hf, hrest⟩
      · exact .inl ⟨List.forall_mem_cons.mpr ⟨⟨b, hr⟩, hsteps⟩, _, hr.bind (hbs.bind (ends_pure _))⟩
      · exact .inr ⟨e', List.mem_cons_of_mem e he', f, hf, hr.bind hrest.bind_error⟩

end

/-! ## 2. How a check ends -/

namespace Subject

variable (x : Subject)

/-- A check goes through when nothing violates it, and otherwise names the violators. -/
structure Decides (action : Checking Unit) (check : Check) (violators : List Value) : Prop where
  passes : violators = [] → Ends action (.ok ())
  refuses : violators ≠ [] → ∃ v : Violation, v.check = check ∧ v.names = violators ∧
    Ends action (.error (.violation v))

variable {x} {α : Type} {check : Check}

/-- A check and what follows it end as one of them does. -/
theorem Decides.andThen {action : Checking Unit} {violators : List Value} (h : Decides action check violators)
    {next : Unit → Checking Unit} {P : Except Failure Unit → Prop}
    (hrefused : violators ≠ [] → ∀ v : Violation, v.check = check → v.names = violators → P (.error (.violation v)))
    (hpassed : violators = [] → ∃ r, Ends (next ()) r ∧ P r) : ∃ r, Ends (action >>= next) r ∧ P r := by
  by_cases hviolators : violators = []
  · obtain ⟨r, hr, hP⟩ := hpassed hviolators
    exact ⟨r, (h.passes hviolators).bind hr, hP⟩
  · obtain ⟨v, hcheck, hnames, hends⟩ := h.refuses hviolators
    exact ⟨_, hends.bind_error, hrefused hviolators v hcheck hnames⟩

variable (x check) in
theorem decides_report (found : List (Value × List String)) :
    Decides (x.report check found) check ((found.filter (!·.2.isEmpty)).map (·.1)) := by
  unfold report
  cases h : found.filter (!·.2.isEmpty) with
  | nil => exact ⟨fun _ => ends_pure (), fun h => absurd rfl h⟩
  | cons e rest => exact ⟨nofun, fun _ => ⟨_, rfl, rfl, ends_throw _⟩⟩

theorem Decides.of_ends {action action' : Checking Unit} {violators : List Value}
    (h : Decides action check violators) (hends : ∀ r, Ends action r → Ends action' r) :
    Decides action' check violators := by
  refine ⟨fun hv => hends _ (h.passes hv), fun hv => ?_⟩
  obtain ⟨v, hcheck, hnames, hrefused⟩ := h.refuses hv
  exact ⟨v, hcheck, hnames, hends _ hrefused⟩

theorem Decides.after {prior : Checking α} {a : α} {next : α → Checking Unit} {violators : List Value}
    (hprior : Ends prior (.ok a)) (h : Decides (next a) check violators) :
    Decides (prior >>= next) check violators := h.of_ends fun _ => hprior.bind

variable (x check) in
/-- A check that judges elements one by one names those with messages. -/
theorem decides_mapM {es : List α} {step : α → Checking (Value × List String)} {name : α → Value} {fails : α → Bool}
    (h : ∀ e ∈ es, ∃ messages, Ends (step e) (.ok (name e, messages)) ∧ messages.isEmpty = !fails e) :
    Decides (do x.report check (← es.mapM step)) check ((es.filter fails).map name) := by
  -- The messages of each element, so that the results are a map over the elements.
  choose! messages hends hempty using h
  have hmapM := ends_mapM hends
  have hreport := decides_report x check (es.map fun e => (name e, messages e))
  have hnames : ((es.map fun e => (name e, messages e)).filter (!·.2.isEmpty)).map (·.1)
      = (es.filter fails).map name := by
    rw [List.filter_map, List.map_map]
    have hfilter : es.filter ((!·.2.isEmpty) ∘ fun e => (name e, messages e)) = es.filter fails := by
      apply List.filter_congr
      intro e he
      simp [hempty e he]
    rw [hfilter]
    rfl
  rw [hnames] at hreport
  exact hreport.after hmapM

variable (x check) in
-- A check that finds something wrong with each element names them all.
theorem decides_mapM_all {es : List α} {step : α → Checking (Value × List String)} {name : α → Value}
    (h : ∀ e ∈ es, ∃ message, Ends (step e) (.ok (name e, [message]))) :
    Decides (do x.report check (← es.mapM step)) check (es.map name) := by
  have hfails : ∀ e ∈ es, ∃ messages, Ends (step e) (.ok (name e, messages)) ∧ messages.isEmpty = !true := by
    intro e he
    obtain ⟨message, hmessage⟩ := h e he
    exact ⟨[message], hmessage, rfl⟩
  have hall := decides_mapM x check hfails
  rw [List.filter_eq_self.mpr fun _ _ => rfl] at hall
  exact hall

/-! ## 3. Violators -/

variable (x) in
/-- The parameters of the direction, in the order of definition. -/
def taking : List Param := (x.store.paramsOf x.contract).filter fun p => p.mode.takesPartIn (.plain x.direction)

variable (x) in
/-- The value of a parameter, unless it is missing or null. -/
def value? (p : Param) : Option Value := present? p.name x.context

variable (x) in
-- The required parameters without a value.
def lacking : List String := (x.taking.filter fun p => !p.optional && (x.value? p).isNone).map (·.name)

variable (x) in
-- The keys that are neither declared nor reserved.
def undeclared : List String :=
  (Entries.keys x.context).filter fun key =>
    !((x.taking.map (·.name)).contains key || (Mode.reserved x.direction).contains key)

/-- Whether a validator wants the text of the value that it asks a predicate about. -/
def asksForText (validator : Validator) : Bool :=
  validator.seesText && match validator.rule with
    | .declaredType => false
    | _ => true

variable (x) in
/-- Whether a value has no text although its integers are not too long: a timestamp whose offset cannot be used, or
collections too deep within each other. -/
def lacksText (v : Value) : Bool := !(v.fits x.room .writing && v.hasUsableOffset)

variable (x) in
/-- Whether a validator of a parameter asks for the text of a value that has none. -/
def asksInVain (p : Param) (v : Value) : Bool := x.lacksText v && p.validators.any asksForText

variable (x) in
/-- What a validator is asked about: the value, or its text.  `none` when the value has no text. -/
def seen? (p : Param) (validator : Validator) (v : Value) : Option Value :=
  if validator.seesText then
    match Conversion.toText x.room x.locale? (some p.name) v with
    | .ok text => some text
    | .error _ => (v.displayed x.room).toOption.map fun shown => .text (String.ofList shown)
  else some v

variable (x) in
/-- Whether a value passes a validator; a predicate that gives no answer counts as failed. -/
def passesValidator (p : Param) (v : Value) (validator : Validator) : Bool :=
  match validator.rule with
  | .declaredType => SemanticType.admits p.type v
  | .predicate holds => (x.seen? p validator v).bind holds == some true
  | .imported path => match Predicate.load path with
    | .ok holds => (x.seen? p validator v).bind holds == some true
    | .error _ => false

variable (x) in
/-- Whether a value passes all validators of a parameter, or has the declared form when there are none. -/
def accepts (p : Param) (v : Value) : Bool :=
  if p.validators.isEmpty then SemanticType.admits p.type v else p.validators.all (x.passesValidator p v)

variable (x) in
-- The parameters with a value that is not accepted.
def mistyped : List String := (x.taking.filter fun p => (x.value? p).any fun v => !x.accepts p v).map (·.name)

variable (x) in
/-- Whether a value is a text in which markup is found. -/
def hasMarkup : Value → Bool
  | .text s => match x.find s with
    | .ok found? => found?.isSome
    | .error _ => false
  | _ => false

variable (x) in
-- The text parameters with markup where it is not allowed.
def marked : List String :=
  (x.taking.filter fun p => p.markup ≠ .any && SemanticType.isText p.type && (x.value? p).any x.hasMarkup).map (·.name)

/-! ## 4. Required and known names -/

variable {m : Entries Value}

theorem declaredNames_eq : x.declaredNames = x.taking.map (·.name) := by
  simp [declaredNames, Store.namesFor, Store.isWanted, taking]

theorem requiredNames_eq : x.requiredNames = (x.taking.filter fun p => !p.optional).map (·.name) := by
  simp [requiredNames, Store.namesFor, Store.isWanted, taking, List.filter_filter, Bool.and_comm]

theorem ends_demandMap (hmap : entries x.given = .ok m) : Ends x.demandMap (.ok ()) := by
  rw [demandMap, hmap]
  exact ends_pure ()

theorem context_eq (hmap : entries x.given = .ok m) : x.context = m := by
  rw [context, hmap]
  rfl

theorem ends_param {p : Param} (hnames : x.store.HoldsByName x.contract)
    (hp : p ∈ x.store.paramsOf x.contract) : Ends (x.param p.name) (.ok p) := by
  obtain ⟨id, hid, rfl⟩ := hnames.get?_name hp
  rw [param, hid]
  exact ends_pure _

theorem mem_paramsOf_of_taking {p : Param} (hp : p ∈ x.taking) : p ∈ x.store.paramsOf x.contract :=
  (List.mem_filter.mp hp).1

theorem decides_checkRequired (hmap : entries x.given = .ok m) (hnames : x.store.HoldsByName x.contract) :
    Decides x.checkRequired .required (x.lacking.map .text) := by
  have hmissing : x.requiredNames.filter (fun name => (present? name x.context).isNone) = x.lacking := by
    rw [requiredNames_eq, lacking, List.filter_map, List.filter_filter]
    congr 1
    apply List.filter_congr
    intro p _
    exact Bool.and_comm _ _
  have hstep : ∀ name ∈ x.lacking, ∃ message, Ends (do
      let p ← x.param name
      return (Value.text name, [p.failMessage?.getD (x.missingMessage name)])) (.ok (.text name, [message])) := by
    intro name hname
    obtain ⟨p, hp, rfl⟩ := List.mem_map.mp hname
    have hheld := mem_paramsOf_of_taking (List.mem_filter.mp hp).1
    exact ⟨_, (ends_param hnames hheld).bind (ends_pure _)⟩
  have hrest := decides_mapM_all x .required hstep
  rw [checkRequired, hmissing]
  dsimp only
  split
  · exact hrest.after (ends_demandMap hmap)
  · exact hrest

theorem keyObstacle?_texts (names : List String) : (names.map Value.text).findSome? keyObstacle? = none := by
  rw [List.findSome?_eq_none_iff]
  intro v hv
  obtain ⟨name, -, rfl⟩ := List.mem_map.mp hv
  rfl

theorem ends_keys (hmap : entries x.given = .ok m) : Ends x.keys (.ok ((Entries.keys m).map .text)) := by
  have hkeys : Context.keys x.given = .ok ((Entries.keys m).map .text) := by
    cases hgiven : x.given <;> simp_all [entries, Context.keys]
  rw [keys, hkeys]
  dsimp only
  rw [keyObstacle?_texts]
  exact ends_pure _

theorem isKnown_text (key : String) : x.isKnown (.text key)
    = ((x.taking.map (·.name)).contains key || (Mode.reserved x.direction).contains key) := by
  rw [isKnown, declaredNames_eq]

variable (x) in
/-- The message about a key that is not known. -/
def tellUnknown (key : Value) : Checking (Value × List String) :=
  match key.displayed x.room with
  | .ok shown => pure (key, [x.unknownMessage (String.ofList shown)])
  | .error reason => throw (.conversion (Fault.ofUndisplayed reason))

theorem decides_checkKnown (hmap : entries x.given = .ok m) :
    Decides x.checkKnown .known (x.undeclared.map .text) := by
  have hunknown : ((Entries.keys m).map Value.text).filter (fun key => !x.isKnown key) = x.undeclared.map .text := by
    rw [List.filter_map, undeclared, context_eq hmap]
    simp [Function.comp_def, isKnown_text]
  have hstep : ∀ key ∈ x.undeclared.map Value.text, ∃ message, Ends (x.tellUnknown key) (.ok (key, [message])) := by
    intro key hkey
    obtain ⟨name, -, rfl⟩ := List.mem_map.mp hkey
    exact ⟨_, ends_pure _⟩
  have hfound := decides_mapM_all x .known hstep
  rw [List.map_id'] at hfound
  rw [checkKnown]
  refine Decides.after (ends_keys hmap) ?_
  rw [hunknown]
  exact hfound

/-! ## 5. Types and validators -/

/-- A validator can be asked about a value: its predicate can be loaded, and a text that it asks for is not too long. -/
structure IsAskable (validator : Validator) (v : Value) : Prop where
  loads : ∀ path, validator.rule = .imported path → ∃ holds, Predicate.load path = .ok holds
  fits : asksForText validator = true → v.integersFit = true

variable {p : Param} {v : Value} {validator : Validator} {holds : Predicate}

variable (x p validator holds) in
theorem ends_ask (v : Value) :
    ∃ messages, Ends (x.ask p validator holds v) (.ok messages) ∧ messages.isEmpty = (holds v == some true) := by
  unfold ask
  split
  case h_1 h => exact ⟨[], ends_pure _, by simp [h]⟩
  case h_2 h => exact ⟨_, ends_pure _, by simp [h]⟩
  case h_3 h => exact ⟨_, fun t => ⟨_, rfl⟩, by simp [h]⟩

variable (x p validator holds) in
theorem ends_askOpenly (v : Value) :
    ∃ messages, Ends (x.askOpenly p validator holds v) (.ok messages) ∧ messages.isEmpty = (holds v == some true) := by
  obtain ⟨messages, hends, hempty⟩ := ends_ask x p validator holds v
  refine ⟨messages, ?_, hempty⟩
  unfold askOpenly
  split
  · exact Ends.bind (fun t => ⟨_, rfl⟩) hends
  · exact hends

variable (x p) in
-- A value whose integers are not too long is shown to a validator unless it has no text.
theorem ends_argument (hfit : validator.seesText = true → v.integersFit = true)
    (h : (validator.seesText && x.lacksText v) = false) :
    ∃ w, x.seen? p validator v = some w ∧ Ends (x.argument p validator v) (.ok w) := by
  unfold seen? argument
  cases hsees : validator.seesText with
  | false => exact ⟨v, rfl, ends_pure v⟩
  | true =>
    obtain ⟨hroom, hoffset⟩ : v.fits x.room .writing = true ∧ v.hasUsableOffset = true := by
      simpa [hsees, lacksText] using h
    have hwritten : v.canBeWritten x.room = true := by rw [Value.canBeWritten, hfit hsees, hroom]; rfl
    rw [if_pos rfl, if_pos rfl]
    cases htext : Conversion.toText x.room x.locale? (some p.name) v with
    | ok text => exact ⟨text, rfl, ends_pure text⟩
    | error f =>
      have hmismatch := Conversion.isMismatch_toText htext
      rw [hwritten, hoffset] at hmismatch
      -- A mismatch lets the validator see the displayed form instead.
      cases f with
      | mismatch e =>
        have hshown : (v.displayed x.room).isOk = true := by rw [Value.isOk_displayed, hwritten, hoffset]; rfl
        obtain ⟨shown, hshown⟩ := isOk_iff.mp hshown
        exact ⟨.text (String.ofList shown), by simp [hshown, Except.toOption], by simpa [hshown] using ends_pure _⟩
      | _ => cases hmismatch

variable (x p) in
theorem ends_argument_error (hsees : validator.seesText = true) {reason : Value.Undisplayed}
    (hshown : v.displayed x.room = .error reason) :
    Ends (x.argument p validator v) (.error (.conversion (Fault.ofUndisplayed reason))) := by
  have htext : Conversion.toText x.room x.locale? (some p.name) v = .error (Fault.ofUndisplayed reason) :=
    Conversion.toText_of_not_displayed hshown
  rw [argument, if_pos hsees, htext]
  cases reason with
  | unwritten reason => cases reason <;> exact ends_throw _
  | offsetTooLong => exact ends_throw _

variable (x p) in
theorem ends_runValidator (hask : IsAskable validator v)
    (h : (asksForText validator && x.lacksText v) = false) :
    ∃ messages, Ends (x.runValidator p v validator) (.ok messages) ∧
      messages.isEmpty = x.passesValidator p v validator := by
  unfold runValidator passesValidator
  cases hrule : validator.rule with
  | declaredType =>
    dsimp only
    split
    case isTrue h => exact ⟨[], ends_pure _, by simp [h]⟩
    case isFalse h => exact ⟨_, ends_pure _, by simp [h]⟩
  | predicate holds =>
    obtain ⟨w, hseen, hargument⟩ :=
      ends_argument x p (by simpa [asksForText, hrule] using hask.fits) (by simpa [asksForText, hrule] using h)
    obtain ⟨messages, hends, hempty⟩ := ends_askOpenly x p validator holds w
    exact ⟨messages, hargument.bind hends, by simp [hempty, hseen]⟩
  | imported path =>
    obtain ⟨holds, hholds⟩ := hask.loads path hrule
    obtain ⟨w, hseen, hargument⟩ :=
      ends_argument x p (by simpa [asksForText, hrule] using hask.fits) (by simpa [asksForText, hrule] using h)
    obtain ⟨messages, hends, hempty⟩ := ends_ask x p validator holds w
    dsimp only
    rw [hholds]
    exact ⟨messages, hargument.bind hends, by simp [hempty, hseen]⟩

variable (x p) in
theorem ends_runValidator_error (hask : IsAskable validator v) (hasks : asksForText validator = true)
    {reason : Value.Undisplayed} (hshown : v.displayed x.room = .error reason) :
    Ends (x.runValidator p v validator) (.error (.conversion (Fault.ofUndisplayed reason))) := by
  obtain ⟨hsees, hrule⟩ : validator.seesText = true ∧ _ := by simpa [asksForText] using hasks
  have hargument := ends_argument_error x p hsees hshown
  unfold runValidator
  cases hr : validator.rule with
  | declaredType => simp [hr] at hrule
  | predicate holds => exact hargument.bind_error
  | imported path =>
    obtain ⟨holds, hholds⟩ := hask.loads path hr
    dsimp only
    rw [hholds]
    exact hargument.bind_error

-- A parameter asks in vain exactly when one of its validators does.
theorem asksInVain_eq_false (h : x.asksInVain p v = false) :
    ∀ validator ∈ p.validators, (asksForText validator && x.lacksText v) = false := by
  intro validator hvalidator
  cases hlacks : x.lacksText v <;> simp_all [asksInVain]

-- The reason why a value has no text.
theorem not_displayed_of_lacksText (h : x.lacksText v = true) : ∃ reason, v.displayed x.room = .error reason := by
  have hshown : (v.displayed x.room).isOk = false := by
    rw [Value.isOk_displayed, Value.canBeWritten]
    cases hroom : v.fits x.room .writing <;> simp_all [lacksText]
  cases hresult : v.displayed x.room with
  | ok shown => simp [hresult, Except.toBool] at hshown
  | error reason => exact ⟨reason, rfl⟩

variable (x) in
theorem ends_judge (hask : ∀ validator ∈ p.validators, IsAskable validator v) (h : x.asksInVain p v = false) :
    ∃ messages, Ends (x.judge p v) (.ok messages) ∧ messages.isEmpty = x.accepts p v := by
  unfold judge accepts
  split
  · refine ⟨_, ends_pure _, ?_⟩
    cases SemanticType.admits p.type v <;> rfl
  · have hstep : ∀ validator ∈ p.validators, ∃ messages, Ends (x.runValidator p v validator) (.ok messages) ∧
        messages.isEmpty = x.passesValidator p v validator := fun validator hvalidator =>
      ends_runValidator x p (hask validator hvalidator) (asksInVain_eq_false h validator hvalidator)
    choose! messages hends hempty using hstep
    refine ⟨_, (ends_mapM hends).bind (ends_pure _), ?_⟩
    rw [Bool.eq_iff_iff, List.isEmpty_iff, List.flatten_eq_nil_iff, List.forall_mem_map, List.all_eq_true]
    exact forall₂_congr fun validator hvalidator => by rw [← hempty validator hvalidator, List.isEmpty_iff]

variable (x) in
theorem ends_judge_error (hask : ∀ validator ∈ p.validators, IsAskable validator v) (h : x.asksInVain p v = true) :
    ∃ reason, Ends (x.judge p v) (.error (.conversion (Fault.ofUndisplayed reason))) := by
  obtain ⟨hlacks, hasks⟩ : x.lacksText v = true ∧ p.validators.any asksForText = true := by
    simpa [asksInVain] using h
  obtain ⟨reason, hshown⟩ := not_displayed_of_lacksText hlacks
  obtain ⟨validator, hvalidator, hasks⟩ := List.any_eq_true.mp hasks
  have hsome : ¬p.validators.isEmpty = true := by
    rw [List.isEmpty_iff]
    exact List.ne_nil_of_mem hvalidator
  rw [judge, if_neg hsome]
  refine ⟨reason, Ends.bind_error ?_⟩
  apply ends_mapM_error
  · intro other hother
    cases hother' : asksForText other with
    | true => exact .inr (ends_runValidator_error x p (hask other hother) hother' hshown)
    | false =>
      obtain ⟨messages, hends, -⟩ := ends_runValidator x p (hask other hother) (by rw [hother']; rfl)
      exact .inl ⟨messages, hends⟩
  · exact ⟨validator, hvalidator, ends_runValidator_error x p (hask validator hvalidator) hasks hshown⟩

/-! ### All values -/

theorem map_filter_filterMap {α β : Type} (value? : α → Option β) (fails : α → β → Bool) (name : α → Value)
    (as : List α) :
    (((as.filterMap fun a => (value? a).map (a, ·)).filter fun e => fails e.1 e.2).map fun e => name e.1)
      = (as.filter fun a => (value? a).any (fails a)).map name := by
  induction as with
  | nil => rfl
  | cons a rest ih =>
    cases hvalue : value? a with
    | none => simpa [hvalue] using ih
    | some b => cases hfails : fails a b <;> simpa [hvalue, hfails] using ih

variable (x) in
/-- The parameters with their values. -/
def valued : List (Param × Value) := x.taking.filterMap fun p => (x.value? p).map (p, ·)

theorem presentValues_eq : x.presentValues = x.valued.map fun e => (e.1.name, e.2) := by
  simp [presentValues, declaredNames_eq, valued, value?, List.filterMap_map, List.map_filterMap, Function.comp_def]

theorem taking_of_valued {e : Param × Value} (he : e ∈ x.valued) : e.1 ∈ x.taking ∧ x.value? e.1 = some e.2 := by
  obtain ⟨p, hp, hvalue⟩ := List.mem_filterMap.mp he
  obtain ⟨v, hv, rfl⟩ := Option.map_eq_some_iff.mp hvalue
  exact ⟨hp, hv⟩

variable (x) in
/-- The judgement of a parameter with its value, under its name. -/
def judgeNamed (e : Param × Value) : Checking (Value × List String) := do
  let p ← x.param e.1.name
  return (.text e.1.name, ← x.judge p e.2)

-- The check of types ends as the judgements do, since the context is a map.
theorem ends_checkTyped (hmap : entries x.given = .ok m) {r : Except Failure Unit}
    (h : Ends (do x.report .typed (← x.valued.mapM x.judgeNamed)) r) : Ends x.checkTyped r := by
  rw [checkTyped, presentValues_eq, List.mapM_map]
  dsimp only
  split
  · exact (ends_demandMap hmap).bind h
  · exact h

/-- What the checks go by: parameters under their names, and validators that can be asked about the values. -/
structure Checkable (x : Subject) : Prop where
  named : x.store.HoldsByName x.contract
  askable : ∀ e ∈ x.valued, ∀ validator ∈ e.1.validators, IsAskable validator e.2

theorem decides_checkTyped (hmap : entries x.given = .ok m) (hx : Checkable x)
    (hasks : ∀ e ∈ x.valued, x.asksInVain e.1 e.2 = false) : Decides x.checkTyped .typed (x.mistyped.map .text) := by
  have hstep : ∀ e ∈ x.valued, ∃ messages, Ends (x.judgeNamed e) (.ok (.text e.1.name, messages)) ∧
      messages.isEmpty = !!x.accepts e.1 e.2 := by
    intro e he
    obtain ⟨hp, -⟩ := taking_of_valued he
    obtain ⟨messages, hends, hempty⟩ := ends_judge x (hx.askable e he) (hasks e he)
    refine ⟨messages, ?_, by rw [Bool.not_not]; exact hempty⟩
    exact (ends_param hx.named (mem_paramsOf_of_taking hp)).bind (hends.bind (ends_pure _))
  have hjudged := decides_mapM x .typed hstep
  have hnames : (x.valued.filter fun e => !x.accepts e.1 e.2).map (fun e => Value.text e.1.name)
      = x.mistyped.map .text := by
    rw [mistyped, List.map_map]
    exact map_filter_filterMap x.value? (fun p v => !x.accepts p v) (fun p => .text p.name) x.taking
  rw [hnames] at hjudged
  exact hjudged.of_ends fun r => ends_checkTyped hmap

theorem ends_checkTyped_error (hmap : entries x.given = .ok m) (hx : Checkable x)
    (hasks : ∃ e ∈ x.valued, x.asksInVain e.1 e.2 = true) :
    ∃ reason, Ends x.checkTyped (.error (.conversion (Fault.ofUndisplayed reason))) := by
  have hparam : ∀ e ∈ x.valued, Ends (x.param e.1.name) (.ok e.1) := fun e he =>
    ends_param hx.named (mem_paramsOf_of_taking (taking_of_valued he).1)
  have herror : ∀ e ∈ x.valued, x.asksInVain e.1 e.2 = true →
      ∃ reason, Ends (x.judgeNamed e) (.error (.conversion (Fault.ofUndisplayed reason))) := by
    intro e he hvain
    obtain ⟨reason, hjudge⟩ := ends_judge_error x (hx.askable e he) hvain
    exact ⟨reason, (hparam e he).bind hjudge.bind_error⟩
  have hok : ∀ e ∈ x.valued, x.asksInVain e.1 e.2 = false → ∃ found, Ends (x.judgeNamed e) (.ok found) := by
    intro e he hcan
    obtain ⟨messages, hends, -⟩ := ends_judge x (hx.askable e he) hcan
    exact ⟨_, (hparam e he).bind (hends.bind (ends_pure _))⟩
  have hends : ∀ e ∈ x.valued, ∃ r, Ends (x.judgeNamed e) r := by
    intro e he
    cases hvain : x.asksInVain e.1 e.2 with
    | true => exact (herror e he hvain).elim fun _ h => ⟨_, h⟩
    | false => exact (hok e he hvain).elim fun _ h => ⟨_, h⟩
  rcases ends_mapM_or hends with ⟨hsteps, -⟩ | ⟨e, he, f, hf, hjudged⟩
  · obtain ⟨e, he, hvain⟩ := hasks
    obtain ⟨found, hfound⟩ := hsteps e he
    obtain ⟨reason, hreason⟩ := herror e he hvain
    cases hfound.unique hreason
  · cases hvain : x.asksInVain e.1 e.2 with
    | true =>
      obtain ⟨reason, hreason⟩ := herror e he hvain
      cases hf.unique hreason
      exact ⟨reason, ends_checkTyped hmap hjudged.bind_error⟩
    | false =>
      obtain ⟨found, hfound⟩ := hok e he hvain
      cases hf.unique hfound

/-! ## 6. Markup -/

theorem inputs_eq (hinput : x.direction = .input) : x.store.inputs x.contract = x.taking := by
  rw [Store.inputs, taking, hinput]
  exact List.filter_congr fun p _ => Bool.or_comm _ _

variable (x) in
/-- The text of a parameter that must be plain. -/
def plainText? (p : Param) : Option String :=
  if p.markup ≠ .any ∧ SemanticType.isText p.type then
    match Entries.get? p.name x.context with
    | some (.text s) => some s
    | _ => none
  else none

variable (x) in
/-- The parameters whose texts must be plain, with their texts. -/
def plainParams : List (Param × String) := x.taking.filterMap fun p => (x.plainText? p).map (p, ·)

theorem plainTexts_eq (hinput : x.direction = .input) :
    x.plainTexts = x.plainParams.map fun e => (e.1.name, e.2) := by
  rw [plainTexts, inputs_eq hinput, plainParams, List.map_filterMap]
  congr 1
  funext p
  rw [plainText?]
  split
  · split <;> simp_all
  · rfl

theorem any_plainText? (p : Param) : (x.plainText? p).any (fun s => x.hasMarkup (.text s))
    = (p.markup ≠ .any && SemanticType.isText p.type && (x.value? p).any x.hasMarkup) := by
  unfold plainText? value? present?
  split
  case isTrue h =>
    rw [decide_eq_true h.1, h.2]
    cases Entries.get? p.name x.context with
    | none => rfl
    | some v => cases v <;> rfl
  case isFalse h =>
    have hfree : (decide (p.markup ≠ .any) && SemanticType.isText p.type) = false := by simpa using h
    rw [hfree]
    rfl

variable (x) in
/-- The messages about the text of a parameter, under its name. -/
def searchNamed (e : Param × String) : Checking (Value × List String) :=
  match Markup.messages x.find (x.fieldName e.1.name) e.2 with
  | .ok messages => pure (.text e.1.name, messages)
  | .error refusal => throw (.markup refusal)

theorem names_marked : (x.plainParams.filter fun e => x.hasMarkup (.text e.2)).map (fun e => Value.text e.1.name)
    = x.marked.map .text := by
  rw [marked, List.map_map, ← funext any_plainText?]
  exact map_filter_filterMap x.plainText? (fun _ s => x.hasMarkup (.text s)) (fun p => .text p.name) x.taking

theorem decides_checkPlain (hinput : x.direction = .input)
    (hfind : ∀ e ∈ x.plainParams, ∃ found?, x.find e.2 = .ok found?) :
    Decides x.checkPlain .plain (x.marked.map .text) := by
  have hstep : ∀ e ∈ x.plainParams, ∃ messages, Ends (x.searchNamed e) (.ok (.text e.1.name, messages)) ∧
      messages.isEmpty = !x.hasMarkup (.text e.2) := by
    intro e he
    obtain ⟨found?, hfound⟩ := hfind e he
    refine ⟨found?.toList.map (Markup.message (x.fieldName e.1.name)), ?_, ?_⟩
    · rw [searchNamed, Markup.messages, hfound]
      exact ends_pure _
    · rw [hasMarkup, hfound]
      cases found? <;> rfl
  have hsearched := decides_mapM x .plain hstep
  rw [names_marked] at hsearched
  rw [checkPlain, plainTexts_eq hinput, List.mapM_map]
  exact hsearched

-- The search in one text ends, with a refusal exactly when the finder refuses the text.
theorem ends_searchNamed (e : Param × String) :
    (∃ found, Ends (x.searchNamed e) (.ok found)) ∧ (∃ found?, x.find e.2 = .ok found?) ∨
      ∃ refusal, Ends (x.searchNamed e) (.error (.markup refusal)) := by
  unfold searchNamed Markup.messages
  cases hfound : x.find e.2 with
  | ok found? => exact .inl ⟨⟨_, ends_pure _⟩, found?, rfl⟩
  | error refusal => exact .inr ⟨refusal, ends_throw _⟩

theorem ends_of_searchNamed (e : Param × String) : ∃ r, Ends (x.searchNamed e) r := by
  rcases ends_searchNamed e with ⟨⟨found, h⟩, -⟩ | ⟨refusal, h⟩
  · exact ⟨_, h⟩
  · exact ⟨_, h⟩

-- Whatever finds the markup, the check for it ends, and with no violation of another check.
theorem ends_checkPlain (hinput : x.direction = .input) :
    ∃ r, Ends x.checkPlain r ∧ ∀ v, r = .error (.violation v) → v.check = .plain := by
  rw [checkPlain, plainTexts_eq hinput, List.mapM_map]
  rcases ends_mapM_or fun e _ => ends_of_searchNamed e with ⟨-, found, hfound⟩ | ⟨e, -, f, hf, hsearched⟩
  · have hreport := decides_report x .plain found
    by_cases hnone : (found.filter (!·.2.isEmpty)).map (·.1) = []
    · exact ⟨_, hfound.bind (hreport.passes hnone), nofun⟩
    · obtain ⟨v, hcheck, -, hends⟩ := hreport.refuses hnone
      refine ⟨_, hfound.bind hends, fun v' hv' => ?_⟩
      cases hv'
      exact hcheck
  · refine ⟨_, hsearched.bind_error, fun v hv => ?_⟩
    cases hv
    rcases ends_searchNamed e with ⟨⟨found, hfound⟩, -⟩ | ⟨refusal, hrefusal⟩
    · cases hf.unique hfound
    · cases hf.unique hrefusal

theorem finds_of_checkPlain (hinput : x.direction = .input) (h : Ends x.checkPlain (.ok ())) :
    ∀ e ∈ x.plainParams, ∃ found?, x.find e.2 = .ok found? := by
  rw [checkPlain, plainTexts_eq hinput, List.mapM_map] at h
  rcases ends_mapM_or fun e _ => ends_of_searchNamed e with ⟨hsteps, -⟩ | ⟨e, -, f, -, hsearched⟩
  · intro e he
    obtain ⟨b, hb⟩ := hsteps e he
    rcases ends_searchNamed e with ⟨-, hfound⟩ | ⟨refusal, hrefusal⟩
    · exact hfound
    · cases hb.unique hrefusal
  · cases h.unique hsearched.bind_error

theorem marked_eq_nil_iff : x.marked = [] ↔ ∀ e ∈ x.plainParams, x.hasMarkup (.text e.2) = false := by
  rw [← List.map_eq_nil_iff (f := Value.text), ← names_marked, List.map_eq_nil_iff, List.filter_eq_nil_iff]
  simp only [Bool.not_eq_true]

/-- The check for markup goes through exactly when none is found in any text that must be plain. -/
theorem checkPlain_ok_iff (hinput : x.direction = .input) :
    Ends x.checkPlain (.ok ()) ↔ ∀ e ∈ x.plainParams, x.find e.2 = .ok none := by
  constructor
  · intro h e he
    have hfind := finds_of_checkPlain hinput h
    have hmarked : x.marked = [] := by
      by_contra hsome
      obtain ⟨v, -, -, hrefused⟩ := (decides_checkPlain hinput hfind).refuses (by simpa using hsome)
      cases h.unique hrefused
    obtain ⟨found?, hfound⟩ := hfind e he
    have hnone := marked_eq_nil_iff.mp hmarked e he
    rw [hasMarkup, hfound] at hnone
    cases found? with
    | none => exact hfound
    | some found => cases hnone
  · intro hplain
    have hmarked : x.marked = [] := by
      refine marked_eq_nil_iff.mpr fun e he => ?_
      rw [hasMarkup, hplain e he]
      rfl
    exact (decides_checkPlain hinput fun e he => ⟨none, hplain e he⟩).passes (by rw [hmarked]; rfl)

end Subject

end CallContract.Validation
