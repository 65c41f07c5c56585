import CallContract.Proofs.Coercion.Filled
import Mathlib.Data.List.Basic

/-!
# Idempotence — coercing what has been coerced

A target that has been filled without failures can be a source again.  What was converted converts to itself, whatever
the locale and the zone; what was gathered from several keys is met under one key now, in the declared form; and no key
of the target is gathered anew.  So a second target equals the first.  The second run can only stop earlier, when it
looks for a locale and a zone: a gathered value under a reserved key may be too long to be told.
-/

namespace CallContract.Coercion

open CallContract.Calendar CallContract.Conversion Context

/-! ## 1. Groupings -/

-- The text at the start of the keys that are gathered into a map.
def groupStart? (p : Param) : Option String := p.mapPrefix?.filter (· ≠ "")

-- The text at the end of the keys that are gathered into a list.
def groupEnding? (p : Param) : Option String := p.listSuffix?.filter (· ≠ "")

/-- What is gathered for a parameter has its declared form, and the name of no other parameter is gathered. -/
structure GroupsApart (s : Store) (c : Contract) : Prop where
  named : s.HoldsByName c
  mapped : ∀ p ∈ s.paramsOf c, ∀ start, groupStart? p = some start → SemanticType.ofTag? p.type = some .map
  listed : ∀ p ∈ s.paramsOf c, ∀ ending, groupEnding? p = some ending →
    SemanticType.ofTag? p.type = some .list ∨ SemanticType.ofTag? p.type = some .collection
  starts_apart : ∀ p ∈ s.paramsOf c, ∀ q ∈ s.paramsOf c, q.name ≠ p.name → ∀ start, groupStart? p = some start →
    ¬start.toList <+: q.name.toList
  endings_apart : ∀ p ∈ s.paramsOf c, ∀ q ∈ s.paramsOf c, q.name ≠ p.name → ∀ ending, groupEnding? p = some ending →
    ¬ending.toList <:+ q.name.toList

section

variable {s : Store} {c : Contract} {options : Options} {p : Param} {m : Entries Value} {v : Value}

theorem gathered?_eq (hsource : options.sourceWord? = none) :
    gathered? options p m = match groupStart? p with
      | some start => if (gatherMap start m).isEmpty then none else some (.ofEntries (gatherMap start m))
      | none => match groupEnding? p with
        | some ending => if (gatherList ending m).isEmpty then none else some (.newList (gatherList ending m))
        | none => none := by
  simp only [gathered?, hsource]
  rfl

-- A map without a key for the groupings of a parameter has nothing to gather for it.
theorem gathered?_eq_none (hsource : options.sourceWord? = none)
    (hstart : ∀ key ∈ Entries.keys m, ∀ start, groupStart? p = some start → ¬start.toList <+: key.toList)
    (hending : ∀ key ∈ Entries.keys m, ∀ ending, groupEnding? p = some ending → ¬ending.toList <:+ key.toList) :
    gathered? options p m = none := by
  have hkey : ∀ e ∈ m, e.1 ∈ Entries.keys m := fun e he => List.mem_map_of_mem he
  rw [gathered?_eq hsource]
  cases hs : groupStart? p with
  | some start =>
    have hempty : gatherMap start m = [] := by
      apply List.filterMap_eq_nil_iff.mpr
      intro e he
      simpa using hstart e.1 (hkey e he) start hs
    simp [hempty]
  | none =>
    cases he : groupEnding? p with
    | none => rfl
    | some ending =>
      have hempty : gatherList ending m = [] := by
        apply List.filterMap_eq_nil_iff.mpr
        intro e hmem
        simpa using hending e.1 (hkey e hmem) ending he
      simp [hempty]

theorem convert_map (g : Guide) (tag : String) (h : SemanticType.ofTag? tag = some .map) (readOnly : Bool)
    (entries : Entries Value) : convert g tag (.map readOnly entries) = .ok (.map readOnly entries) := by
  apply convert_of_admits
  · simp [SemanticType.admits, h, SemanticType.admitsPresent]
  · rw [widensIntegers, convertedType?, h]
    rfl

theorem convert_list (g : Guide) (tag : String)
    (h : SemanticType.ofTag? tag = some .list ∨ SemanticType.ofTag? tag = some .collection) (identity : Identity)
    (items : List Value) : convert g tag (.list identity items) = .ok (.list identity items) := by
  apply convert_of_admits
  · rcases h with h | h <;> simp [SemanticType.admits, h, SemanticType.admitsPresent]
  · rw [widensIntegers, convertedType?]
    rcases h with h | h <;> rw [h] <;> rfl

-- What has been gathered for a parameter converts to itself.
theorem convert_of_gathered (hc : GroupsApart s c) (hp : p ∈ s.paramsOf c) (hsource : options.sourceWord? = none)
    (h : gathered? options p m = some v) (g : Guide) : convert g p.type v = .ok v := by
  rw [gathered?_eq hsource] at h
  cases hs : groupStart? p with
  | some start =>
    simp only [hs, Option.ite_none_left_eq_some, Option.some.injEq] at h
    rw [← h.2]
    exact convert_map g p.type (hc.mapped p hp start hs) false _
  | none =>
    cases he : groupEnding? p with
    | none => simp [hs, he] at h
    | some ending =>
      simp only [hs, he, Option.ite_none_left_eq_some, Option.some.injEq] at h
      rw [← h.2]
      exact convert_list g p.type (hc.listed p hp ending he) none _

end

/-! ## 2. The first target as a source -/

section

variable {s : Store} {c : Contract} {mode : Mode} {options : Options} {plan : Plan} {rs : List Reading}
  {m : Entries Value} {w' : ContextWork} {p : Param} {u : Value}

/-- A target that has been filled from a map, with the parameters of a contract whose groupings stand apart and
without a failure. -/
structure FilledCleanly (plan : Plan) (rs : List Reading) (s : Store) (c : Contract) (mode : Mode) (options : Options)
    (m : Entries Value) (w' : ContextWork) : Prop where
  apart : GroupsApart s c
  unprefixed : options.sourceWord? = none
  outcome : Outcome plan rs (fun p => gathered? options p m) (taken s c mode options) m w'
  clean : w'.failures = []

namespace FilledCleanly

variable (h : FilledCleanly plan rs s c mode options m w')
include h

theorem get?_eq (hp : p ∈ taken s c mode options) :
    Entries.get? p.name w'.entries = plan.drawn? m (fun p => gathered? options p m) p :=
  h.outcome.get?_eq (nodup_taken h.apart.named) hp

theorem converts (hp : p ∈ taken s c mode options) {v : Value} (hmet : Entries.get? p.name m = some v) :
    plan.convert p v = .ok (plan.result p v) := by
  rw [Plan.result]
  cases hconvert : plan.convert p v with
  | ok u => rfl
  | error f =>
    obtain ⟨e, he, -⟩ := h.outcome.told p hp v hmet ⟨f, hconvert⟩
    have hfailures := h.outcome.failures_eq
    rw [h.clean] at hfailures
    have hnone := (List.append_eq_nil_iff.mp hfailures.symm).2
    rw [List.filterMap_eq_nil_iff.mp hnone p hp] at he
    cases he

/-- What the target holds for a parameter converts to itself. -/
theorem convert_again (hp : p ∈ taken s c mode options) (hget : Entries.get? p.name w'.entries = some u) (g : Guide) :
    convert g p.type u = .ok u := by
  rw [h.get?_eq hp, Plan.drawn?, Plan.written?] at hget
  cases hmet : Entries.get? p.name m with
  | some v =>
    simp only [hmet, Option.map_some, Option.some_or, Option.some.injEq] at hget
    have hconvert := h.converts hp hmet
    rw [hget] at hconvert
    exact convert_of_convert g hconvert
  | none =>
    simp only [hmet, Option.map_none, Option.none_or] at hget
    exact convert_of_gathered h.apart (mem_paramsOf_of_taken hp) h.unprefixed hget g

/-- Nothing is gathered from the target for a parameter that it does not hold. -/
theorem gathered_again (hp : p ∈ taken s c mode options) (hget : Entries.get? p.name w'.entries = none) :
    gathered? options p w'.entries = none := by
  have hother : ∀ key ∈ Entries.keys w'.entries, ∃ q ∈ s.paramsOf c, q.name ≠ p.name ∧ q.name = key := by
    intro key hkey
    obtain ⟨q, hq, rfl⟩ := h.outcome.name_of_key hkey
    refine ⟨q, mem_paramsOf_of_taken hq, fun hname => ?_, rfl⟩
    obtain ⟨v, hv⟩ := Entries.mem_keys_iff.mp hkey
    rw [hname, hget] at hv
    cases hv
  apply gathered?_eq_none h.unprefixed
  · intro key hkey start hstart
    obtain ⟨q, hq, hne, rfl⟩ := hother key hkey
    exact h.apart.starts_apart p (mem_paramsOf_of_taken hp) q hq hne start hstart
  · intro key hkey ending hending
    obtain ⟨q, hq, hne, rfl⟩ := hother key hkey
    exact h.apart.endings_apart p (mem_paramsOf_of_taken hp) q hq hne ending hending

-- A plan that draws from the target finds for every parameter what the target holds.
theorem drawn_again (plan₂ : Plan) (hp : p ∈ taken s c mode options) :
    plan₂.drawn? w'.entries (fun p => gathered? options p w'.entries) p = Entries.get? p.name w'.entries := by
  rw [Plan.drawn?, Plan.written?]
  cases hget : Entries.get? p.name w'.entries with
  | none => exact h.gathered_again hp hget
  | some u =>
    have hconvert : plan₂.convert p u = .ok u := h.convert_again hp hget _
    simp [Plan.result, hconvert]

theorem entries_again (plan₂ : Plan) : (taken s c mode options).filterMap (fun p =>
    (plan₂.drawn? w'.entries (fun p => gathered? options p w'.entries) p).map (p.name, ·)) = w'.entries := by
  refine Eq.trans (List.filterMap_congr fun p hp => ?_) h.outcome.entries_eq.symm
  rw [h.drawn_again plan₂ hp, h.get?_eq hp]

theorem failures_again (plan₂ : Plan) : (taken s c mode options).filterMap (plan₂.failure? w'.entries) = [] := by
  apply List.filterMap_eq_nil_iff.mpr
  intro p hp
  rw [Plan.failure?]
  cases hget : Entries.get? p.name w'.entries with
  | none => rfl
  | some u =>
    have hconvert : plan₂.convert p u = .ok u := h.convert_again hp hget _
    simp [hconvert]

end FilledCleanly

end

/-! ## 3. The second run -/

section

variable {around around₂ : Surroundings} {s : Store} {c : Contract} {mode : Mode} {options options₂ : Options}
  {plan : Plan} {rs : List Reading} {m : Entries Value} {uses₂ : Nat} {w' w₂ : ContextWork}

theorem entries_given_finished (w' : ContextWork) :
    entries (given (finished (.ofEntries []) w')) = .ok w'.entries := by
  rw [show finished (.ofEntries []) w' = .ofEntries w'.entries from rfl, given_ofEntries]
  rfl

-- Every value that the second run meets converts, so only a reading can stop it.
theorem FilledCleanly.returns_iff (h : FilledCleanly plan rs s c mode options m w') (hmode : mode.isListed = true)
    (hsource : options₂.sourceWord? = none) (htarget : options₂.targetWord? = none)
    (htaken : taken s c mode options₂ = taken s c mode options) :
    (∃ w₂, fill around₂ s c mode (.value (finished (.ofEntries []) w')) options₂ (begin (.ofEntries []) uses₂)
      = .ok () w₂) ↔
      ∀ r ∈ guidanceReadings around₂.toWorld options₂.locale? options₂.zone? w'.entries,
        Fails r.2 → r.1.canBeWritten around₂.room = true := by
  have hmap := entries_given_finished w'
  have hends := fill_ends around₂ s c mode (.value (finished (.ofEntries []) w')) options₂
    (begin (.ofEntries []) uses₂) hmode ⟨_, hmap⟩ rfl
  have hm : (Source.value (finished (.ofEntries []) w')).entriesIn (begin (.ofEntries []) uses₂).entries
      = w'.entries := by
    rw [Source.entriesIn, hmap]
    rfl
  rw [hm] at hends
  apply hends.returns_iff.trans
  apply and_iff_left
  rintro p w₁ v ⟨before, after, hps, -⟩ hmet ⟨f, hfails⟩
  have hp : p ∈ taken s c mode options := by
    rw [← htaken, taken, hps]
    simp
  rw [(drawsFrom_filling hmap hsource htarget c.name _ []).met_eq] at hmet
  have herror := (h.convert_again hp hmet _).symm.trans hfails
  cases herror

end

/-- Coercion is idempotent: when a fresh target has been filled without a failure, a second run with that target as its
source gives an equal target, whatever the locale and the zone of the two runs.  It records at most that no locale or
zone can be read from the target, and it returns unless a value that it tries to read so is too long or too deep to be
told. -/
theorem coercion_idempotent (around around₂ : Surroundings) (s : Store) (c : Contract) (mode : Mode) (source : Value)
    (m : Entries Value) (withInternal : Bool) (locale? locale₂? : Option Locale) (zone? zone₂? : Option Zone)
    (uses uses₂ : Nat) (w' : ContextWork) (hc : GroupsApart s c) (hmap : entries (given source) = .ok m)
    (hfirst : fill around s c mode (.value source) { withInternal, locale?, zone? } (begin (.ofEntries []) uses)
      = .ok () w')
    (hclean : w'.failures = []) :
    let again := fill around₂ s c mode (.value (finished (.ofEntries []) w'))
      { withInternal, locale? := locale₂?, zone? := zone₂? } (begin (.ofEntries []) uses₂)
    let rs := guidanceReadings around₂.toWorld locale₂? zone₂? w'.entries
    ((∃ w₂, again = .ok () w₂) ↔ ∀ r ∈ rs, Fails r.2 → r.1.canBeWritten around₂.room = true) ∧
      ∀ w₂, again = .ok () w₂ →
        finished (.ofEntries []) w₂ = finished (.ofEntries []) w' ∧ w₂.failures = mismatches rs := by
  intro again rs
  have hfill : FilledCleanly _ _ s c mode { withInternal, locale?, zone? } m w' :=
    ⟨hc, rfl, outcome_of_fill hc.named hmap rfl rfl hfirst, hclean⟩
  refine ⟨hfill.returns_iff (isListed_of_fill hfirst) rfl rfl rfl, fun w₂ hagain => ?_⟩
  have houtcome := outcome_of_fill hc.named (entries_given_finished w') rfl rfl hagain
  have hentries : w₂.entries = w'.entries := houtcome.entries_eq.trans (hfill.entries_again _)
  constructor
  · simp [finished, Value.ofEntries, hentries]
  · rw [houtcome.failures_eq]
    exact (congrArg _ (hfill.failures_again _)).trans (List.append_nil _)

/-! ## 4. Examples -/

namespace Sample

-- A service that takes an amount and an address, which may come in several keys.
def amount : Param := { name := "amount", type := "BigDecimal" }

def address : Param := { name := "address", type := "Map", mapPrefix? := some "addr_" }

def ship : Contract := { info := { name := "ship" }, params := [("amount", 0), ("address", 1)] }

def shipments : Store := { params := #[amount, address], contracts := #[ship] }

theorem groupsApart_ship : GroupsApart shipments ship where
  named := ⟨by simp [ship, shipments, Store.param, amount, address], by simp [ship, Entries.keys]⟩
  mapped p hp start hstart := by
    rcases List.mem_pair.mp (show p ∈ [amount, address] from hp) with rfl | rfl
    · cases hstart
    · rfl
  listed p hp ending hending := by
    rcases List.mem_pair.mp (show p ∈ [amount, address] from hp) with rfl | rfl <;> cases hending
  starts_apart p hp q hq hne start hstart := by
    rcases List.mem_pair.mp (show p ∈ [amount, address] from hp) with rfl | rfl
    · cases hstart
    · cases hstart
      rcases List.mem_pair.mp (show q ∈ [amount, address] from hq) with rfl | rfl
      · decide
      · exact absurd rfl hne
  endings_apart p hp q hq hne ending hending := by
    rcases List.mem_pair.mp (show p ∈ [amount, address] from hp) with rfl | rfl <;> cases hending

def parcel : Value := .ofEntries [("amount", .int 5), ("addr_street", .text "Elm"), ("addr_city", .text "Bern")]

-- A service that takes a map under a reserved name.
def greet : Contract := { info := { name := "greet" }, params := [("locale", 0)] }

def greetings : Store where
  params := #[{ name := "locale", type := "Map", mapPrefix? := some "p." }]
  contracts := #[greet]

-- The smallest integer that is too long to be told, under a key that is gathered.
def endless : Value := .ofEntries [("p.a", .int (Int.pow 10 4300))]

theorem groupsApart_greet : GroupsApart greetings greet where
  named := ⟨by simp [greet, greetings, Store.param], by simp [greet, Entries.keys]⟩
  mapped p hp start hstart := by
    cases List.mem_singleton.mp hp
    rfl
  listed p hp ending hending := by
    cases List.mem_singleton.mp hp
    cases hending
  starts_apart p hp q hq hne := by
    cases List.mem_singleton.mp hp
    cases List.mem_singleton.mp hq
    exact absurd rfl hne
  endings_apart p hp q hq hne := by
    cases List.mem_singleton.mp hp
    cases List.mem_singleton.mp hq
    exact absurd rfl hne

end Sample

-- The address is gathered once and stays a map; the amount stays a decimal number.
theorem coercion_idempotent_sample :
    ∃ w' w₂, fill Sample.around Sample.shipments Sample.ship .input (.value Sample.parcel) {} Sample.work = .ok () w' ∧
      fill Sample.around Sample.shipments Sample.ship .input (.value (finished (.ofEntries []) w')) {} Sample.work
        = .ok () w₂ ∧
      finished (.ofEntries []) w₂ = finished (.ofEntries []) w' ∧
      w'.entries = [("amount", .decimal (Number.Decimal.ofInt 5)),
        ("address", .ofEntries [("street", .text "Elm"), ("city", .text "Bern")])] := by
  have hagain := coercion_idempotent Sample.around Sample.around Sample.shipments Sample.ship .input Sample.parcel _
    true none none none none 0 0 _ Sample.groupsApart_ship rfl rfl rfl
  obtain ⟨w₂, hw₂⟩ := hagain.1.mpr nofun
  exact ⟨_, w₂, rfl, hw₂, (hagain.2 w₂ hw₂).1, rfl⟩

-- Whether a run ends at an integer that is too long to be told.
def isTooLong : EStateM.Result ContextFault ContextWork Unit → Bool
  | .error (.conversion .tooManyDigits) _ => true
  | _ => false

theorem exists_of_isTooLong {r : EStateM.Result ContextFault ContextWork Unit} (h : isTooLong r = true) :
    ∃ w, r = .error (.conversion .tooManyDigits) w := by
  match r, h with
  | .error (.conversion .tooManyDigits) w, _ => exact ⟨w, rfl⟩

/-- What the first run gathers under the key of the locale cannot be told, and the second run fails with it. -/
theorem gathered_locale_escapes :
    GroupsApart Sample.greetings Sample.greet ∧
      ∃ w' w₂, fill Sample.around Sample.greetings Sample.greet .input (.value Sample.endless) {} Sample.work
          = .ok () w' ∧
        w'.failures = [] ∧
        fill Sample.around Sample.greetings Sample.greet .input (.value (finished (.ofEntries []) w')) {} Sample.work
          = .error (.conversion .tooManyDigits) w₂ := by
  obtain ⟨w₂, hw₂⟩ := exists_of_isTooLong (r := fill Sample.around Sample.greetings Sample.greet .input
    (.value (.ofEntries [("locale", .ofEntries [("a", .int (Int.pow 10 4300))])])) {} Sample.work) (by decide +kernel)
  exact ⟨Sample.groupsApart_greet, _, w₂, rfl, rfl, hw₂⟩

end CallContract.Coercion
