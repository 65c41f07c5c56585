import CallContract.Proofs.Coercion.Agreement

/-!
# Validity — coercion keeps a valid context valid

The values that validation accepts have the declared form.  Conversion keeps that form, makes none of them null and
leaves texts alone; a value that does not convert stays what it is.  So the target of a context that is valid for going
in is valid too.  Only what stands under the key of the locale or of the zone can keep the context from being coerced,
when it is neither of them and too deep to be told.
-/

namespace CallContract.Coercion

open CallContract.Conversion Context Validation

/-! ## 1. Values of the declared form -/

namespace Plan

variable {plan : Plan} {p : Param} {v : Value}

theorem admits_result_of_admits (h : SemanticType.admits p.type v = true) :
    SemanticType.admits p.type (plan.result p v) = true := by
  rw [result]
  cases hconvert : plan.convert p v with
  | ok w => exact admits_of_convert_of_admits h hconvert
  | error f => exact h

theorem result_of_text (h : SemanticType.admits p.type v = true) (htext : SemanticType.isText p.type = true) :
    plan.result p v = v := by
  have hconvert : plan.convert p v = .ok v := convert_of_admits h (widensIntegers_of_isText htext)
  rw [result, hconvert]

theorem judged_of_admits (h : SemanticType.admits p.type v = true) (hfit : v.integersFit = true)
    (hfails : Fails (plan.convert p v)) : isUnjudged plan.around.toWorld p.type v = false := by
  obtain ⟨f, hf⟩ := hfails
  exact isUnjudged_of_admits (g := plan.guide p) h hfit hf

end Plan

/-- The values that a map has for the parameters that go in have the declared form. -/
def Conforms (s : Store) (c : Contract) (m : Entries Value) : Prop :=
  ∀ p ∈ inward s c, ∀ v, Entries.get? p.name m = some v → SemanticType.admits p.type v = true

variable {around : Surroundings} {s : Store} {c : Contract} {source : Value} {m : Entries Value}
  {locale? : Option Locale} {zone? : Option Calendar.Zone} {uses : Nat} {w' : ContextWork} {x : Subject}

/-! ## 2. What a valid context says -/

theorem mistyped_eq_nil_iff (hc : IsDirect x.store x.contract) (hinput : x.direction = .input) :
    x.mistyped = [] ↔ Conforms x.store x.contract x.context := by
  rw [List.eq_nil_iff_forall_not_mem, Conforms, ← taking_eq_inward hinput]
  constructor
  · intro hnone p hp v hget
    by_contra hrejected
    exact hnone p.name (hc.mem_mistyped_iff.mpr ⟨p, hp, ⟨v, hget, by simpa using hrejected⟩, rfl⟩)
  · intro hconforms name hname
    obtain ⟨p, hp, ⟨v, hget, hrejected⟩, -⟩ := hc.mem_mistyped_iff.mp hname
    rw [hconforms p hp v hget] at hrejected
    cases hrejected

-- Among values of the declared form only null becomes null, so what is not supplied is what is lacking.
theorem unsupplied_eq_lacking (hinput : x.direction = .input) (hm : Conforms x.store x.contract x.context) :
    unsupplied x.store x.contract x.context = x.lacking := by
  rw [unsupplied, Subject.lacking, ← taking_eq_inward hinput]
  congr 1
  apply List.filter_congr
  intro p hp
  rw [taking_eq_inward hinput] at hp
  congr 1
  rw [isUnsupplied, Subject.value?, present?]
  cases hget : Entries.get? p.name x.context with
  | none => rfl
  | some v =>
    rw [Option.all_some, becomesNull_of_admits (hm p hp v hget)]
    cases hnull : v.isNull <;> simp [hnull]

/-! ## 3. Coercion of a valid context -/

theorem met_of_reading {world : World} {r : Reading} (hr : r ∈ guidanceReadings world locale? zone? m) :
    ∃ key, Entries.get? key m = some r.1 := by
  have hof : ∀ (key : String) (read : Option String → Value → Except Fault Value), r ∈ readings key read m →
      ∃ key, Entries.get? key m = some r.1 := by
    intro key read hmem
    obtain ⟨v, hv, rfl⟩ := List.mem_map.mp hmem
    exact ⟨key, (Option.filter_eq_some_iff.mp (Option.mem_toList.mp hv)).1⟩
  rcases List.mem_append.mp hr with hr | hr
  all_goals
    split at hr
    · cases hr
    · exact hof _ _ hr

/-- Where the values have the declared form and no integer is too long to be told, coercion goes through exactly if what
stands for a locale or a zone and is none is not too deep to be told. -/
theorem fill_of_conforms (hc : IsDirect s c) (hmap : entries (given source) = .ok m)
    (hfits : Value.entryIntegersFit m = true) (hm : Conforms s c m) :
    (∃ w', fill around s c .input (.value source) { locale?, zone? } (begin (.ofEntries []) uses) = .ok () w') ↔
      ∀ r ∈ guidanceReadings around.toWorld locale? zone? m, Fails r.2 → r.1.fits around.room .writing = true := by
  have hends := fill_ends around s c .input (.value source) { locale?, zone? } (begin (.ofEntries []) uses) rfl
    ⟨m, hmap⟩ rfl
  have hentries : (Source.value source).entriesIn (begin (.ofEntries []) uses).entries = m := by
    rw [Source.entriesIn, hmap]
    rfl
  have hfit : ∀ key v, Entries.get? key m = some v → v.integersFit = true := fun _ _ hget =>
    Value.integersFit_of_mem hfits (Entries.mem_of_get? hget)
  rw [hends.returns_iff, hentries, taken_eq]
  refine (and_iff_left ?_).trans (forall₂_congr fun r hr => ?_)
  · rintro p w₁ v ⟨before, after, hps, -⟩ hmet hfails
    have hp : p ∈ inward s c := by simp [hps]
    rw [(readsFrom_filling hc hmap _).met_eq] at hmet
    exact Plan.judged_of_admits (hm p hp v hmet) (hfit p.name v hmet) hfails
  · obtain ⟨key, hget⟩ := met_of_reading hr
    have hwritten : r.1.canBeWritten around.room = r.1.fits around.room .writing := by
      rw [Value.canBeWritten, hfit key r.1 hget, Bool.true_and]
    rw [← hwritten]
    rfl

namespace Fills

variable {plan : Plan} {w : ContextWork} {find : Markup.Finder} {room : Room}

theorem conforms (h : Fills plan s c m w w') (hm : Conforms s c m) : Conforms s c w'.entries := by
  intro p hp u hget
  rw [h.get?_eq hp] at hget
  obtain ⟨v, hmet, rfl⟩ := Option.map_eq_some_iff.mp hget
  exact Plan.admits_result_of_admits (hm p hp v hmet)

theorem isPlain (h : Fills plan s c m w w') (hm : Conforms s c m) (hplain : IsPlain find s c m) :
    IsPlain find s c w'.entries := by
  intro p hp hlimited htype text hget
  rw [h.get?_eq hp] at hget
  obtain ⟨v, hmet, hresult⟩ := Option.map_eq_some_iff.mp hget
  rw [Plan.result_of_text (hm p hp v hmet) htype] at hresult
  exact hplain p hp hlimited htype text (hresult ▸ hmet)

theorem acceptable {shown? : Option Locale} (h : Fills plan s c m w w') (hm : Conforms s c m)
    (hsupplied : unsupplied s c m = []) (hplain : IsPlain find s c m) :
    (checking find room s c w' shown?).IsAcceptable where
  supplied := h.lacking_eq.trans hsupplied
  known := h.undeclared_eq
  typed := (mistyped_eq_nil_iff h.direct rfl).mpr (h.conforms hm)
  plain := (isPlain_iff rfl).mp (h.isPlain hm hplain)

end Fills

/-- Coercion keeps validity: when validation accepts a context for going in and a fresh target is filled from it for
going in, validation accepts the target, whatever the locale and the zone and whether or not the values convert.
Filling returns unless what the context carries as a locale or a zone, and is none, is too deep to be told.  Validation
needs no room for either answer. -/
theorem coercion_keeps_validity (around : Surroundings) (find : Markup.Finder) (s : Store) (c : Contract)
    (source : Value) (m : Entries Value) (room : Room) (shown? : Option Locale) (isRecorded : Bool) (t t₁ : Trace)
    (locale? : Option Locale) (zone? : Option Calendar.Zone) (uses : Nat) (hc : IsDirect s c)
    (hmap : entries (given source) = .ok m) (hfits : Value.entryIntegersFit m = true)
    (hvalid : validateWith find room s c source .input shown? isRecorded t = .ok () t₁) :
    let filled := fill around s c .input (.value source) { locale?, zone? } (begin (.ofEntries []) uses)
    ((∃ w', filled = .ok () w') ↔
        ∀ r ∈ guidanceReadings around.toWorld locale? zone? m, Fails r.2 → r.1.fits around.room .writing = true) ∧
      ∀ w', filled = .ok () w' → ∀ roomAfter shownAfter? isRecordedAfter t₂, ∃ t₃,
        validateWith find roomAfter s c (finished (.ofEntries []) w') .input shownAfter? isRecordedAfter t₂
          = .ok () t₃ := by
  let x : Subject :=
    { store := s, contract := c, direction := .input, given := given source, locale? := shown?, find, room }
  have hreturns : run x source .input isRecorded t = .ok () t₁ := hvalid
  have hx := (run_returns_iff rfl rfl hmap hc.checkable hc.canAsk rfl t).mp ⟨t₁, hreturns⟩
  have hcontext : x.context = m := Subject.context_eq hmap
  have hm : Conforms s c x.context := (mistyped_eq_nil_iff hc rfl).mp hx.typed
  have hsupplied : unsupplied s c x.context = [] := (unsupplied_eq_lacking rfl hm).trans hx.supplied
  have hplain : IsPlain find s c x.context := (isPlain_iff rfl).mpr hx.plain
  rw [hcontext] at hm hsupplied hplain
  refine ⟨fill_of_conforms hc hmap hfits hm, fun w' hfill roomAfter shownAfter? isRecordedAfter t₂ => ?_⟩
  obtain ⟨plan, w, h⟩ := fills_of_fill hc hmap hfill
  let x' := checking find roomAfter s c w' shownAfter?
  have hgiven : x'.given = given (finished (.ofEntries []) w') := (given_ofEntries _).symm
  have hx' : x'.IsAcceptable := h.acceptable hm hsupplied hplain
  exact (run_returns_iff rfl hgiven rfl h.checkable h.canAsk rfl t₂).mpr hx'

namespace Sample

-- A service that takes a number, and an integer for which no double has room.
def rate : Param := { name := "rate", type := "Double" }

def charge : Contract := { info := { name := "charge" }, params := [("rate", 0)] }

def charges : Store := { params := #[rate], contracts := #[charge] }

def huge : Value := .int (Int.pow 10 309)

theorem isDirect_charge : IsDirect charges charge where
  named := ⟨by simp [charge, charges, Store.param, rate], by simp [charge, Entries.keys]⟩
  unvalidated p hp := by
    cases List.mem_singleton.mp hp
    rfl
  ungathered p hp := by
    cases List.mem_singleton.mp hp
    rfl

end Sample

-- The integer does not convert, so it is kept, and for the parameter it is valid.
theorem coercion_keeps_validity_sample :
    ∃ w', fill Sample.around Sample.charges Sample.charge .input (.value (.ofEntries [("rate", Sample.huge)])) {}
        Sample.work = .ok () w' ∧
      w'.failures.map (·.field?) = [some "rate"] ∧
      ∃ t, validateWith Markup.find? Sample.around.room Sample.charges Sample.charge (finished (.ofEntries []) w')
        .input none true {} = .ok () t := by
  obtain ⟨hreturns, hvalid⟩ := coercion_keeps_validity Sample.around Markup.find? Sample.charges Sample.charge
    (.ofEntries [("rate", Sample.huge)]) [("rate", Sample.huge)] Sample.around.room none true {} _ none none 0
    Sample.isDirect_charge rfl (by decide +kernel) rfl
  obtain ⟨w', hfill⟩ := hreturns.mpr nofun
  have htold : (match fill Sample.around Sample.charges Sample.charge .input
      (.value (.ofEntries [("rate", Sample.huge)])) {} Sample.work with
    | .ok _ w => w.failures.map (·.field?)
    | .error _ _ => []) = [some "rate"] := by decide +kernel
  have hfill' : fill Sample.around Sample.charges Sample.charge .input
      (.value (.ofEntries [("rate", Sample.huge)])) {} Sample.work = .ok () w' := hfill
  rw [hfill'] at htold
  exact ⟨w', hfill, htold, hvalid w' hfill Sample.around.room none true {}⟩

namespace Sample

-- A service that takes nothing.
def ping : Contract := { info := { name := "ping" } }

def pings : Store := { contracts := #[ping] }

theorem isDirect_ping : IsDirect pings ping where
  named := ⟨by simp [ping], by simp [ping, Entries.keys]⟩
  unvalidated _ hp := nomatch hp
  ungathered _ hp := nomatch hp

/-- An empty list within so many others. -/
def nested : Nat → Value
  | 0 => .newList []
  | depth + 1 => .newList [nested depth]

theorem integersFit_nested (depth : Nat) : (nested depth).integersFit = true := by
  induction depth with
  | zero => rfl
  | succ depth ih =>
    rw [nested, Value.newList, Value.integersFit, Value.allIntegersFit, ih]
    rfl

theorem written_nested {places depth : Nat} (h : places < depth) :
    (nested depth).written (.ofPlaces places) = .error .tooNested := by
  induction depth generalizing places with
  | zero => exact absurd h (Nat.not_lt_zero places)
  | succ depth ih =>
    cases places with
    | zero => rfl
    | succ places =>
      have hinside : (Room.ofPlaces (places + 1)).inside? .writing .list = some (.ofPlaces places) := rfl
      rw [nested, Value.newList, Value.written, hinside, Value.writtenAll, ih (Nat.lt_of_succ_lt_succ h)]
      rfl

theorem toLocale_nested {places depth : Nat} (h : places < depth) (field? : Option String) :
    toLocale (.ofPlaces places) field? (nested depth) = .error .tooNested := by
  have hmismatch : Fault.ofMismatch (.ofPlaces places) .locale (nested depth) field? = .tooNested := by
    rw [Fault.ofMismatch, written_nested h]
    rfl
  rw [← hmismatch]
  cases depth <;> rfl

end Sample

-- A value for which there is no room, where validation looks for no value at all.
theorem fill_ping_of_unread {v : Value} (hv : v.isNull = false)
    (h : toLocale Sample.around.room (some Mode.localeKey) v = .error .tooNested) :
    fill Sample.around Sample.pings Sample.ping .input (.value (.ofEntries [(Mode.localeKey, v)])) {} Sample.work
      = .error (.conversion .tooNested) Sample.work := by
  have hpresent : present? Mode.localeKey [(Mode.localeKey, v)] = some v := by simp [present?, Entries.get?, hv]
  have hlocale : Context.locale {} Sample.around.room [(Mode.localeKey, v)] Sample.work
      = .error (.conversion .tooNested) Sample.work := by
    rw [Context.locale, carried, hpresent]
    dsimp only
    rw [h]
    rfl
  exact bind_of_error (bind_of_error hlocale)

/-- Validation does not look at a list under the key of the locale.  Coercion tries to tell that it is none, and fails
with it when the list is deeper than the room. -/
theorem nested_locale_escapes :
    IsDirect Sample.pings Sample.ping ∧ (Sample.nested 1001).integersFit = true ∧
      (∃ t, validateWith Markup.find? Sample.around.room Sample.pings Sample.ping
        (.ofEntries [("locale", Sample.nested 1001)]) .input none true {} = .ok () t) ∧
      ∃ w', fill Sample.around Sample.pings Sample.ping .input (.value (.ofEntries [("locale", Sample.nested 1001)])) {}
        Sample.work = .error (.conversion .tooNested) w' :=
  ⟨Sample.isDirect_ping, Sample.integersFit_nested 1001, ⟨_, rfl⟩, _,
    fill_ping_of_unread rfl (Sample.toLocale_nested (by decide) _)⟩

end CallContract.Coercion
