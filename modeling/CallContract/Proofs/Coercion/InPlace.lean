import CallContract.Proofs.Coercion.Filled
import Mathlib.Data.List.Nodup

/-!
# InPlace — converting in place agrees with filling a target

Filling goes through all parameters of a direction and writes to a fresh target; converting in place goes through the
flagged ones and writes to the map that it reads from.  No parameter is reached twice, so what a visit finds is what the
map held at first, and both write the same value for it.
-/

namespace CallContract.Coercion

open CallContract.Calendar CallContract.Conversion Context

/-! ## 1. One parameter -/

namespace Plan

variable {plan : Plan} {p : Param} {m : Entries Value} {v : Value}

theorem convert_of_isNull (h : v.isNull = true) : plan.convert p v = .ok .null :=
  convert_of_becomesNull (by simp [becomesNull, h])

theorem result_of_isNull (h : v.isNull = true) : plan.result p v = v := by
  rw [result, convert_of_isNull h]
  cases v <;> first | rfl | cases h

-- A parameter whose value is missing or null has no failure.
theorem failure?_of_absent (h : present? p.name m = none) : plan.failure? m p = none := by
  rw [failure?]
  cases hget : Entries.get? p.name m with
  | none => rfl
  | some v =>
    have hnull : v.isNull = true := by simpa [present?, hget] using h
    simp [convert_of_isNull hnull]

theorem failure?_congr {m' : Entries Value} (h : Entries.get? p.name m = Entries.get? p.name m') :
    plan.failure? m p = plan.failure? m' p := by
  rw [failure?, failure?, h]

end Plan

/-- A map has been rewritten for parameters: each of them that it has holds the result of its own value, and all else
is as it was. -/
structure Rewritten (plan : Plan) (ps : List Param) (w w' : ContextWork) : Prop where
  keys_eq : Entries.keys w'.entries = Entries.keys w.entries
  get?_eq : ∀ p ∈ ps, Entries.get? p.name w'.entries = (Entries.get? p.name w.entries).map (plan.result p)
  kept : ∀ key, (∀ p ∈ ps, p.name ≠ key) → Entries.get? key w'.entries = Entries.get? key w.entries
  failures_eq : w'.failures = w.failures ++ ps.filterMap (plan.failure? w.entries)

section

variable {plan : Plan} {p : Param} {rest ps : List Param} {w w₁ w' : ContextWork} {v : Value}
  {around : Surroundings} {service : String} {guide : Locale × Zone}

theorem rewritten_of_put (hget : Entries.get? p.name w.entries = some v)
    (hentries : w'.entries = Entries.put p.name (plan.result p v) w.entries)
    (hfailures : w'.failures = w.failures ++ (plan.failure? w.entries p).toList) : Rewritten plan [p] w w' where
  keys_eq := by
    have hmem : p.name ∈ Entries.keys w.entries := Entries.mem_keys_iff.mpr ⟨v, hget⟩
    rw [hentries, Entries.keys_put, if_pos hmem]
  get?_eq q hq := by
    cases List.mem_singleton.mp hq
    rw [hentries, Entries.get?_put, if_pos rfl, hget]
    rfl
  kept key hkey := by
    have hne : p.name ≠ key := hkey p List.mem_cons_self
    rw [hentries, Entries.get?_put, if_neg hne]
  failures_eq := by
    rw [hfailures]
    cases hfailure : plan.failure? w.entries p <;> simp [hfailure]

theorem rewritten_of_visit (hvisit : (inPlace around service guide).Visit p w w') :
    Rewritten (inPlace around service guide) [p] w w' := by
  have hget : ∀ {v}, present? p.name w.entries = some v → Entries.get? p.name w.entries = some v := fun hmet =>
    (Option.filter_eq_some_iff.mp hmet).1
  cases hvisit with
  | converted hmet hconvert =>
    apply rewritten_of_put (hget hmet)
    · rw [Plan.result, hconvert]
      rfl
    · simp [Plan.failure?, hget hmet, hconvert, Plan.put]
  | kept hmet hconvert _ _ _ =>
    apply rewritten_of_put (hget hmet)
    · rw [Plan.result, hconvert]
      rfl
    · simp [Plan.failure?, hget hmet, hconvert, Plan.put, noteFailure]
  | gathered _ hinstead => cases hinstead
  | passed hmet _ =>
    have habsent : present? p.name w.entries = none := hmet
    refine ⟨rfl, fun q hq => ?_, fun _ _ => rfl, by simp [Plan.failure?_of_absent habsent]⟩
    cases List.mem_singleton.mp hq
    cases hvalue : Entries.get? p.name w.entries with
    | none => rfl
    | some v =>
      have hnull : v.isNull = true := by simpa [present?, hvalue] using habsent
      rw [Option.map_some, Plan.result_of_isNull hnull]

/-! ## 2. All parameters -/

theorem Rewritten.cons (h : Rewritten plan [p] w w₁) (hrest : Rewritten plan rest w₁ w')
    (hnew : p.name ∉ rest.map (·.name)) : Rewritten plan (p :: rest) w w' := by
  have hother : ∀ q ∈ rest, p.name ≠ q.name := fun q hq e => hnew (e ▸ List.mem_map_of_mem hq)
  have hrestKept : ∀ q ∈ rest, Entries.get? q.name w₁.entries = Entries.get? q.name w.entries := fun q hq =>
    h.kept q.name (by simpa using hother q hq)
  refine ⟨hrest.keys_eq.trans h.keys_eq, fun q hq => ?_, fun key hkey => ?_, ?_⟩
  · rcases List.mem_cons.mp hq with rfl | hq
    · rw [hrest.kept q.name fun r hr e => hother r hr e.symm, h.get?_eq q List.mem_cons_self]
    · rw [hrest.get?_eq q hq, hrestKept q hq]
  · rw [hrest.kept key fun q hq => hkey q (List.mem_cons_of_mem p hq),
      h.kept key (by simpa using hkey p List.mem_cons_self)]
  · have hfailures : rest.filterMap (plan.failure? w₁.entries) = rest.filterMap (plan.failure? w.entries) :=
      List.filterMap_congr fun q hq => Plan.failure?_congr (hrestKept q hq)
    rw [hrest.failures_eq, h.failures_eq, hfailures, List.append_assoc, ← List.filterMap_append, List.singleton_append]

/-- Visits in place rewrite the map for the parameters that are visited. -/
theorem rewritten_of_visits (hvisits : (inPlace around service guide).Visits ps w w')
    (hnames : (ps.map (·.name)).Nodup) : Rewritten (inPlace around service guide) ps w w' := by
  induction hvisits with
  | nil w => exact ⟨rfl, by simp, fun _ _ => rfl, by simp⟩
  | cons hvisit _ ih =>
    obtain ⟨hhead, htail⟩ := List.nodup_cons.mp hnames
    exact (rewritten_of_visit hvisit).cons (ih htail) hhead

end

/-! ## 3. The flagged parameters -/

/-- The parameters that have been looked up for converting in place, if any, are those that are flagged now. -/
def IsCurrent (s : Store) (c : Contract) : Prop :=
  s.convertible c = c.paramIds.filter fun id => (s.param id).typeConvert

-- The flagged parameters of a contract in a direction.
def flagged (s : Store) (c : Contract) (d : Direction) : List Param :=
  (s.paramsOf c).filter fun p => p.typeConvert && p.mode.takesPartIn (.plain d)

section

variable {s : Store} {c : Contract} {d : Direction} {id : ContractId} {p : Param} {options : Options}

-- After the cache has been cleared, the flagged parameters are looked up anew.
theorem isCurrent_of_cleared (h : c.convertible? = none) : IsCurrent s c := by
  rw [IsCurrent, Store.convertible, h]
  rfl

-- Looking the parameters up keeps what has been looked up current.
theorem isCurrent_lookUp (hid : id < s.contracts.size) (h : IsCurrent s (s.contract id)) :
    IsCurrent (s.lookUpConvertible id) ((s.lookUpConvertible id).contract id) := by
  rw [Store.lookUpConvertible, Store.contract_setContract_self s _ hid]
  exact h

theorem flagged_eq (h : IsCurrent s c) :
    ((s.convertible c).map s.param).filter (fun p => p.mode.takesPartIn (.plain d)) = flagged s c d := by
  have hfilter : (c.paramIds.filter fun id => (s.param id).typeConvert).map s.param
      = (s.paramsOf c).filter (·.typeConvert) := by rw [Store.paramsOf, List.filter_map, Function.comp_def]
  rw [h, hfilter, List.filter_filter, flagged]
  exact List.filter_congr fun p _ => Bool.and_comm _ _

theorem mem_taken_of_flagged (h : p ∈ flagged s c d) (hinternal : options.withInternal = true) :
    p ∈ taken s c (.plain d) options := by
  obtain ⟨hp, hflag⟩ := List.mem_filter.mp h
  rw [Bool.and_eq_true] at hflag
  exact List.mem_filter.mpr ⟨hp, by simp [isTaken, Mode.base, hinternal, hflag.2]⟩

theorem flagged_eq_filter (hinternal : options.withInternal = true) :
    flagged s c d = (taken s c (.plain d) options).filter (·.typeConvert) := by
  have htaken : taken s c (.plain d) options = (s.paramsOf c).filter fun p => p.mode.takesPartIn (.plain d) :=
    List.filter_congr fun p _ => by simp [isTaken, Mode.base, hinternal]
  rw [htaken, List.filter_filter, flagged]

theorem nodup_flagged (hc : s.HoldsByName c) : ((flagged s c d).map (·.name)).Nodup :=
  (List.filter_sublist.map _).nodup hc.nodup

theorem field?_of_failure? {plan : Plan} {m : Entries Value} {e : Mismatch} (h : plan.failure? m p = some e) :
    e.field? = some p.name := by
  obtain ⟨v, -, hv⟩ := Option.bind_eq_some_iff.mp h
  cases hconvert : plan.convert p v with
  | ok u => simp [hconvert] at hv
  | error f =>
    cases f with
    | mismatch e' =>
      simp only [hconvert, Option.some.injEq] at hv
      rw [← hv]
      exact ((error_of_convert hconvert).2.2 e' rfl).2.1
    | _ => simp [hconvert] at hv

-- What is made of the members of a list falls into the parts that they fall into.
theorem filter_filterMap_of_apart {α β : Type} {f : α → Option β} {isIn : β → Bool} {chosen : α → Bool} {l : List α}
    (h : ∀ a ∈ l, ∀ b, f a = some b → isIn b = chosen a) :
    (l.filterMap f).filter isIn = (l.filter chosen).filterMap f := by
  rw [List.filter_filterMap, List.filterMap_filter]
  apply List.filterMap_congr
  intro a ha
  cases hf : f a with
  | none => simp
  | some b => simp [Option.filter, h a ha b hf]

/-- Whether a failure is one of a flagged parameter. -/
def isOfFlagged (s : Store) (c : Contract) (d : Direction) (e : Mismatch) : Bool :=
  (flagged s c d).any fun p => e.field? = some p.name

-- The failures of flagged parameters are told apart from the others by their fields.
theorem filter_failures (hc : s.HoldsByName c) (hinternal : options.withInternal = true) (plan : Plan)
    (m : Entries Value) : ((taken s c (.plain d) options).filterMap (plan.failure? m)).filter (isOfFlagged s c d)
      = (flagged s c d).filterMap (plan.failure? m) := by
  have hflagged : ∀ p ∈ taken s c (.plain d) options, ∀ e, e.field? = some p.name →
      isOfFlagged s c d e = p.typeConvert := by
    intro p hp e he
    rw [Bool.eq_iff_iff, isOfFlagged, List.any_eq_true, flagged_eq_filter hinternal]
    constructor
    · rintro ⟨q, hq, hfield⟩
      obtain ⟨hq, hflag⟩ := List.mem_filter.mp hq
      have hname : q.name = p.name := by simpa [he, eq_comm] using hfield
      cases List.inj_on_of_nodup_map (nodup_taken hc) hq hp hname
      exact hflag
    · intro hflag
      exact ⟨p, List.mem_filter.mpr ⟨hp, hflag⟩, by simp [he]⟩
  rw [flagged_eq_filter hinternal]
  exact filter_filterMap_of_apart fun p hp e he => hflagged p hp e (field?_of_failure? he)

end

/-! ## 4. The two side by side -/

/-- How a map that has been converted in place stands beside a fresh target that has been filled from it.  `guided` are
the failures of looking for a locale and a zone. -/
structure Alike (s : Store) (c : Contract) (d : Direction) (m : Entries Value) (guided : List Mismatch)
    (filled converted : ContextWork) : Prop where
  /-- A flagged parameter that is there has the value that the target has for it. -/
  value_eq : ∀ p ∈ flagged s c d, ∀ v, Entries.get? p.name m = some v →
    ∃ u, Entries.get? p.name filled.entries = some u ∧ Entries.get? p.name converted.entries = some u
  kept : ∀ key, (∀ p ∈ flagged s c d, p.name ≠ key) → Entries.get? key converted.entries = Entries.get? key m
  keys_eq : Entries.keys converted.entries = Entries.keys m
  /-- Of the failures of parameters, those of flagged ones are told in the same order. -/
  failures_eq : ∃ own, filled.failures = guided ++ own ∧
    converted.failures = (if (s.convertible c).isEmpty then [] else guided) ++ own.filter (isOfFlagged s c d)

/-- Converting in place agrees with filling a fresh target from the same map, with the same locale and zone: whenever
both return, the flagged parameters have the same values and the same failures, and nothing else in the map changes. -/
theorem conversion_in_place_agrees (around : Surroundings) (s : Store) (c : Contract) (d : Direction)
    (m : Entries Value) (locale? : Option Locale) (zone? : Option Zone) (uses uses₂ : Nat) (w₁ w₂ : ContextWork)
    (hc : s.HoldsByName c) (hcurrent : IsCurrent s c)
    (hfill : fill around s c (.plain d) (.value (.ofEntries m)) { locale?, zone? } (begin (.ofEntries []) uses)
      = .ok () w₁)
    (hconvert : convertFlagged around s c (.plain d) locale? zone? (begin (.ofEntries m) uses₂) = .ok () w₂) :
    Alike s c d m (mismatches (guidanceReadings around.toWorld locale? zone? m)) w₁ w₂ := by
  let options : Options := { locale?, zone? }
  have hmap : entries (given (.ofEntries m)) = .ok m := by
    rw [given_ofEntries]
    rfl
  have houtcome := outcome_of_fill hc hmap rfl rfl hfill
  let plan := inPlace around c.name (chosen around locale? zone? m)
  let rs := if (s.convertible c).isEmpty then [] else guidanceReadings around.toWorld locale? zone? m
  have hvisits : plan.Visits (flagged s c d) (noted rs (begin (.ofEntries m) uses₂)) w₂ := by
    rw [← flagged_eq hcurrent]
    exact (convertFlagged_ends rfl).visits w₂ hconvert
  have hrewritten := rewritten_of_visits hvisits (nodup_flagged hc)
  have hm : (noted rs (begin (.ofEntries m) uses₂)).entries = m := entries_noted rs _
  refine ⟨fun p hp v hget => ?_, fun key hkey => ?_, ?_, (taken s c (.plain d) options).filterMap (plan.failure? m),
    houtcome.failures_eq, ?_⟩
  · have htarget := houtcome.get?_eq (nodup_taken hc) (mem_taken_of_flagged hp rfl)
    refine ⟨plan.result p v, ?_, ?_⟩
    · rw [htarget, Plan.drawn?, Plan.written?, hget]
      rfl
    · rw [hrewritten.get?_eq p hp, hm, hget]
      rfl
  · rw [hrewritten.kept key hkey, hm]
  · rw [hrewritten.keys_eq, hm]
  · have hfresh : (begin (.ofEntries m) uses₂).failures = [] := rfl
    rw [hrewritten.failures_eq, hm, failures_noted, hfresh, filter_failures hc rfl]
    cases hempty : (s.convertible c).isEmpty <;> simp [rs, plan, hempty, mismatches]

namespace Sample

-- A service that takes two numbers, one of which is converted in place.
def quantity : Param := { name := "qty", type := "Long", typeConvert := true }

def count : Param := { name := "count", type := "Long" }

def order : Contract := { info := { name := "order" }, params := [("qty", 0), ("count", 1)] }

def orders : Store := { params := #[quantity, count], contracts := #[order] }

theorem holdsByName_order : orders.HoldsByName order :=
  ⟨by simp [order, orders, Store.param, quantity, count], by simp [order, Entries.keys]⟩

end Sample

-- A text that is no number stays for the flagged parameter in both, and so does its failure; the other is converted
-- only in the fresh target.
theorem conversion_in_place_agrees_sample :
    ∃ w₁ w₂, fill Sample.around Sample.orders Sample.order .input
          (.value (.ofEntries [("qty", .text "four"), ("count", .text "5")])) {} Sample.work = .ok () w₁ ∧
      convertFlagged Sample.around Sample.orders Sample.order .input none none
          (begin (.ofEntries [("qty", .text "four"), ("count", .text "5")]) 0) = .ok () w₂ ∧
      Alike Sample.orders Sample.order .input [("qty", .text "four"), ("count", .text "5")] [] w₁ w₂ ∧
      w₁.entries = [("qty", .text "four"), ("count", .int 5)] ∧
      w₂.entries = [("qty", .text "four"), ("count", .text "5")] ∧ w₂.failures.length = 1 := by
  have halike := conversion_in_place_agrees Sample.around Sample.orders Sample.order .input
    [("qty", .text "four"), ("count", .text "5")] none none 0 0 _ _ Sample.holdsByName_order
    (isCurrent_of_cleared rfl) rfl rfl
  exact ⟨_, _, rfl, rfl, halike, rfl, rfl, rfl⟩

end CallContract.Coercion
