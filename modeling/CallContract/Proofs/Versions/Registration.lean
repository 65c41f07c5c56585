import CallContract.Proofs.Versions.Redefinition

/-!
# Registration — what is found under a name, and what came before it

Links are added at the ends of chains and none is taken away, so whatever a contract has come to supersede it keeps
superseding.  A contract that is registered supersedes the one that was found before it; so it also supersedes all that
were registered before that one, however many other links have been made in between.
-/

namespace CallContract.Catalog

open Relation

/-! ## 1. What has been registered under a name -/

/-- The contracts that were registered under a name in one registry, one after the other. -/
def registeredUnder (i : Nat) (name : String) (log : List Registration) : List ContractId :=
  (log.filter fun e => e.registry = i ∧ e.name = name).map (·.contract)

/-- The last one that was registered is found, and it supersedes all the others. -/
structure Remembers (log : List Registration) (x : Catalog) : Prop where
  find?_eq : ∀ i name, (x.registries i).find? name = (registeredUnder i name log).getLast?
  superseded : ∀ i name c, (x.registries i).find? name = some c →
    ∀ e ∈ registeredUnder i name log, ReflTransGen x.store.Supersedes c e

variable {x y : Catalog} {log : List Registration} {c : ContractId}

theorem registeredUnder_append (i : Nat) (name : String) (e : Registration) :
    registeredUnder i name (log ++ [e]) =
      registeredUnder i name log ++ if e.registry = i ∧ e.name = name then [e.contract] else [] := by
  unfold registeredUnder
  by_cases hkey : e.registry = i ∧ e.name = name
  · simp [hkey]
  · simp [hkey]

namespace Remembers

theorem start (h : x.Fresh) : Remembers [] x := by
  refine ⟨fun i name => ?_, fun i name c hc => by simp [registeredUnder]⟩
  simp [registeredUnder, Registry.find?, h.unregistered i, Entries.get?]

-- More links and more contracts take nothing back.
theorem mono (h : Remembers log x) (hregistries : y.registries = x.registries) (hextends : Extends x.store y.store) :
    Remembers log y := by
  refine ⟨fun i name => ?_, fun i name c hc e he => ?_⟩
  · rw [hregistries]
    exact h.find?_eq i name
  · rw [hregistries] at hc
    exact ReflTransGen.mono hextends.supersedes _ _ (h.superseded i name c hc e he)

-- What supersedes the contract that is found supersedes all that were registered.
theorem reaches_registered (h : Remembers log x) {i : Nat}
    (hearlier : ∀ previous ∈ x.earlier? i c, ReflTransGen x.store.Supersedes c previous) :
    ∀ e ∈ registeredUnder i (x.store.contract c).name log, ReflTransGen x.store.Supersedes c e := by
  intro e he
  cases hfound : (x.registries i).find? (x.store.contract c).name with
  | none =>
    have hempty := List.getLast?_eq_none_iff.mp ((h.find?_eq i _).symm.trans hfound)
    simp [hempty] at he
  | some previous =>
    have hrest := h.superseded i _ previous hfound e he
    by_cases hsame : previous = c
    · exact hsame ▸ hrest
    · exact (hearlier previous (by simp [earlier?, hfound, hsame])).trans hrest

-- The contract that is found next already supersedes the one that was found before, if it is not the same.
theorem enter (h : Remembers log x) (i : Nat)
    (hearlier : ∀ previous ∈ x.earlier? i c, ReflTransGen x.store.Supersedes c previous) :
    Remembers (log ++ [⟨i, (x.store.contract c).name, c⟩]) (x.enter i c) := by
  refine ⟨fun j name => ?_, fun j name d hd e he => ?_⟩
  · rw [find?_enter, registeredUnder_append]
    by_cases hkey : j = i ∧ (x.store.contract c).name = name
    · rw [if_pos hkey, if_pos ⟨hkey.1.symm, hkey.2⟩, List.getLast?_concat]
    · rw [if_neg hkey, if_neg fun hkey' => hkey ⟨hkey'.1.symm, hkey'.2⟩, List.append_nil]
      exact h.find?_eq j name
  · rw [find?_enter] at hd
    rw [registeredUnder_append] at he
    by_cases hkey : j = i ∧ (x.store.contract c).name = name
    · rw [if_pos hkey] at hd
      cases hd
      rw [if_pos ⟨hkey.1.symm, hkey.2⟩] at he
      obtain ⟨rfl, rfl⟩ := hkey
      rcases List.mem_append.mp he with he | he
      · exact h.reaches_registered hearlier e he
      · rw [List.mem_singleton.mp he]
    · rw [if_neg hkey] at hd
      rw [if_neg fun hkey' => hkey ⟨hkey'.1.symm, hkey'.2⟩, List.append_nil] at he
      exact h.superseded j name d hd e he

theorem perform {call : Call} (h : Remembers log x) (hx : x.Sound) (hheld : call.Held x.store)
    (hy : call.perform x = .ok () y) : Remembers (log ++ (call.registration? x.store).toList) y := by
  cases call with
  | build k params =>
    obtain ⟨-, hextends, hregistries⟩ := hx.build hy
    simpa [Call.registration?] using h.mono hregistries hextends
  | register i c =>
    obtain ⟨z, hz, rfl⟩ := hx.register hheld hy
    have hearlier : z.earlier? i c = x.earlier? i c := by rw [earlier?, hz.registries_eq, hz.name_eq, earlier?]
    have hlog : (Call.register i c).registration? x.store = some ⟨i, (z.store.contract c).name, c⟩ := by
      rw [hz.name_eq, Call.registration?]
    rw [hlog]
    apply (h.mono hz.registries_eq hz.extends_store).enter i
    rw [hearlier]
    exact hz.reaches
  | supersede c previous? =>
    have hz := hx.supersede hheld.1 hheld.2 hy
    simpa [Call.registration?] using h.mono hz.registries_eq hz.extends_store

end Remembers

/-! ## 2. Any sequence of calls -/

theorem Run.remembers (h : Run x log y) (hx : x.Fresh) : Remembers log y := by
  induction h with
  | start => exact .start hx
  | done _ before hheld hcall ih => exact ih.perform (before.sound hx.sound) hheld hcall
  | refused _ _ hcall ih =>
    rw [unchanged_of_error hcall]
    exact ih

/-- After any sequence of calls a registry finds under a name the contract that was last registered in it under that
name without being refused, and all contracts that ever were are among the versions of the one that is found. -/
theorem registered_remembered (hx : x.Fresh) (h : Run x log y) (i : Nat) (name : String) :
    (y.registries i).find? name = (registeredUnder i name log).getLast? ∧
      ∀ c, (y.registries i).find? name = some c → ∀ e ∈ registeredUnder i name log, e ∈ y.store.versions c := by
  have hy := h.sound hx.sound
  have hremembers := h.remembers hx
  refine ⟨hremembers.find?_eq i name, fun c hc e he => ?_⟩
  obtain ⟨versions, hchain⟩ := hy.chainsEnd c
  rw [hchain.versions_eq hy.linksHeld (hy.found_lt i name c hc)]
  exact hchain.mem_iff.mpr (hremembers.superseded i name c hc e he)

-- The second definition is found, and the first one is among its versions.
theorem registered_remembered_sample :
    (Sample.redefined.registries 0).find? "svc" = some 1 ∧ 0 ∈ Sample.redefined.store.versions 1 := by
  obtain ⟨hfind, hversions⟩ := registered_remembered Sample.fresh Sample.run 0 "svc"
  have hlast : registeredUnder 0 "svc" [⟨0, "svc", 0⟩, ⟨0, "svc", 1⟩] = [0, 1] := by decide
  rw [hlast] at hfind hversions
  exact ⟨hfind, hversions 1 hfind 0 (by simp)⟩

end CallContract.Catalog
