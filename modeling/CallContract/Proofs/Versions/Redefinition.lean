import CallContract.Proofs.Stateful
import CallContract.Proofs.Versions.Chain
import CallContract.Registry
import Mathlib.Logic.Function.Basic

/-!
# Redefinition — registering and superseding, one call after the other

Contracts are made, registered in any of several registries, and linked to earlier definitions; each call changes what
the calls before it have left.  A call that is refused is refused before it writes, so it leaves everything as it was.
After any sequence of calls no links go round in a circle, and a link is refused exactly if it would make them do so.
-/

namespace CallContract

open Relation

/-- What has been made, with the registries in which it is found and what has been recorded. -/
structure Catalog where
  store : Store := {}
  registries : Nat → Registry := fun _ => {}
  journal : Journal := []

namespace Catalog

/-! ## 1. Calls -/

inductive Call
  | build (k : Contract) (params : List ParamId)
  | register (i : Nat) (c : ContractId)
  | supersede (c : ContractId) (previous? : Option ContractId)

/-- An action on the catalog; one that is refused keeps what it has written until then. -/
abbrev Action := EStateM DefinitionFault Catalog

-- A contract is made without an earlier definition.
def build (k : Contract) (params : List ParamId) : Action Unit :=
  modify fun x => { x with store := x.store.build { k with supersedes? := none } params }

/-- Links the last version of a contract to another contract, unless their versions meet. -/
def supersede (c : ContractId) : Option ContractId → Action Unit
  | none => pure ()
  | some previous => do
    let s := (← get).store
    if (s.versions previous).any (s.versions c).contains then
      throw (.cyclicVersions (s.contract c).name)
    modify fun x => { x with store := x.store.linked ((s.versions c).getLastD c) previous }
    modify fun x => { x with journal := x.journal ++ [x.store.redefinition c previous] }

-- The contract is found under its name.
def enter (i : Nat) (c : ContractId) (x : Catalog) : Catalog :=
  let name := (x.store.contract c).name
  let r := x.registries i
  let r := { r with contracts := Entries.put name c r.contracts }
  { x with registries := Function.update x.registries i r }

-- What is found under the name of a contract, unless it is the contract itself.
def earlier? (x : Catalog) (i : Nat) (c : ContractId) : Option ContractId :=
  ((x.registries i).find? (x.store.contract c).name).filter (· ≠ c)

/-- Lets a contract supersede the one that is found under its name, and then be found instead. -/
def register (i : Nat) (c : ContractId) : Action Unit := do
  let x ← get
  supersede c (x.earlier? i c)
  modify (enter i c)

namespace Call

def perform : Call → Action Unit
  | build k params => Catalog.build k params
  | register i c => Catalog.register i c
  | supersede c previous? => Catalog.supersede c previous?

-- The contracts of the call have been made.
def Held (s : Store) : Call → Prop
  | build _ _ => True
  | register _ c => c < s.contracts.size
  | supersede c previous? => c < s.contracts.size ∧ ∀ previous ∈ previous?, previous < s.contracts.size

end Call

variable {x y z : Catalog} {s : Store} {c previous : ContractId} {fault : DefinitionFault} {call : Call}

theorem name_linked (last e : ContractId) : ((s.linked last previous).contract e).name = (s.contract e).name := by
  unfold Store.linked
  rw [Store.contract_setContract]
  split
  · next h =>
    rw [← h.1]
    rfl
  · rfl

theorem name_of_supersede {t : Store} {journal : Journal} (h : s.supersede c previous = .ok (t, journal))
    (e : ContractId) : (t.contract e).name = (s.contract e).name := by
  by_cases hmeet : (s.versions previous).any (s.versions c).contains = true
  · simp [Store.supersede, hmeet] at h
  · simp only [Store.supersede, if_neg hmeet] at h
    cases h
    exact name_linked _ e

/-- The action does what superseding in the store does. -/
theorem supersede_eq (x : Catalog) (c previous : ContractId) : supersede c (some previous) x =
    match x.store.supersede c previous with
    | .ok (store, journal) => .ok () { x with store, journal := x.journal ++ journal }
    | .error fault => .error fault x := by
  rw [supersede, get_bind, Store.supersede]
  by_cases hmeet : (x.store.versions previous).any (x.store.versions c).contains = true
  · simp only [if_pos hmeet]
    rfl
  · simp only [if_neg hmeet]
    rfl

theorem supersede_none : supersede c none x = .ok () x := rfl

theorem register_of_ok {i : Nat} (h : supersede c (x.earlier? i c) x = .ok () y) :
    register i c x = .ok () (y.enter i c) := by
  rw [register, get_bind, bind_of_ok h]
  rfl

theorem register_of_error {i : Nat} (h : supersede c (x.earlier? i c) x = .error fault y) :
    register i c x = .error fault y := by
  rw [register, get_bind, bind_of_error h]

/-- The action does what registering does. -/
theorem register_eq (i : Nat) : register i c x =
    match (x.registries i).register x.store c with
    | .ok (r, store, journal) =>
      .ok () { store, registries := Function.update x.registries i r, journal := x.journal ++ journal }
    | .error fault => .error fault x := by
  cases hfind : (x.registries i).find? (x.store.contract c).name with
  | none =>
    have hearlier : x.earlier? i c = none := by simp [earlier?, hfind]
    rw [register_of_ok (hearlier ▸ supersede_none)]
    simp [Registry.register, hfind, enter]
  | some previous =>
    by_cases hsame : previous = c
    · have hearlier : x.earlier? i c = none := by simp [earlier?, hfind, hsame]
      rw [register_of_ok (hearlier ▸ supersede_none)]
      simp [Registry.register, hfind, hsame, enter]
    · have hearlier : x.earlier? i c = some previous := by simp [earlier?, hfind, hsame]
      have hsupersede := supersede_eq x c previous
      rw [← hearlier] at hsupersede
      cases hstore : x.store.supersede c previous with
      | error fault =>
        rw [hstore] at hsupersede
        rw [register_of_error hsupersede]
        simp [Registry.register, hfind, hsame, hstore]
      | ok linked =>
        rw [hstore] at hsupersede
        rw [register_of_ok hsupersede]
        have hname := name_of_supersede hstore c
        simp [Registry.register, hfind, hsame, hstore, enter, hname]

/-! ## 2. What every call keeps -/

/-- Chains end, and links and registries lead to contracts that have been made. -/
structure Sound (x : Catalog) : Prop where
  chainsEnd : x.store.ChainsEnd
  linksHeld : x.store.LinksHeld
  found_lt : ∀ i name c, (x.registries i).find? name = some c → c < x.store.contracts.size

/-- No contract and no link is lost. -/
structure Extends (s t : Store) : Prop where
  size_le : s.contracts.size ≤ t.contracts.size
  supersedes : ∀ c p, s.Supersedes c p → t.Supersedes c p

theorem supersedes?_build (k : Contract) (params : List ParamId) (e : ContractId) :
    ((s.build { k with supersedes? := none } params).contract e).supersedes? = (s.contract e).supersedes? := by
  rw [Store.build, Store.contract_pushContract]
  split
  · next he =>
    rw [he, Store.contract_of_size_le (Nat.le_refl _), Store.foldl_holding]
    rfl
  · rfl

theorem find?_enter (i j : Nat) (name : String) : ((x.enter i c).registries j).find? name =
    if j = i ∧ (x.store.contract c).name = name then some c else (x.registries j).find? name := by
  by_cases hj : j = i
  · subst hj
    simp [enter, Registry.find?, Entries.get?_put]
  · simp [enter, hj]

-- What superseding or nothing at all makes of the catalog, when it is not refused.
structure Superseded (x : Catalog) (c : ContractId) (previous? : Option ContractId) (y : Catalog) : Prop where
  sound : y.Sound
  extends_store : Extends x.store y.store
  size_eq : y.store.contracts.size = x.store.contracts.size
  registries_eq : y.registries = x.registries
  name_eq : ∀ e, (y.store.contract e).name = (x.store.contract e).name
  reaches : ∀ previous ∈ previous?, ReflTransGen y.store.Supersedes c previous

namespace Sound

theorem build (h : x.Sound) {k : Contract} {params : List ParamId} (hy : Catalog.build k params x = .ok () y) :
    y.Sound ∧ Extends x.store y.store ∧ y.registries = x.registries := by
  cases hy
  have hlinks := supersedes?_build (s := x.store) k params
  have hsize : (x.store.build { k with supersedes? := none } params).contracts.size = x.store.contracts.size + 1 :=
    Array.size_push _
  have hle : x.store.contracts.size ≤ (x.store.build { k with supersedes? := none } params).contracts.size := by omega
  refine ⟨⟨fun c => ?_, fun c p hp => ?_, fun i name c hc => ?_⟩, ⟨hle, fun c p hp => ?_⟩, rfl⟩
  · obtain ⟨versions, hchain⟩ := h.chainsEnd c
    exact ⟨versions, hchain.congr fun d _ => hlinks d⟩
  · exact Nat.lt_of_lt_of_le (h.linksHeld c p ((hlinks c).symm.trans hp)) hle
  · exact Nat.lt_of_lt_of_le (h.found_lt i name c hc) hle
  · exact (hlinks c).trans hp

/-- A link from the last version is refused if it closes a cycle, and is made otherwise. -/
theorem supersede_some (h : x.Sound) (hc : c < x.store.contracts.size) (hprevious : previous < x.store.contracts.size) :
    ∃ last < x.store.contracts.size, (x.store.versions c).getLast? = some last ∧
      (x.store.contract last).supersedes? = none ∧
      ((x.store.linked last previous).HasCycle →
        supersede c (some previous) x = .error (.cyclicVersions (x.store.contract c).name) x) ∧
      (¬(x.store.linked last previous).HasCycle → (x.store.linked last previous).ChainsEnd ∧
        supersede c (some previous) x = .ok ()
          { x with
            store := x.store.linked last previous
            journal := x.journal ++ [(x.store.linked last previous).redefinition c previous] }) := by
  obtain ⟨last, hlt, hlast, hnone, hclosed, hopen⟩ := Store.supersede_spec h.chainsEnd h.linksHeld hc hprevious
  refine ⟨last, hlt, hlast, hnone, fun hcycle => ?_, fun hcycle => ⟨(hopen hcycle).1, ?_⟩⟩
  · rw [supersede_eq, hclosed hcycle]
  · rw [supersede_eq, (hopen hcycle).2]

-- The link leads from the last version of the contract, which the contract reaches.
theorem superseded_linked (h : x.Sound) {last : ContractId} {journal : Journal} (hc : c < x.store.contracts.size)
    (hprevious : previous < x.store.contracts.size) (hlt : last < x.store.contracts.size)
    (hlast : (x.store.versions c).getLast? = some last) (hnone : (x.store.contract last).supersedes? = none)
    (hends : (x.store.linked last previous).ChainsEnd) :
    Superseded x c (some previous) { x with store := x.store.linked last previous, journal } where
  sound := ⟨hends, h.linksHeld.linked hlt hprevious, by simpa using h.found_lt⟩
  extends_store := ⟨by simp, fun _ _ hsome => hsome.linked hlt hnone⟩
  size_eq := by simp
  registries_eq := rfl
  name_eq e := name_linked last e
  reaches p hp := by
    cases hp
    obtain ⟨versions, hchain⟩ := h.chainsEnd c
    have hmem : last ∈ versions := by
      rw [hchain.versions_eq h.linksHeld hc] at hlast
      exact List.mem_of_getLast? hlast
    have hback : ReflTransGen (x.store.linked last previous).Supersedes c last :=
      ReflTransGen.mono (fun _ _ hsome => hsome.linked hlt hnone) _ _ (hchain.mem_iff.mp hmem)
    exact hback.tail (Store.linked_supersedes hlt)

theorem supersede (h : x.Sound) {previous? : Option ContractId} (hc : c < x.store.contracts.size)
    (hprevious : ∀ previous ∈ previous?, previous < x.store.contracts.size)
    (hy : Catalog.supersede c previous? x = .ok () y) : Superseded x c previous? y := by
  cases previous? with
  | none =>
    cases hy
    exact ⟨h, ⟨Nat.le_refl _, fun _ _ => id⟩, rfl, rfl, fun _ => rfl, by simp⟩
  | some previous =>
    have hheld : previous < x.store.contracts.size := hprevious previous rfl
    obtain ⟨last, hlt, hlast, hnone, hclosed, hopen⟩ := h.supersede_some hc hheld
    by_cases hcycle : (x.store.linked last previous).HasCycle
    · simp [hclosed hcycle] at hy
    · obtain ⟨hends, hok⟩ := hopen hcycle
      rw [hok] at hy
      cases hy
      exact h.superseded_linked hc hheld hlt hlast hnone hends

theorem enter (h : x.Sound) {i : Nat} (hc : c < x.store.contracts.size) : (x.enter i c).Sound := by
  refine ⟨h.chainsEnd, h.linksHeld, fun j name e he => ?_⟩
  rw [find?_enter] at he
  split at he
  · cases he
    exact hc
  · exact h.found_lt j name e he

theorem earlier?_lt (h : x.Sound) {i : Nat} : ∀ previous ∈ x.earlier? i c, previous < x.store.contracts.size := by
  intro previous hprevious
  obtain ⟨hfound, -⟩ := Option.mem_filter_iff.mp hprevious
  exact h.found_lt i _ previous hfound

-- What has been found is superseded first, and then the contract is found.
theorem register (h : x.Sound) {i : Nat} (hc : c < x.store.contracts.size) (hy : Catalog.register i c x = .ok () y) :
    ∃ z, Superseded x c (x.earlier? i c) z ∧ y = z.enter i c := by
  cases hz : Catalog.supersede c (x.earlier? i c) x with
  | ok u z =>
    rw [register_of_ok hz] at hy
    cases hy
    exact ⟨z, h.supersede hc h.earlier?_lt hz, rfl⟩
  | error fault z =>
    rw [register_of_error hz] at hy
    cases hy

theorem perform (h : x.Sound) (hheld : call.Held x.store) (hy : call.perform x = .ok () y) :
    y.Sound ∧ Extends x.store y.store := by
  cases call with
  | build k params => exact ⟨(h.build hy).1, (h.build hy).2.1⟩
  | register i c =>
    obtain ⟨z, hz, rfl⟩ := h.register hheld hy
    have hc : c < z.store.contracts.size := hz.size_eq ▸ hheld
    exact ⟨hz.sound.enter hc, hz.extends_store⟩
  | supersede c previous? =>
    have hz := h.supersede hheld.1 hheld.2 hy
    exact ⟨hz.sound, hz.extends_store⟩

end Sound

/-- A call that is refused leaves all links, all that can be found and all that has been recorded as they were. -/
theorem unchanged_of_error (hy : call.perform x = .error fault y) : y = x := by
  cases call with
  | build k params => cases hy
  | register i c =>
    simp only [Call.perform, register_eq] at hy
    split at hy
    · cases hy
    · cases hy
      rfl
  | supersede c previous? =>
    cases previous? with
    | none => cases hy
    | some previous =>
      simp only [Call.perform, supersede_eq] at hy
      split at hy
      · cases hy
      · cases hy
        rfl

/-! ## 3. Any sequence of calls -/

/-- That a contract has been registered under its name. -/
structure Registration where
  registry : Nat
  name : String
  contract : ContractId

def Call.registration? (s : Store) : Call → Option Registration
  | .register i c => some ⟨i, (s.contract c).name, c⟩
  | _ => none

/-- Calls one after the other, refused ones among them, with the registrations that were not refused. -/
inductive Run (x : Catalog) : List Registration → Catalog → Prop
  | start : Run x [] x
  | done {log : List Registration} {y z : Catalog} (call : Call) (before : Run x log y) (hheld : call.Held y.store)
    (hcall : call.perform y = .ok () z) : Run x (log ++ (call.registration? y.store).toList) z
  | refused {log : List Registration} {y z : Catalog} {fault : DefinitionFault} (call : Call) (before : Run x log y)
    (hcall : call.perform y = .error fault z) : Run x log z

/-- No contract supersedes another one, and nothing has been registered. -/
structure Fresh (x : Catalog) : Prop where
  unlinked : ∀ c, (x.store.contract c).supersedes? = none
  unregistered : ∀ i, (x.registries i).contracts = []

variable {log : List Registration}

theorem Fresh.sound (h : x.Fresh) : x.Sound := by
  refine ⟨fun c => ⟨[c], .last (h.unlinked c)⟩, fun c p hp => ?_, fun i name c hc => ?_⟩
  · simp [Store.Supersedes, h.unlinked c] at hp
  · simp [Registry.find?, h.unregistered i, Entries.get?] at hc

theorem Run.sound (h : Run x log y) (hx : x.Sound) : y.Sound := by
  induction h with
  | start => exact hx
  | done _ _ hheld hcall ih => exact (ih.perform hheld hcall).1
  | refused _ _ hcall ih =>
    rw [unchanged_of_error hcall]
    exact ih

/-- After any sequence of calls the versions of every contract are a whole chain without repetition.  Superseding is
refused exactly if a link from the last version to the earlier definition would close a cycle, and makes that link
otherwise.  A call that is refused changes nothing. -/
theorem redefinition_safe (hx : x.Fresh) (h : Run x log y) :
    (∀ c < y.store.contracts.size, y.store.Chain c (y.store.versions c) ∧ (y.store.versions c).Nodup) ∧
    (∀ c < y.store.contracts.size, ∀ previous < y.store.contracts.size,
      ∃ last, (y.store.versions c).getLast? = some last ∧
        ((y.store.linked last previous).HasCycle →
          supersede c (some previous) y = .error (.cyclicVersions (y.store.contract c).name) y) ∧
        (¬(y.store.linked last previous).HasCycle → supersede c (some previous) y = .ok ()
          { y with
            store := y.store.linked last previous
            journal := y.journal ++ [(y.store.linked last previous).redefinition c previous] })) ∧
    ∀ call fault z, Call.perform call y = .error fault z → z = y := by
  have hy := h.sound hx.sound
  refine ⟨fun c hc => ?_, fun c hc previous hprevious => ?_, fun call fault z hz => unchanged_of_error hz⟩
  · obtain ⟨versions, hchain⟩ := hy.chainsEnd c
    rw [hchain.versions_eq hy.linksHeld hc]
    exact ⟨hchain, hchain.nodup⟩
  · obtain ⟨last, -, hlast, -, hclosed, hopen⟩ := hy.supersede_some hc hprevious
    exact ⟨last, hlast, hclosed, fun hcycle => (hopen hcycle).2⟩

namespace Sample

def contract : Contract := { info := { name := "svc" } }

-- Two contracts of one name have been made.
def made : Catalog := { store := (({} : Store).build contract []).build contract [] }

-- They are registered in turn, so that the second one supersedes the first one.
def redefined : Catalog :=
  let first := made.enter 0 0
  let second := first.enter 0 1
  { second with
    store := made.store.linked 1 0
    journal := [(made.store.linked 1 0).redefinition 1 0] }

theorem fresh : Fresh {} := ⟨fun c => by rw [Store.contract_of_size_le (Nat.zero_le c)]; rfl, fun _ => rfl⟩

theorem run : Run {} [⟨0, "svc", 0⟩, ⟨0, "svc", 1⟩] redefined := by
  have hmade : Run {} [] made :=
    .done (.build contract []) (.done (.build contract []) .start trivial rfl) trivial rfl
  have hfirst : Run {} [⟨0, "svc", 0⟩] (made.enter 0 0) := .done (.register 0 0) hmade (show 0 < 2 by decide) rfl
  exact .done (.register 0 1) hfirst (show 1 < 2 by decide) rfl

end Sample

-- The second definition supersedes the first one, which then must not supersede the second one.
theorem redefinition_safe_sample :
    Sample.redefined.store.Chain 1 [1, 0] ∧
      supersede 0 (some 1) Sample.redefined = .error (.cyclicVersions "svc") Sample.redefined := by
  obtain ⟨hchains, hlinks, -⟩ := redefinition_safe Sample.fresh Sample.run
  obtain ⟨last, hlast, hclosed, -⟩ := hlinks 0 (by decide) 1 (by decide)
  have hfirst : last = 0 := (Option.some.inj hlast).symm
  rw [hfirst] at hclosed
  have hlinked : (Sample.redefined.store.linked 0 1).Supersedes 0 1 := rfl
  have hback : (Sample.redefined.store.linked 0 1).Supersedes 1 0 := rfl
  exact ⟨(hchains 1 (by decide)).1, hclosed ⟨0, .tail (.single hlinked) hback⟩⟩

end Catalog

end CallContract
