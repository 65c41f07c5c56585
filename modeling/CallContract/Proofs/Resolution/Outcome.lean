import CallContract.Proofs.Resolution.Stack

/-!
# Outcome — when resolution succeeds and when it is refused

A resolution either ends with its contract resolved, or is refused at the end of a chain of nested resolutions that is
as long as the ceiling.  A contract from which a cycle of dependencies can be reached is never resolved; so that every
resolution of it is refused, whatever the ceiling.  Where no cycle can be reached and the ceiling is no lower than any
path is long, the contract and all that it depends on are resolved.
-/

namespace CallContract.Resolution

open Relation

variable {d : Directory} {limit : Int} {s t : Store} {c root : ContractId} {w : Work}

/-! ## 1. Endings -/

/-- The ways in which a resolution of the root ends. -/
inductive Ending (d : Directory) (limit : Int) (s : Store) (root : ContractId) (w : Work) :
    EStateM.Result Abort Work Unit → Prop
  | resolved {w' : Work} (reaches : Reaches d limit ⟨[⟨root, .start⟩], w⟩ ⟨[], w'⟩) (progress : Progress d s w'.store)
    (resolved : (w'.store.contract root).resolved = true) : Ending d limit s root w (.ok () w')
  | refused {w' : Work} {top : Frame} {below : List Frame} {e : ContractId} {next : Phase}
    (reaches : Reaches d limit ⟨[⟨root, .start⟩], w⟩ ⟨top :: below, w'⟩) (sound : Sound d s root ⟨top :: below, w'⟩)
    (calls : move d w'.store top = .call e next)
    (fails : stepStack d limit top below w' = .error (.tooDeep (w'.store.contract e).name limit) w')
    (depends : Depends d s top.contract e) (unresolved : (w'.store.contract e).resolved = false) (full : limit ≤ (below.length + 1 : Int)) :
    Ending d limit s root w (.error (.tooDeep (w'.store.contract e).name limit) w')

theorem resolve_of_resolved (h : (w.store.contract root).resolved = true) : resolve d limit root w = .ok () w := by
  rw [resolve, if_pos h]

/-- There are no other endings. -/
theorem resolve_ending (d : Directory) (limit : Int) (hprogress : Progress d s w.store)
    (hroot : root < s.contracts.size) : Ending d limit s root w (resolve d limit root w) := by
  have hplays := plays_resolve d limit root w
  cases h : (w.store.contract root).resolved with
  | true =>
    rw [resolve_of_resolved h]
    exact .resolved (.single (.mk (stepStack_start_of_resolved h))) hprogress h
  | false =>
    have hstart := Sound.start hprogress hroot h
    cases hresult : resolve d limit root w with
    | ok _ w' =>
      rw [hresult] at hplays
      cases hplays with
      | finishes hreaches =>
        have hsound := hstart.reaches hreaches
        exact .resolved hreaches hsound.progress (hsound.done rfl)
    | error abort w' =>
      rw [hresult] at hplays
      cases hplays with
      | fails hreaches hfails =>
        have hsound := hstart.reaches hreaches
        obtain ⟨rfl, hfull, e, next, rfl, hcalls, hunresolved, hdepends⟩ := hsound.refused hfails
        exact .refused hreaches hsound hcalls hfails hdepends hunresolved hfull

/-! ## 2. The chain of a refusal -/

/-- The contracts on a stack, read from its bottom, and then the contract that is refused. -/
def chain (stack : List Frame) (refused : ContractId) : List ContractId :=
  (refused :: stack.map Frame.contract).reverse

theorem length_chain (stack : List Frame) (refused : ContractId) :
    (chain stack refused).length = stack.length + 1 := by
  rw [chain, List.length_reverse, List.length_cons, List.length_map]

-- The chain of a refusal is a path of dependencies that begins with the root.
theorem Sound.chain_eq {top : Frame} {below : List Frame} {e : ContractId} (h : Sound d s root ⟨top :: below, w⟩)
    (he : Depends d s top.contract e) :
    ∃ path, chain (top :: below) e = root :: path ∧ IsPath d s (root :: path) := by
  have hpath : IsPath d s (chain (top :: below) e) := by
    have hbelow := h.isPath
    rw [IsPath, List.isChain_reverse] at hbelow
    rw [IsPath, chain, List.isChain_reverse, List.map_cons, List.isChain_cons_cons]
    exact ⟨he, hbelow⟩
  have hfirst : (chain (top :: below) e).head? = some root := by
    rw [chain, List.head?_reverse, List.map_cons, List.getLast?_cons_cons]
    exact h.anchored (List.cons_ne_nil top below)
  obtain ⟨path, heq⟩ := List.head?_eq_some_iff.mp hfirst
  exact ⟨path, heq, heq ▸ hpath⟩

/-! ## 3. The outcome -/

-- A resolved contract is grounded, so no cycle can be reached from it.
theorem Progress.not_onCycle_of_resolved (h : Progress d s t) (hroot : (t.contract root).resolved = true)
    (hreach : Reachable d s root c) : ¬OnCycle d s c := by
  intro hcycle
  have hc := h.resolved_of_reachable hroot hreach
  obtain ⟨e, hfirst, _⟩ := TransGen.head'_iff.mp hcycle
  exact (h.finished c hfirst.from_unresolved hc).grounded.not_onCycle hcycle

namespace Progress

-- What can be reached is read off the first store, whatever has been resolved or refused since.
theorem resolve_of_onCycle (h : Progress d s w.store) (limit : Int) (hroot : root < s.contracts.size)
    (hreach : Reachable d s root c) (hcycle : OnCycle d s c) :
    ∃ service w', resolve d limit root w = .error (.tooDeep service limit) w' := by
  have hending := resolve_ending d limit h hroot
  cases hresult : resolve d limit root w with
  | ok _ w' =>
    rw [hresult] at hending
    cases hending with
    | resolved _ hprogress hresolved =>
      exact absurd hcycle (hprogress.not_onCycle_of_resolved hresolved hreach)
  | error abort w' =>
    rw [hresult] at hending
    cases hending with
    | refused => exact ⟨_, _, rfl⟩

theorem resolve_of_paths (h : Progress d s w.store) (limit : Int) (hroot : root < s.contracts.size)
    (hroom : ∀ path, IsPath d s (root :: path) → ((root :: path).length : Int) ≤ limit) :
    ∃ w', resolve d limit root w = .ok () w' ∧ ∀ c, Reachable d s root c → (w'.store.contract c).resolved = true := by
  have hending := resolve_ending d limit h hroot
  cases hresult : resolve d limit root w with
  | ok _ w' =>
    rw [hresult] at hending
    cases hending with
    | resolved _ hprogress hresolved =>
      exact ⟨w', rfl, fun c hreach => hprogress.resolved_of_reachable hresolved hreach⟩
  | error abort w' =>
    rw [hresult] at hending
    cases hending with
    | @refused _ top below e _ _ hsound _ _ hdepends _ hfull =>
      -- The refused chain is a path with one contract more than the ceiling allows.
      obtain ⟨path, heq, hpath⟩ := hsound.chain_eq hdepends
      have hlength : (root :: path).length = (top :: below).length + 1 := by rw [← heq, length_chain]
      have hle := hroom path hpath
      rw [hlength, List.length_cons] at hle
      omega

/-- Room for every contract is room enough where no dependencies lead on for ever. -/
theorem resolve_of_grounded (h : Progress d s w.store) (limit : Int) (hs : WellFormed d.registry s)
    (hroot : root < s.contracts.size) (hgrounded : Grounded d s root) (hlimit : (s.contracts.size : Int) ≤ limit) :
    ∃ w', resolve d limit root w = .ok () w' ∧ ∀ c, Reachable d s root c → (w'.store.contract c).resolved = true := by
  refine h.resolve_of_paths limit hroot fun path hpath => ?_
  have hle := hgrounded.length_le hs hroot hpath
  omega

end Progress

/-- The machine comes to an end; it is refused if a cycle can be reached; and it resolves all that can be reached if
no cycle is among that and every path has room below the ceiling. -/
theorem resolve_outcome (d : Directory) (limit : Int) (root : ContractId) (w : Work)
    (hs : WellFormed d.registry w.store) (hroot : root < w.store.contracts.size) :
    Plays d limit ⟨[⟨root, .start⟩], w⟩ [] (resolve d limit root w) ∧
      ((∃ c, Reachable d w.store root c ∧ OnCycle d w.store c) →
        ∃ service w', resolve d limit root w = .error (.tooDeep service limit) w') ∧
      ((∀ c, Reachable d w.store root c → ¬OnCycle d w.store c) →
        (∀ path, IsPath d w.store (root :: path) → ((root :: path).length : Int) ≤ limit) →
        ∃ w', resolve d limit root w = .ok () w' ∧
          ∀ c, Reachable d w.store root c → (w'.store.contract c).resolved = true) := by
  have hprogress : Progress d w.store w.store := Progress.refl hs
  refine ⟨plays_resolve d limit root w, ?_, fun _ hroom => hprogress.resolve_of_paths limit hroot hroom⟩
  rintro ⟨c, hreach, hcycle⟩
  exact hprogress.resolve_of_onCycle limit hroot hreach hcycle

-- The contract that inherits from itself is refused; the order is resolved with all that it depends on.
theorem resolve_outcome_sample :
    let w : Work := { store := Sample.store }
    (∃ service w', resolve Sample.directory 5 2 w = .error (.tooDeep service 5) w') ∧
      ∃ w', resolve Sample.directory 5 1 w = .ok () w' ∧
        (w'.store.contract 1).resolved = true ∧ (w'.store.contract 4).resolved = true := by
  intro w
  have hlt : ∀ c < 5, c < w.store.contracts.size := by decide
  obtain ⟨_, hloop, _⟩ := resolve_outcome Sample.directory 5 2 w Sample.wellFormed (hlt 2 (by decide))
  obtain ⟨_, _, horder⟩ := resolve_outcome Sample.directory 5 1 w Sample.wellFormed (hlt 1 (by decide))
  have hcustomer : Depends Sample.directory w.store 1 3 := Sample.depends (by decide)
  have hparty : Depends Sample.directory w.store 3 4 := Sample.depends (by decide)
  refine ⟨hloop ⟨2, .refl, Sample.onCycle⟩, ?_⟩
  obtain ⟨w', hw', hresolved⟩ := horder (fun c hreach => (Sample.grounded.of_reachable hreach).not_onCycle)
    fun path hpath => Int.ofNat_le.mpr (Sample.grounded.length_le Sample.wellFormed (hlt 1 (by decide)) hpath)
  exact ⟨w', hw', hresolved 1 .refl, hresolved 4 (.tail (.single hcustomer) hparty)⟩

end CallContract.Resolution
