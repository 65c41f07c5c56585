import CallContract.Proofs.Resolution.History

/-!
# Refusal — what a refused resolution leaves behind

After any sequence of calls the resolved contracts are closed: with a contract the definition that it supersedes and
all interfaces that are found for what it declares are resolved.  A refused call keeps that.  Nothing on its chain is
resolved, although interfaces beside the chain may be, and what was resolved before has not been touched.
-/

namespace CallContract.Resolution

variable {d : Directory} {limit : Int} {s t : Store} {c root : ContractId} {w : Work}

/-! ## 1. Closed stores -/

/-- With every resolved contract all that it supersedes or declares is resolved. -/
structure Closed (d : Directory) (s : Store) : Prop where
  predecessor : ∀ c, (s.contract c).resolved = true → ∀ p, predecessor? s c = some p → (s.contract p).resolved = true
  declared : ∀ c, (s.contract c).resolved = true → ∀ ref ∈ (s.contract c).declared,
    ∀ i, d.registry.find? ref.serviceName = some i → (s.contract i).resolved = true

-- Where nothing is resolved, all is closed.
theorem closed_of_unresolved (h : ∀ c, (s.contract c).resolved = false) : Closed d s := by
  refine ⟨fun c hc => ?_, fun c hc => ?_⟩
  · rw [h c] at hc
    cases hc
  · rw [h c] at hc
    cases hc

-- A reference that completion keeps does not name the superseded definition, so it is looked up in the registry.
theorem interface?_of_mem_withoutPredecessor {refs : List Reference} {ref : Reference}
    (h : ref ∈ withoutPredecessor (predecessorName? s c) refs) :
    ref ∈ refs ∧ interface? d s c ref = d.registry.find? ref.serviceName := by
  unfold interface? target
  cases hp : predecessor? s c with
  | none =>
    rw [predecessorName?, hp] at h
    refine ⟨h, ?_⟩
    cases d.registry.find? ref.serviceName <;> rfl
  | some p =>
    rw [predecessorName?, hp] at h
    obtain ⟨hmem, hname⟩ := List.mem_filter.mp h
    have hne : ¬(s.contract p).name = ref.serviceName := fun heq => (of_decide_eq_true hname) heq.symm
    refine ⟨hmem, ?_⟩
    simp only [if_neg hne]
    cases d.registry.find? ref.serviceName <;> rfl

-- Resolutions, refused ones among them, lead from a closed store to a closed store.
theorem Progress.closed (h : Progress d s t) (hs : Closed d s) : Closed d t := by
  refine ⟨fun c hc p hp => ?_, fun c hc ref href i hi => ?_⟩
  · rw [h.evolves.predecessor?_eq] at hp
    cases hsc : (s.contract c).resolved with
    | true => exact h.evolves.resolved (hs.predecessor c hsc p hp)
    | false => exact (h.finished c hsc hc).leads p (Or.inl hp)
  · cases hsc : (s.contract c).resolved with
    | true =>
      rw [h.evolves.kept c hsc] at href
      exact h.evolves.resolved (hs.declared c hsc ref href i hi)
    | false =>
      have hfinished := h.finished c hsc hc
      rw [hfinished.declared_eq] at href
      obtain ⟨hmem, hinterface⟩ := interface?_of_mem_withoutPredecessor (d := d) href
      exact hfinished.leads i (Or.inr ⟨ref, hmem, hinterface.trans hi⟩)

/-! ## 2. Refused calls -/

/-- The machine has come from the root to a stack whose topmost frame calls a contract and is refused: the contracts on
the stack, from its bottom, and then the one that is called. -/
inductive RefusedChain (d : Directory) (limit : Int) (root : ContractId) (w w' : Work) : List ContractId → Prop
  | mk {top : Frame} {below : List Frame} {e : ContractId} {next : Phase}
    (reaches : Reaches d limit ⟨[⟨root, .start⟩], w⟩ ⟨top :: below, w'⟩) (calls : move d w'.store top = .call e next)
    (fails : stepStack d limit top below w' = .error (.tooDeep (w'.store.contract e).name limit) w') :
    RefusedChain d limit root w w' (chain (top :: below) e)

/-- A refused call has one chain. -/
theorem RefusedChain.unique {w' : Work} {links links' : List ContractId} (h : RefusedChain d limit root w w' links)
    (h' : RefusedChain d limit root w w' links') : links = links' := by
  cases h with
  | mk hreaches hcalls hfails =>
    cases h' with
    | mk hreaches' hcalls' hfails' =>
      cases eq_of_reaches hreaches hreaches' (fun _ => not_step_of_error hfails) fun _ => not_step_of_error hfails'
      rw [hcalls] at hcalls'
      cases hcalls'
      rfl

theorem Advances.unchanged (h : Advances d s t) (hc : (s.contract c).resolved = true) :
    t.contract c = s.contract c ∧ t.content c = s.content c :=
  ⟨h.progress.evolves.kept c hc, h.merged.kept c hc⟩

/-- A refused call has a chain from its root to the contract that the refusal names, with nothing resolved on it. -/
theorem exists_refusedChain {service : String} {ceiling : Int} {w' : Work} (hs : WellFormed d.registry w.store)
    (hroot : root < w.store.contracts.size) (h : resolve d limit root w = .error (.tooDeep service ceiling) w') :
    ∃ links, RefusedChain d limit root w w' links ∧ links.head? = some root ∧
      (links.getLast?.map fun e => (w'.store.contract e).name) = some service ∧
      IsPath d w.store links ∧ ∀ c ∈ links, (w'.store.contract c).resolved = false := by
  have hending := resolve_ending d limit (Progress.refl hs) hroot
  rw [h] at hending
  cases hending with
  | @refused _ top below e next hreaches hsound hcalls hfails hdepends hunresolved _ =>
    obtain ⟨path, heq, hpath⟩ := hsound.chain_eq hdepends
    refine ⟨chain (top :: below) e, RefusedChain.mk hreaches hcalls hfails, ?_, ?_, heq ▸ hpath, fun c hc => ?_⟩
    · rw [heq]
      rfl
    · rw [chain, List.getLast?_reverse]
      rfl
    · rcases List.mem_cons.mp (List.mem_reverse.mp hc) with rfl | hc
      · exact hunresolved
      · obtain ⟨f, hf, rfl⟩ := List.mem_map.mp hc
        exact hsound.unresolved hf

/-- After any sequence of calls from a closed store in which no parameter is shared, the resolved contracts are closed.
If a further call is refused, every contract on its chain is unresolved, and every contract that was resolved before is
as it was, with its content. -/
theorem refusal_safe (d : Directory) (calls : List Call) (w : Work) (hs : WellFormed d.registry w.store)
    (hunshared : w.store.Unshared) (hclosed : Closed d w.store)
    (hcalls : ∀ call ∈ calls, call.root < w.store.contracts.size) :
    Closed d (after d calls w).store ∧
      ∀ root limit service ceiling w', root < w.store.contracts.size →
        resolve d limit root (after d calls w) = .error (.tooDeep service ceiling) w' →
        (∃ links, RefusedChain d limit root (after d calls w) w' links ∧ links.head? = some root ∧
          (links.getLast?.map fun e => (w'.store.contract e).name) = some service ∧
          IsPath d (after d calls w).store links ∧ ∀ c ∈ links, (w'.store.contract c).resolved = false) ∧
        ∀ c, ((after d calls w).store.contract c).resolved = true →
          w'.store.contract c = (after d calls w).store.contract c ∧
            w'.store.content c = (after d calls w).store.content c := by
  have hafter : Advances d w.store (after d calls w).store := (Advances.refl hs hunshared).after hcalls
  refine ⟨hafter.progress.closed hclosed, fun root limit service ceiling w' hroot hrefused => ?_⟩
  have hroot' : root < (after d calls w).store.contracts.size := hafter.progress.evolves.size_eq.symm ▸ hroot
  refine ⟨exists_refusedChain hafter.progress.wellFormed hroot' hrefused, fun c hc => ?_⟩
  have hstart : Advances d (after d calls w).store (after d calls w).store :=
    Advances.refl hafter.progress.wellFormed hafter.merged.unshared
  have hcall := hstart.resolve limit hroot'
  rw [hrefused] at hcall
  exact hcall.unchanged hc

-- After the order has been refused the contract that inherits from itself is refused; its chain begins with it.
theorem refusal_safe_sample :
    let w : Work := { store := Sample.store }
    let halfway := after Sample.directory [⟨1, 2⟩] w
    Closed Sample.directory halfway.store ∧ ∃ service w' links,
      resolve Sample.directory 3 2 halfway = .error (.tooDeep service 3) w' ∧
        RefusedChain Sample.directory 3 2 halfway w' links ∧ links.head? = some 2 := by
  intro w halfway
  have hlt : ∀ call ∈ ([⟨1, 2⟩] : List Call), call.root < w.store.contracts.size := by decide
  obtain ⟨hclosed, hrefusals⟩ := refusal_safe Sample.directory [⟨1, 2⟩] w Sample.wellFormed Sample.unshared
    (closed_of_unresolved Sample.unresolved) hlt
  have hafter : Advances Sample.directory w.store halfway.store :=
    (Advances.refl Sample.wellFormed Sample.unshared).after hlt
  obtain ⟨service, w', hw'⟩ := hafter.progress.resolve_of_onCycle 3 (by decide) .refl Sample.onCycle
  obtain ⟨⟨links, hlinks, hfirst, _⟩, _⟩ := hrefusals 2 3 service 3 w' (by decide) hw'
  exact ⟨hclosed, service, w', links, hw', hlinks, hfirst⟩

end CallContract.Resolution
