import CallContract.Proofs.Resolution.Merging
import CallContract.Proofs.Resolution.Outcome

/-!
# History — resolved contracts after any sequence of calls

Calls of resolution follow one another, each from the work that the one before has left, whether that has resolved its
root or has been refused.  Whatever the calls were, every contract that is resolved afterwards is what it becomes when
it is resolved alone: its content is its final content, in which the contents of its interfaces are final contents
again, and there is only one way to work these out.
-/

namespace CallContract.Resolution

variable {d : Directory} {limit : Int} {s t u : Store} {c root : ContractId} {w : Work}

/-! ## 1. Calls one after the other -/

/-- A call of resolution. -/
structure Call where
  root : ContractId
  limit : Int

/-- The work that a resolution leaves, successful or not. -/
def workOf : EStateM.Result Abort Work Unit → Work
  | .ok _ w => w
  | .error _ w => w

/-- The work that a sequence of calls leaves. -/
def after (d : Directory) (calls : List Call) (w : Work) : Work :=
  calls.foldl (fun w call => workOf (resolve d call.limit call.root w)) w

/-- A store to which calls have led from a first one in which no parameter is shared. -/
structure Advances (d : Directory) (s t : Store) : Prop where
  progress : Progress d s t
  merged : Merged d s t

namespace Advances

theorem refl (hs : WellFormed d.registry s) (hu : s.Unshared) : Advances d s s :=
  ⟨Progress.refl hs, Merged.refl d hu⟩

-- One call, whose contents are followed along the run of the machine.
theorem resolve (h : Advances d s w.store) (limit : Int) (hroot : root < s.contracts.size) :
    Advances d s (workOf (resolve d limit root w)).store := by
  cases hresolved : (w.store.contract root).resolved with
  | true =>
    rw [resolve_of_resolved hresolved]
    exact h
  | false =>
    have hsound : Sound d s root ⟨[⟨root, .start⟩], w⟩ := Sound.start h.progress hroot hresolved
    have hmerging : Merging d s ⟨[⟨root, .start⟩], w⟩ := Merging.start h.merged
    have hending := resolve_ending d limit h.progress hroot
    revert hending
    cases Resolution.resolve d limit root w with
    | ok _ w' =>
      intro hending
      cases hending with
      | resolved hreaches hprogress _ => exact ⟨hprogress, (hmerging.reaches hsound hreaches).merged⟩
    | error abort w' =>
      intro hending
      cases hending with
      | refused hreaches hsound' => exact ⟨hsound'.progress, (hmerging.reaches hsound hreaches).merged⟩

/-- Any sequence of calls. -/
theorem after {calls : List Call} (h : Advances d s w.store) (hcalls : ∀ call ∈ calls, call.root < s.contracts.size) :
    Advances d s (after d calls w).store := by
  induction calls generalizing w with
  | nil => exact h
  | cons call rest ih =>
    have hfirst := h.resolve call.limit (hcalls call List.mem_cons_self)
    exact ih hfirst fun later hlater => hcalls later (List.mem_cons_of_mem call hlater)

/-! ## 2. Two histories agree -/

theorem content_eq (h : Advances d s t) (h' : Advances d s u) (hc : Grounded d s c)
    (ht : (t.contract c).resolved = true) (hu : (u.contract c).resolved = true) : u.content c = t.content c := by
  induction hc with
  | intro c _ ih =>
    cases hs : (s.contract c).resolved with
    | true => rw [h.merged.kept c hs, h'.merged.kept c hs]
    | false =>
      have htc := h.progress.finished c hs ht
      have huc := h'.progress.finished c hs hu
      rw [h.merged.finished c hs ht, h'.merged.finished c hs hu, finalContent, finalContent]
      refine congrArg (fun k => List.foldl Content.applyPatch k _) (blend_congr fun ref href i hi => ?_)
      -- An interface that was resolved from the first is as it was; any other one is a dependency.
      have hleads : Leads d s c i := Or.inr ⟨ref, href, hi⟩
      cases hsi : (s.contract i).resolved with
      | true => rw [h.merged.kept i hsi, h'.merged.kept i hsi]
      | false => exact ih i ⟨hs, hsi, hleads⟩ (htc.leads i hleads) (huc.leads i hleads)

theorem declared_eq (h : Advances d s t) (h' : Advances d s u) (ht : (t.contract c).resolved = true)
    (hu : (u.contract c).resolved = true) : (u.contract c).declared = (t.contract c).declared := by
  cases hs : (s.contract c).resolved with
  | true => rw [h.progress.evolves.kept c hs, h'.progress.evolves.kept c hs]
  | false => rw [(h.progress.finished c hs ht).declared_eq, (h'.progress.finished c hs hu).declared_eq]

end Advances

theorem Progress.grounded_of_resolved (h : Progress d s t) (hc : (t.contract c).resolved = true) : Grounded d s c := by
  cases hs : (s.contract c).resolved with
  | true =>
    refine Acc.intro c fun e hd => ?_
    have hunresolved := hd.from_unresolved
    rw [hs] at hunresolved
    cases hunresolved
  | false => exact (h.finished c hs hc).grounded

theorem lt_of_resolved (h : (s.contract c).resolved = true) : c < s.contracts.size := by
  refine Store.lt_of_contract_ne fun heq => ?_
  rw [heq] at h
  cases h

/-- Where no parameter is shared, a contract that is resolved after a sequence of calls, refused ones among them, has
the parameters, properties and references that it gets when it is resolved alone from the first work with a ceiling
that is never reached. -/
theorem after_eq_alone (d : Directory) (calls : List Call) (w : Work) (c : ContractId) (limit : Int)
    (hs : WellFormed d.registry w.store) (hunshared : w.store.Unshared)
    (hcalls : ∀ call ∈ calls, call.root < w.store.contracts.size)
    (hresolved : ((after d calls w).store.contract c).resolved = true)
    (hlimit : (w.store.contracts.size : Int) ≤ limit) :
    ∃ alone, resolve d limit c w = .ok () alone ∧ (alone.store.contract c).resolved = true ∧
      (after d calls w).store.content c = alone.store.content c ∧
      ((after d calls w).store.contract c).declared = (alone.store.contract c).declared := by
  have hstart : Advances d w.store w.store := Advances.refl hs hunshared
  have hafter : Advances d w.store (after d calls w).store := hstart.after hcalls
  have hgrounded : Grounded d w.store c := hafter.progress.grounded_of_resolved hresolved
  have hc : c < w.store.contracts.size := hafter.progress.evolves.size_eq ▸ lt_of_resolved hresolved
  obtain ⟨alone, halone, hreached⟩ := hstart.progress.resolve_of_grounded limit hs hc hgrounded hlimit
  have hadvances := hstart.resolve limit hc
  rw [halone] at hadvances
  have hdone : (alone.store.contract c).resolved = true := hreached c .refl
  refine ⟨alone, halone, hdone, ?_, ?_⟩
  · exact hadvances.content_eq hafter hgrounded hdone hresolved
  · exact hadvances.declared_eq hafter hdone hresolved

-- Under a ceiling of two the order takes the audit and is refused at the party; a later call resolves it.
theorem after_eq_alone_sample :
    let w : Work := { store := Sample.store }
    let calls : List Call := [⟨2, 3⟩, ⟨1, 2⟩, ⟨1, 5⟩]
    ∃ alone, resolve Sample.directory 5 1 w = .ok () alone ∧
      (after Sample.directory calls w).store.content 1 = alone.store.content 1 := by
  intro w calls
  have hstart : Advances Sample.directory w.store w.store := Advances.refl Sample.wellFormed Sample.unshared
  have hlt : ∀ call ∈ calls, call.root < w.store.contracts.size := by decide
  have hrefused : Advances Sample.directory w.store (after Sample.directory [⟨2, 3⟩, ⟨1, 2⟩] w).store :=
    hstart.after (by decide)
  obtain ⟨v, hv, hreached⟩ :=
    hrefused.progress.resolve_of_grounded 5 Sample.wellFormed (by decide) Sample.grounded (by decide)
  have hresolved : ((after Sample.directory calls w).store.contract 1).resolved = true := by
    have hlast : after Sample.directory calls w = v := congrArg workOf hv
    rw [hlast]
    exact hreached 1 .refl
  obtain ⟨alone, halone, _, hcontent, _⟩ :=
    after_eq_alone Sample.directory calls w 1 5 Sample.wellFormed Sample.unshared hlt hresolved (by decide)
  exact ⟨alone, halone, hcontent⟩

end CallContract.Resolution
