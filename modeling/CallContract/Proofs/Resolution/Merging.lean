import CallContract.Proofs.Resolution.Blend

/-!
# Merging — every step keeps each contract on its way

A frame that has followed some references has its contract absorb the interfaces for which they stand, even if an
earlier resolution has merged them already and has been refused later on.  That is what makes a repeated merge harmless
at each step, and what makes the content complete when no reference is left.
-/

namespace CallContract.Resolution

open Relation

variable {d : Directory} {limit : Int} {s t u : Store} {c root : ContractId} {x y : Config}

/-! ## 1. Frames and what they have absorbed -/

/-- The references that a frame has yet to follow, once it has begun to follow them. -/
def Phase.remaining? : Phase → Option (List Reference)
  | .start | .expand => none
  | .follow refs => some refs
  | .mergeThen _ ref refs => some (ref :: refs)

/-- The contract of a frame absorbs the interfaces that the frame has followed. -/
def Absorbed (d : Directory) (s t : Store) (f : Frame) : Prop :=
  ∀ followed remaining, f.phase.remaining? = some remaining →
    expandedReferences d (s.contract f.contract) = followed ++ remaining →
    AbsorbsAll d s t f.contract (t.content f.contract) followed

theorem OnTrack.followed {f : Frame} (h : OnTrack d s t f) {remaining : List Reference}
    (hremaining : f.phase.remaining? = some remaining) :
    ∃ followed, Followed d s t f.contract followed remaining := by
  obtain ⟨c, phase⟩ := f
  cases phase with
  | start => cases hremaining
  | expand => cases hremaining
  | follow refs => cases hremaining; exact h
  | mergeThen i ref refs => cases hremaining; exact h.2

-- The interfaces that a frame has followed are resolved.
theorem OnTrack.interfaces {f : Frame} (h : OnTrack d s t f) {followed remaining : List Reference}
    (hremaining : f.phase.remaining? = some remaining)
    (hrefs : expandedReferences d (s.contract f.contract) = followed ++ remaining) :
    ∀ ref ∈ followed, ∀ i, interface? d s f.contract ref = some i → (t.contract i).resolved = true := by
  obtain ⟨followed', hf⟩ := h.followed hremaining
  have heq : followed' = followed := List.append_cancel_right (hf.references_eq.symm.trans hrefs)
  exact heq ▸ hf.interfaces

-- An edit of an unresolved contract that absorbs as much afterwards as before.
theorem Absorbed.edit {r : Registry} {f : Frame} (h : Absorbed d s t f) (htrack : OnTrack d s t f)
    (hedits : Edits r c t u) (ht : WellFormed r t) (hunshared : t.Unshared) (hc : (t.contract c).resolved = false)
    (hself : f.contract = c → ∀ k, (t.content c).Absorbs k → (u.content c).Absorbs k) : Absorbed d s u f := by
  intro followed remaining hremaining hrefs ref href i hi
  have hresolved := htrack.interfaces hremaining hrefs ref href i hi
  have hic : i ≠ c := ne_of_resolved hresolved hc
  have habsorbs := h followed remaining hremaining hrefs ref href i hi
  rw [hedits.content_of_ne ht hunshared hic]
  by_cases hfc : f.contract = c
  · rw [hfc] at habsorbs ⊢
    exact hself hfc (t.content i) habsorbs
  · rw [hedits.content_of_ne ht hunshared hfc]
    exact habsorbs

theorem eq_snoc_of_append_eq {α : Type} {l before followed rest : List α} {a : α} (h : l = before ++ a :: rest)
    (h' : l = followed ++ rest) : followed = before ++ [a] := by
  have heq : followed ++ rest = (before ++ [a]) ++ rest := by
    rw [← h', h, List.append_assoc]
    rfl
  exact List.append_cancel_right heq

-- A frame that goes on without merging has nothing more to absorb.
theorem Absorbed.heads {phase next : Phase} {dependency? : Option ContractId} (h : Absorbed d s t ⟨c, phase⟩)
    (htrack : OnTrack d s t ⟨c, phase⟩) (hevolves : Evolves d s t) (hheads : Heads d t c phase dependency? next) :
    Absorbed d s t ⟨c, next⟩ := by
  cases hheads with
  | start =>
    intro followed remaining hremaining
    cases hremaining
  | @missing ref refs hi =>
    rw [hevolves.interface?_eq] at hi
    intro followed remaining hremaining hrefs
    cases hremaining
    obtain ⟨before, hf⟩ : ∃ before, Followed d s t c before (ref :: refs) := htrack.followed rfl
    have heq : followed = before ++ [ref] := eq_snoc_of_append_eq hf.references_eq hrefs
    intro r hr i hri
    rw [heq] at hr
    rcases List.mem_append.mp hr with hr | hr
    · exact h before (ref :: refs) rfl hf.references_eq r hr i hri
    · rw [List.mem_singleton.mp hr] at hri
      rw [hi] at hri
      cases hri
  | found _ => exact h

/-! ## 2. The invariant -/

/-- What holds of the contents in every configuration of a resolution, where no parameter is shared. -/
structure Merging (d : Directory) (s : Store) (x : Config) : Prop where
  merged : Merged d s x.work.store
  absorbed : ∀ f ∈ x.stack, Absorbed d s x.work.store f

namespace Merging

theorem start {w : Work} (h : Merged d s w.store) : Merging d s ⟨[⟨root, .start⟩], w⟩ := by
  refine ⟨h, fun f hf followed remaining hremaining => ?_⟩
  rw [List.mem_singleton.mp hf] at hremaining
  cases hremaining

theorem pass {below : List Frame} {w w' : Work} {phase next : Phase} {dependency? : Option ContractId}
    (h : Merging d s ⟨⟨c, phase⟩ :: below, w⟩) (hsound : Sound d s root ⟨⟨c, phase⟩ :: below, w⟩)
    (hheads : Heads d w.store c phase dependency? next) (hstore : w'.store = w.store) :
    Merging d s ⟨⟨c, next⟩ :: below, w'⟩ := by
  refine ⟨hstore ▸ h.merged, fun f hf => ?_⟩
  change Absorbed d s w'.store f
  rw [hstore]
  rcases List.mem_cons.mp hf with rfl | hf
  · exact (h.absorbed _ List.mem_cons_self).heads (hsound.onTrack List.mem_cons_self) hsound.progress.evolves hheads
  · exact h.absorbed f (List.mem_cons_of_mem _ hf)

theorem call {below : List Frame} {w : Work} {phase next : Phase} {e : ContractId}
    (h : Merging d s ⟨⟨c, phase⟩ :: below, w⟩) (hsound : Sound d s root ⟨⟨c, phase⟩ :: below, w⟩)
    (hheads : Heads d w.store c phase (some e) next) :
    Merging d s ⟨⟨e, .start⟩ :: ⟨c, next⟩ :: below, w⟩ := by
  have hcaller : Merging d s ⟨⟨c, next⟩ :: below, w⟩ := h.pass hsound hheads rfl
  refine ⟨h.merged, fun f hf => ?_⟩
  rcases List.mem_cons.mp hf with rfl | hf
  · intro followed remaining hremaining
    cases hremaining
  · exact hcaller.absorbed f hf

-- After an edit the frames below, which may belong to the edited contract too, have absorbed what they had before.
theorem absorbed_below {below : List Frame} {w w' : Work} {phase : Phase} (h : Merging d s ⟨⟨c, phase⟩ :: below, w⟩)
    (hsound : Sound d s root ⟨⟨c, phase⟩ :: below, w⟩) (hedits : Edits d.registry c w.store w'.store)
    (hself : ∀ k, (w.store.content c).Absorbs k → (w'.store.content c).Absorbs k) :
    ∀ f ∈ below, Absorbed d s w'.store f := by
  intro f hf
  have hmem : f ∈ (⟨c, phase⟩ :: below : List Frame) := List.mem_cons_of_mem _ hf
  exact (h.absorbed f hmem).edit (hsound.onTrack hmem) hedits hsound.progress.wellFormed h.merged.unshared
    (hsound.unresolved List.mem_cons_self) fun _ => hself

theorem expand {below : List Frame} {w w' : Work} (h : Merging d s ⟨⟨c, .expand⟩ :: below, w⟩)
    (hsound : Sound d s root ⟨⟨c, .expand⟩ :: below, w⟩) (hedits : Edits d.registry c w.store w'.store)
    (hresolved : (w'.store.contract c).resolved = (w.store.contract c).resolved)
    (hcontent : w'.store.content c = w.store.content c) :
    Merging d s ⟨⟨c, .follow (expandedReferences d (w.store.contract c))⟩ :: below, w'⟩ := by
  have hc : (w.store.contract c).resolved = false := hsound.unresolved List.mem_cons_self
  have hrefs := hsound.progress.evolves.references_eq c hc
  refine ⟨h.merged.edit hsound.progress hedits hc (fun hu => ?_) fun _ => ?_, fun f hf => ?_⟩
  · rw [hresolved, hc] at hu
    cases hu
  · obtain ⟨before, after, hb⟩ := h.merged.pending c hc
    exact ⟨before, after, hb.edit (h.merged.content_of_edits hsound.progress hedits hc) hcontent⟩
  · rcases List.mem_cons.mp hf with rfl | hf
    · -- No reference has been followed yet.
      intro followed remaining hremaining heq ref href
      cases hremaining
      have hnil : followed = [] := by
        have heq' : [] ++ expandedReferences d (s.contract c) = followed ++ expandedReferences d (s.contract c) := by
          rw [List.nil_append]
          exact heq.trans (congrArg _ hrefs)
        exact (List.append_cancel_right heq').symm
      rw [hnil] at href
      cases href
    · exact h.absorbed_below hsound hedits (fun k hk => hcontent ▸ hk) f hf

theorem merge {below : List Frame} {w w' : Work} {i : ContractId} {ref : Reference} {refs : List Reference}
    (h : Merging d s ⟨⟨c, .mergeThen i ref refs⟩ :: below, w⟩)
    (hsound : Sound d s root ⟨⟨c, .mergeThen i ref refs⟩ :: below, w⟩) (hedits : Edits d.registry c w.store w'.store)
    (hsame : SameStanding c w.store w'.store)
    (hcontent : w'.store.content c = (w.store.content c).merge ref (w.store.content i)) :
    Merging d s ⟨⟨c, .follow refs⟩ :: below, w'⟩ := by
  have hmem : (⟨c, .mergeThen i ref refs⟩ : Frame) ∈ (⟨c, .mergeThen i ref refs⟩ :: below : List Frame) :=
    List.mem_cons_self
  have hc : (w.store.contract c).resolved = false := hsound.unresolved hmem
  have hi : (w.store.contract i).resolved = true := hsound.ready _ rfl i rfl
  obtain ⟨hinterface, followed, hf⟩ := hsound.onTrack hmem
  have habsorbed : AbsorbsAll d s w.store c (w.store.content c) followed :=
    h.absorbed _ hmem followed (ref :: refs) rfl hf.references_eq
  have hkept := h.merged.content_of_edits hsound.progress hedits hc
  have hself : ∀ k, (w.store.content c).Absorbs k → (w'.store.content c).Absorbs k := by
    intro k hk
    rw [hcontent]
    exact Content.absorbs_merge hk ref _
  refine ⟨h.merged.edit hsound.progress hedits hc (fun hu => ?_) fun _ => ?_, fun f hf' => ?_⟩
  · rw [hsame.resolved_eq, hc] at hu
    cases hu
  · obtain ⟨before, after, hb⟩ := h.merged.pending c hc
    obtain ⟨before', after', hrefs, hinterfaces, heq⟩ :=
      hb.merge hf habsorbed hinterface hi
    refine ⟨before', after', hrefs, fun r hr j hj => (hkept j (hinterfaces r hr j hj)).2, ?_⟩
    rw [hcontent, heq]
    exact (blend_congr fun r hr j hj => (hkept j (hinterfaces r hr j hj)).1).symm
  · rcases List.mem_cons.mp hf' with rfl | hf'
    · intro followed' remaining hremaining hrefs
      cases hremaining
      have hnext : Followed d s w.store c (followed ++ [ref]) refs := hf.snoc fun j hj => by
        rw [hinterface] at hj
        cases hj
        exact hi
      rw [eq_snoc_of_append_eq hf.references_eq hrefs]
      change AbsorbsAll d s w'.store c (w'.store.content c) _
      rw [hcontent]
      exact (habsorbed.merge hinterface).congr fun r hr j hj => (hkept j (hnext.interfaces r hr j hj)).1
    · exact h.absorbed_below hsound hedits hself f hf'

/-- When no reference is left to follow, all interfaces are resolved, and the contract has taken all of them. -/
theorem gathered {below : List Frame} {w : Work} (h : Merging d s ⟨⟨c, .follow []⟩ :: below, w⟩)
    (hsound : Sound d s root ⟨⟨c, .follow []⟩ :: below, w⟩) :
    (∀ ref ∈ expandedReferences d (s.contract c), ∀ i, interface? d s c ref = some i →
      (w.store.contract i).resolved = true) ∧
      w.store.content c = blend d s w.store c (expandedReferences d (s.contract c)) := by
  have hmem : (⟨c, .follow []⟩ : Frame) ∈ (⟨c, .follow []⟩ :: below : List Frame) := List.mem_cons_self
  obtain ⟨followed, hf⟩ := hsound.onTrack hmem
  have hrefs : expandedReferences d (s.contract c) = followed := by
    rw [← List.append_nil followed]
    exact hf.references_eq
  have habsorbed : AbsorbsAll d s w.store c (w.store.content c) (expandedReferences d (s.contract c)) :=
    h.absorbed _ hmem _ [] rfl (List.append_nil _).symm
  obtain ⟨before, after, hb⟩ := h.merged.pending c (hsound.unresolved hmem)
  exact ⟨fun ref href => hf.interfaces ref (hrefs ▸ href), hb.content_eq_of_absorbsAll habsorbed⟩

/-- Completion: all interfaces have been absorbed, so the contract is at the end of its way before it is patched. -/
theorem complete {below : List Frame} {w w' : Work} (h : Merging d s ⟨⟨c, .follow []⟩ :: below, w⟩)
    (hsound : Sound d s root ⟨⟨c, .follow []⟩ :: below, w⟩) (hedits : Edits d.registry c w.store w'.store)
    (hresolved : (w'.store.contract c).resolved = true)
    (hcontent : w'.store.content c
      = (w.store.contract c).patches.foldl Content.applyPatch (w.store.content c)) : Merging d s ⟨below, w'⟩ := by
  have hmem : (⟨c, .follow []⟩ : Frame) ∈ (⟨c, .follow []⟩ :: below : List Frame) := List.mem_cons_self
  have hc : (w.store.contract c).resolved = false := hsound.unresolved hmem
  obtain ⟨hinterfaces, hgathered⟩ := h.gathered hsound
  have hkept := h.merged.content_of_edits hsound.progress hedits hc
  refine ⟨h.merged.edit hsound.progress hedits hc (fun _ => ?_) (fun hu => ?_), fun f hf' => ?_⟩
  · have hblend : blend d s w'.store c (expandedReferences d (s.contract c))
        = blend d s w.store c (expandedReferences d (s.contract c)) :=
      blend_congr fun ref href i hi => (hkept i (hinterfaces ref href i hi)).1
    rw [hcontent, hgathered, hsound.progress.evolves.patches_eq c, finalContent, hblend]
  · rw [hresolved] at hu
    cases hu
  · obtain ⟨followed, hf⟩ := hsound.onTrack hmem
    have hne : f.contract ≠ c := hsound.contract_ne_of_leads (fun e he => hf.leads he) hf'
    have hmem' : f ∈ (⟨c, .follow []⟩ :: below : List Frame) := List.mem_cons_of_mem _ hf'
    exact (h.absorbed f hmem').edit (hsound.onTrack hmem') hedits hsound.progress.wellFormed h.merged.unshared hc
      fun hfc => absurd hfc hne

theorem step (h : Merging d s x) (hsound : Sound d s root x) (hstep : Step d limit x y) : Merging d s y := by
  cases hstep with
  | @mk top below stack w w' hstep =>
    obtain ⟨c, phase⟩ := top
    have hresult : StepResult d limit c below w phase (stepStack d limit ⟨c, phase⟩ below w) := hsound.stepResult
    rw [hstep] at hresult
    cases hresult with
    | pass hheads _ hstore => exact h.pass hsound hheads hstore
    | call hheads _ _ => exact h.call hsound hheads
    | expand hedits _ hresolved hcontent => exact h.expand hsound hedits hresolved hcontent
    | merge hedits hsame hcontent => exact h.merge hsound hedits hsame (hcontent h.merged.unshared)
    | complete hedits _ hresolved hcontent => exact h.complete hsound hedits hresolved hcontent

theorem reaches (h : Merging d s x) (hsound : Sound d s root x) (hreaches : Reaches d limit x y) :
    Merging d s y := by
  induction hreaches with
  | refl => exact h
  | tail hbefore hstep ih => exact ih.step (hsound.reaches hbefore) hstep

end Merging

end CallContract.Resolution
