import CallContract.Proofs.Resolution.Merging
import CallContract.Proofs.Resolution.Names

/-!
# Gathering — which names a contract has once its interfaces have been merged

While a contract is on its way to be resolved it gathers the names of its interfaces: those that a frame has followed
are there, whether this resolution has merged them or an earlier one, which was refused.  A resolved contract has its
own names and those of its interfaces, and no others, however parameters are shared.
-/

namespace CallContract.Resolution

open Relation

variable {d : Directory} {limit : Int} {c root : ContractId} {s t u : Store} {w w' : Work} {x y : Config}

/-! ## 1. Names after merging -/

/-- The names of what a reference of a contract stands for. -/
def namesThrough (d : Directory) (s t : Store) (c : ContractId) (ref : Reference) : List String :=
  match interface? d s c ref with
  | some i => namesOf t i
  | none => []

/-- The names that a contract had in the first store and those of its interfaces in the second store. -/
def mergedNames (d : Directory) (s t : Store) (c : ContractId) (refs : List Reference) : List String :=
  namesOf s c ++ refs.flatMap (namesThrough d s t c)

theorem mem_mergedNames {refs : List Reference} {name : String} : name ∈ mergedNames d s t c refs ↔
    name ∈ namesOf s c ∨ ∃ ref ∈ refs, ∃ i, interface? d s c ref = some i ∧ name ∈ namesOf t i := by
  rw [mergedNames, List.mem_append, List.mem_flatMap]
  refine or_congr_right (exists_congr fun ref => and_congr_right fun _ => ?_)
  rw [namesThrough]
  cases interface? d s c ref with
  | none => simp
  | some i => simp

theorem mergedNames_mono (refs : List Reference) (h : ∀ e, namesOf t e ⊆ namesOf u e) :
    mergedNames d s t c refs ⊆ mergedNames d s u c refs := by
  intro name hname
  rw [mem_mergedNames] at hname ⊢
  apply hname.imp_right
  rintro ⟨ref, href, i, hi, hname⟩
  exact ⟨ref, href, i, hi, h i hname⟩

theorem mergedNames_congr {refs : List Reference}
    (h : ∀ ref ∈ refs, ∀ i, interface? d s c ref = some i → u.contract i = t.contract i) :
    mergedNames d s u c refs = mergedNames d s t c refs := by
  refine congrArg _ (List.flatMap_congr fun ref href => ?_)
  unfold namesThrough
  cases hi : interface? d s c ref with
  | none => rfl
  | some i =>
    show Entries.keys (u.contract i).params = Entries.keys (t.contract i).params
    rw [h ref href i hi]

theorem mergedNames_snoc (d : Directory) (s t : Store) (c : ContractId) (refs : List Reference) (ref : Reference) :
    mergedNames d s t c (refs ++ [ref]) = mergedNames d s t c refs ++ namesThrough d s t c ref := by
  simp [mergedNames]

/-! ## 2. References that a frame has followed -/

/-- The references that a frame has followed. -/
def followedBy (d : Directory) (s : Store) (f : Frame) : List Reference :=
  match f.phase.remaining? with
  | some remaining =>
    let refs := expandedReferences d (s.contract f.contract)
    refs.take (refs.length - remaining.length)
  | none => []

theorem followedBy_eq {f : Frame} {followed remaining : List Reference} (h : f.phase.remaining? = some remaining)
    (hrefs : expandedReferences d (s.contract f.contract) = followed ++ remaining) : followedBy d s f = followed := by
  simp [followedBy, h, hrefs]

-- What a frame on track has followed is resolved.
theorem OnTrack.interfaces_followedBy {f : Frame} (h : OnTrack d s t f) :
    ∀ ref ∈ followedBy d s f, ∀ i, interface? d s f.contract ref = some i → (t.contract i).resolved = true := by
  cases hremaining : f.phase.remaining? with
  | none =>
    rw [followedBy, hremaining]
    exact fun ref href => absurd href List.not_mem_nil
  | some remaining =>
    obtain ⟨followed, hf⟩ := h.followed hremaining
    rw [followedBy_eq hremaining hf.references_eq]
    exact hf.interfaces

theorem followedBy_all (d : Directory) (s : Store) (c : ContractId) :
    followedBy d s ⟨c, .follow (expandedReferences d (s.contract c))⟩ = [] :=
  followedBy_eq rfl (List.nil_append _).symm

-- A frame that has no reference left has followed all of them.
theorem followedBy_nil (d : Directory) (s : Store) (c : ContractId) :
    followedBy d s ⟨c, .follow []⟩ = expandedReferences d (s.contract c) :=
  followedBy_eq rfl (List.append_nil _).symm

theorem OnTrack.followedBy_next {ref : Reference} {refs : List Reference}
    (h : OnTrack d s t ⟨c, .follow (ref :: refs)⟩) :
    followedBy d s ⟨c, .follow refs⟩ = followedBy d s ⟨c, .follow (ref :: refs)⟩ ++ [ref] := by
  obtain ⟨followed, hf⟩ := h
  have hrefs := hf.references_eq
  have hsnoc : expandedReferences d (s.contract c) = (followed ++ [ref]) ++ refs := by
    rw [hrefs, List.append_assoc]
    rfl
  rw [followedBy_eq rfl hrefs, followedBy_eq rfl hsnoc]

/-! ## 3. The names of contracts along a run -/

-- Actions on an unresolved contract leave the resolved ones.
theorem Touches.kept (h : Touches c s t) (hc : (s.contract c).resolved = false) :
    ∀ e, (s.contract e).resolved = true → t.contract e = s.contract e := fun e he =>
  h.others e (ne_of_resolved he hc)

/-- What holds of the names in every configuration of a resolution: names are never lost; a contract has none but its
own and those of its interfaces; and it has all of them once it is resolved, or as far as a frame has followed
references. -/
structure Gathered (d : Directory) (s : Store) (x : Config) : Prop where
  byName : x.work.store.AllByName
  own : ∀ c, namesOf s c ⊆ namesOf x.work.store c
  bounded : ∀ c, namesOf x.work.store c ⊆ mergedNames d s x.work.store c (expandedReferences d (s.contract c))
  finished : ∀ c, (s.contract c).resolved = false → (x.work.store.contract c).resolved = true →
    mergedNames d s x.work.store c (expandedReferences d (s.contract c)) ⊆ namesOf x.work.store c
  frames : ∀ f ∈ x.stack, mergedNames d s x.work.store f.contract (followedBy d s f) ⊆ namesOf x.work.store f.contract

/-- What a frame gains are names of an interface of its contract. -/
theorem OnTrack.gained_subset {phase : Phase} (h : OnTrack d s t ⟨c, phase⟩) :
    gainedBy t phase ⊆ mergedNames d s t c (expandedReferences d (s.contract c)) := by
  cases phase with
  | start => exact List.nil_subset _
  | expand => exact List.nil_subset _
  | follow refs => exact List.nil_subset _
  | mergeThen i ref refs =>
    obtain ⟨hi, followed, hf⟩ := h
    intro name hname
    refine mem_mergedNames.mpr (.inr ⟨ref, ?_, i, hi, hname⟩)
    rw [hf.references_eq]
    exact List.mem_append_right followed List.mem_cons_self

namespace Gathered

theorem refl (d : Directory) (hnames : s.AllByName) : Gathered d s ⟨[], { store := s }⟩ where
  byName := hnames
  own c := List.Subset.refl _
  bounded c := List.subset_append_left _ _
  finished c hs ht := by
    rw [show (s.contract c).resolved = true from ht] at hs
    cases hs
  frames f hf := absurd hf List.not_mem_nil

-- What has been reported plays no part.
theorem unreported (h : Gathered d s ⟨[], w⟩) : Gathered d s ⟨[], { store := w.store }⟩ :=
  ⟨h.byName, h.own, h.bounded, h.finished, h.frames⟩

-- A resolution begins, after others have come to their ends.
theorem start (h : Gathered d s ⟨[], w⟩) (root : ContractId) : Gathered d s ⟨[⟨root, .start⟩], w⟩ where
  byName := h.byName
  own := h.own
  bounded := h.bounded
  finished := h.finished
  frames f hf := by
    rw [List.mem_singleton.mp hf]
    show mergedNames d s w.store root [] ⊆ _
    rw [mergedNames, List.flatMap_nil, List.append_nil]
    exact h.own root

/-- A step of the machine: it is left to see that its contract has all names if it is resolved, and that the frames on
top have the names of what they have followed. -/
theorem advance {below stack : List Frame} {phase : Phase} (h : Gathered d s ⟨⟨c, phase⟩ :: below, w⟩)
    (hsound : Sound d s root ⟨⟨c, phase⟩ :: below, w⟩) (hgains : Gains c (gainedBy w.store phase) w.store w'.store)
    (hresolved : (w'.store.contract c).resolved = true →
      mergedNames d s w'.store c (expandedReferences d (s.contract c)) ⊆ namesOf w'.store c)
    (hstack : ∀ f ∈ stack, f ∈ below ∨
      mergedNames d s w'.store f.contract (followedBy d s f) ⊆ namesOf w'.store f.contract) :
    Gathered d s ⟨stack, w'⟩ := by
  have hc : (w.store.contract c).resolved = false := hsound.unresolved List.mem_cons_self
  have hmono : ∀ e, namesOf w.store e ⊆ namesOf w'.store e := hgains.subset
  have hkept := hgains.touches.kept hc
  have hsame : ∀ e, e ≠ c → namesOf w'.store e = namesOf w.store e := by
    intro e he
    rw [namesOf, namesOf, hgains.touches.others e he]
  refine ⟨hgains.byName, fun e => List.Subset.trans (h.own e) (hmono e), fun e => ?_, fun e hs he => ?_, fun f hf => ?_⟩
  · refine List.Subset.trans ?_ (mergedNames_mono _ hmono)
    by_cases hec : e = c
    · subst hec
      intro name hname
      rcases (hgains.mem_names name).mp hname with hname | hname
      · exact h.bounded e hname
      · exact (hsound.onTrack List.mem_cons_self).gained_subset hname
    · rw [hsame e hec]
      exact h.bounded e
  · by_cases hec : e = c
    · subst hec
      exact hresolved he
    · have he' : (w.store.contract e).resolved = true := by
        rw [← hgains.touches.others e hec]
        exact he
      rw [hsame e hec, mergedNames_congr fun ref href i hi => ?_]
      · exact h.finished e hs he'
      · exact hkept i ((hsound.progress.finished e hs he').leads i (.inr ⟨ref, href, hi⟩))
  · rcases hstack f hf with hf | hf
    · -- What a frame below has followed is resolved, so it has kept its names.
      have hmem : f ∈ (⟨c, phase⟩ :: below : List Frame) := List.mem_cons_of_mem _ hf
      have htrack := hsound.onTrack hmem
      show mergedNames d s w'.store f.contract (followedBy d s f) ⊆ _
      rw [mergedNames_congr fun ref href i hi => hkept i (htrack.interfaces_followedBy ref href i hi)]
      exact List.Subset.trans (h.frames f hmem) (hmono f.contract)
    · exact hf

-- A frame that goes on without merging has as many names to have as before.
theorem heads {below : List Frame} {phase next : Phase} {dependency? : Option ContractId}
    (h : Gathered d s ⟨⟨c, phase⟩ :: below, w⟩) (hsound : Sound d s root ⟨⟨c, phase⟩ :: below, w⟩)
    (hheads : Heads d w.store c phase dependency? next) :
    mergedNames d s w.store c (followedBy d s ⟨c, next⟩) ⊆ namesOf w.store c := by
  have htop := h.frames _ List.mem_cons_self
  cases hheads with
  | start => exact htop
  | @missing ref refs hi =>
    rw [hsound.progress.evolves.interface?_eq] at hi
    rw [(hsound.onTrack List.mem_cons_self).followedBy_next, mergedNames_snoc, namesThrough, hi, List.append_nil]
    exact htop
  | found hi => exact htop

-- After a merge the contract has the names of one more interface, which is resolved and so has kept them.
theorem merges {below : List Frame} {i : ContractId} {ref : Reference} {refs : List Reference}
    (h : Gathered d s ⟨⟨c, .mergeThen i ref refs⟩ :: below, w⟩)
    (hsound : Sound d s root ⟨⟨c, .mergeThen i ref refs⟩ :: below, w⟩)
    (hgains : Gains c (namesOf w.store i) w.store w'.store) :
    mergedNames d s w'.store c (followedBy d s ⟨c, .follow refs⟩) ⊆ namesOf w'.store c := by
  have hc : (w.store.contract c).resolved = false := hsound.unresolved List.mem_cons_self
  have hi : (w.store.contract i).resolved = true := hsound.ready _ rfl i rfl
  have htrack : OnTrack d s w.store ⟨c, .mergeThen i ref refs⟩ := hsound.onTrack List.mem_cons_self
  have hkept := hgains.touches.kept hc
  have hthrough : namesThrough d s w'.store c ref = namesOf w.store i := by
    rw [namesThrough, htrack.1]
    show Entries.keys (w'.store.contract i).params = _
    rw [hkept i hi]
    rfl
  have hbefore : mergedNames d s w'.store c (followedBy d s ⟨c, .mergeThen i ref refs⟩)
      = mergedNames d s w.store c (followedBy d s ⟨c, .mergeThen i ref refs⟩) :=
    mergedNames_congr fun r hr j hj => hkept j (htrack.interfaces_followedBy r hr j hj)
  have hnext : followedBy d s ⟨c, .follow refs⟩ = followedBy d s ⟨c, .mergeThen i ref refs⟩ ++ [ref] :=
    OnTrack.followedBy_next htrack.2
  rw [hnext, mergedNames_snoc, hthrough, hbefore]
  intro name hname
  refine (hgains.mem_names name).mpr ((List.mem_append.mp hname).imp_left fun hname => ?_)
  exact h.frames _ List.mem_cons_self hname

-- Before its patches are applied the contract has all names.
theorem completes {below : List Frame} (h : Gathered d s ⟨⟨c, .follow []⟩ :: below, w⟩) :
    mergedNames d s w.store c (expandedReferences d (s.contract c)) ⊆ namesOf w.store c := by
  rw [← followedBy_nil]
  exact h.frames _ List.mem_cons_self

-- What a step does to the names, whatever the phase of the frame on top.
theorem gains {below stack : List Frame} {phase : Phase} (h : Gathered d s ⟨⟨c, phase⟩ :: below, w⟩)
    (hsound : Sound d s root ⟨⟨c, phase⟩ :: below, w⟩)
    (hstep : stepStack d limit ⟨c, phase⟩ below w = .ok stack w') :
    Gains c (gainedBy w.store phase) w.store w'.store := by
  exact effect_gains hsound.progress.wellFormed (hsound.lt_size List.mem_cons_self) h.byName (effect_of_step hstep)

/-- The invariant is kept by each step. -/
theorem step (h : Gathered d s x) (hsound : Sound d s root x) (hstep : Step d limit x y) : Gathered d s y := by
  cases hstep with
  | @mk top below stack w w' hstep =>
    obtain ⟨c, phase⟩ := top
    have hc : (w.store.contract c).resolved = false := hsound.unresolved List.mem_cons_self
    have hgains := h.gains hsound hstep
    have hpending : (w'.store.contract c).resolved = false → (w'.store.contract c).resolved = true →
        mergedNames d s w'.store c (expandedReferences d (s.contract c)) ⊆ namesOf w'.store c := by
      intro hfalse htrue
      rw [hfalse] at htrue
      cases htrue
    have hresult : StepResult d limit c below w phase (stepStack d limit ⟨c, phase⟩ below w) := hsound.stepResult
    rw [hstep] at hresult
    cases hresult with
    | pass hheads _ hstore =>
      refine h.advance hsound hgains (hpending (hstore ▸ hc)) fun f hf => ?_
      rcases List.mem_cons.mp hf with rfl | hf
      · rw [hstore]
        exact .inr (h.heads hsound hheads)
      · exact .inl hf
    | @call _ next e hheads _ _ =>
      refine h.advance hsound hgains (hpending hc) fun f hf => ?_
      rcases List.mem_cons.mp hf with rfl | hf
      · show _ ∨ mergedNames d s w.store e [] ⊆ namesOf w.store e
        rw [mergedNames, List.flatMap_nil, List.append_nil]
        exact .inr (h.own e)
      · rcases List.mem_cons.mp hf with rfl | hf
        · exact .inr (h.heads hsound hheads)
        · exact .inl hf
    | expand _ _ hresolved _ =>
      refine h.advance hsound hgains (hpending (hresolved.trans hc)) fun f hf => ?_
      rcases List.mem_cons.mp hf with rfl | hf
      · rw [hsound.progress.evolves.references_eq c hc, followedBy_all, mergedNames, List.flatMap_nil, List.append_nil]
        exact .inr (List.Subset.trans (h.own c) (hgains.subset c))
      · exact .inl hf
    | merge _ hsame _ =>
      refine h.advance hsound hgains (hpending (hsame.resolved_eq.trans hc)) fun f hf => ?_
      rcases List.mem_cons.mp hf with rfl | hf
      · exact .inr (h.merges hsound hgains)
      · exact .inl hf
    | complete _ _ hresolved _ =>
      refine h.advance hsound hgains (fun _ => ?_) fun f hf => .inl hf
      have hkept : ∀ ref ∈ expandedReferences d (s.contract c), ∀ i, interface? d s c ref = some i →
          w'.store.contract i = w.store.contract i := by
        have htrack : OnTrack d s w.store ⟨c, .follow []⟩ := hsound.onTrack List.mem_cons_self
        rw [← followedBy_nil]
        exact fun ref href i hi => hgains.touches.kept hc i (htrack.interfaces_followedBy ref href i hi)
      rw [mergedNames_congr hkept]
      exact List.Subset.trans h.completes (hgains.subset c)

theorem reaches (h : Gathered d s x) (hsound : Sound d s root x) (hreaches : Reaches d limit x y) :
    Gathered d s y := by
  induction hreaches with
  | refl => exact h
  | tail hbefore hstep ih => exact ih.step (hsound.reaches hbefore) hstep

/-- A contract that has been resolved has its own names and those of its interfaces, and no others. -/
theorem mem_names_of_resolved (h : Gathered d s x) (hs : (s.contract c).resolved = false)
    (hc : (x.work.store.contract c).resolved = true) (name : String) :
    name ∈ namesOf x.work.store c ↔ name ∈ mergedNames d s x.work.store c (expandedReferences d (s.contract c)) :=
  ⟨fun hname => h.bounded c hname, fun hname => h.finished c hs hc hname⟩

end Gathered

end CallContract.Resolution
