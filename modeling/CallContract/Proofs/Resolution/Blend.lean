import CallContract.Proofs.Resolution.Stack

/-!
# Blend — the content of a contract while its interfaces are merged, and after

A contract starts from the content that it had in the first store and takes the contents of its interfaces in the
order of its references.  A resolution that is refused leaves the contracts on its chain somewhere on this way, and the
next one starts again with the first reference; but whatever it merges again has been absorbed, so that the contract
stays where it is until the resolution gets further than all before it.  A contract that is resolved has gone the whole
way, after which its patches have been applied.
-/

namespace CallContract.Resolution

variable {d : Directory} {limit : Int} {s t u : Store} {c root : ContractId} {x y : Config}

/-! ## 1. Blends -/

/-- The content after the contents of what a reference stands for have been merged. -/
def mergeReference (d : Directory) (s t : Store) (c : ContractId) (k : Content) (ref : Reference) : Content :=
  match interface? d s c ref with
  | some i => k.merge ref (t.content i)
  | none => k

/-- The content of a contract in the first store with those of its interfaces in the second store. -/
def blend (d : Directory) (s t : Store) (c : ContractId) (refs : List Reference) : Content :=
  refs.foldl (mergeReference d s t c) (s.content c)

/-- The content of a contract that has been resolved: all of its interfaces are blended, and its patches applied. -/
def finalContent (d : Directory) (s t : Store) (c : ContractId) : Content :=
  (s.contract c).patches.foldl Content.applyPatch (blend d s t c (expandedReferences d (s.contract c)))

/-- A content absorbs the contents of all contracts for which the references stand. -/
def AbsorbsAll (d : Directory) (s t : Store) (c : ContractId) (k : Content) (refs : List Reference) : Prop :=
  ∀ ref ∈ refs, ∀ i, interface? d s c ref = some i → k.Absorbs (t.content i)

theorem blend_snoc (d : Directory) (s t : Store) (c : ContractId) (refs : List Reference) (ref : Reference) :
    blend d s t c (refs ++ [ref]) = mergeReference d s t c (blend d s t c refs) ref := by
  rw [blend, List.foldl_append]
  rfl

theorem blend_congr {refs : List Reference}
    (h : ∀ ref ∈ refs, ∀ i, interface? d s c ref = some i → u.content i = t.content i) :
    blend d s u c refs = blend d s t c refs := by
  apply List.foldl_ext
  intro k ref href
  unfold mergeReference
  cases hi : interface? d s c ref with
  | none => rfl
  | some i =>
    change k.merge ref (u.content i) = k.merge ref (t.content i)
    rw [h ref href i hi]

theorem AbsorbsAll.congr {k : Content} {refs : List Reference} (h : AbsorbsAll d s t c k refs)
    (hcontent : ∀ ref ∈ refs, ∀ i, interface? d s c ref = some i → u.content i = t.content i) :
    AbsorbsAll d s u c k refs := by
  intro ref href i hi
  rw [hcontent ref href i hi]
  exact h ref href i hi

-- Merging one more interface absorbs it and loses nothing.
theorem AbsorbsAll.merge {k : Content} {refs : List Reference} {ref : Reference} {i : ContractId}
    (h : AbsorbsAll d s t c k refs) (hi : interface? d s c ref = some i) :
    AbsorbsAll d s t c (k.merge ref (t.content i)) (refs ++ [ref]) := by
  intro r hr j hj
  rcases List.mem_append.mp hr with hr | hr
  · exact Content.absorbs_merge (h r hr j hj) ref (t.content i)
  · rw [List.mem_singleton.mp hr, hi] at hj
    cases hj
    exact Content.absorbs_merge_self k ref (t.content i)

theorem absorbs_mergeReference {k : Content} {ref : Reference} {j : Content} (h : k.Absorbs j) :
    (mergeReference d s t c k ref).Absorbs j := by
  unfold mergeReference
  cases interface? d s c ref with
  | none => exact h
  | some i => exact Content.absorbs_merge h ref (t.content i)

theorem absorbs_foldl_mergeReference {k j : Content} (h : k.Absorbs j) (refs : List Reference) :
    (refs.foldl (mergeReference d s t c) k).Absorbs j := by
  induction refs generalizing k with
  | nil => exact h
  | cons ref rest ih => exact ih (absorbs_mergeReference h)

-- A blend absorbs everything that has been blended.
theorem absorbsAll_blend (d : Directory) (s t : Store) (c : ContractId) (refs : List Reference) :
    AbsorbsAll d s t c (blend d s t c refs) refs := by
  intro ref href i hi
  obtain ⟨before, after, rfl⟩ := List.append_of_mem href
  rw [blend, List.foldl_append, List.foldl_cons]
  refine absorbs_foldl_mergeReference ?_ after
  rw [mergeReference, hi]
  exact Content.absorbs_merge_self _ ref (t.content i)

-- References to what has been absorbed add nothing to a blend.
theorem blend_append_of_absorbsAll {refs rest : List Reference} (h : AbsorbsAll d s t c (blend d s t c refs) rest) :
    blend d s t c (refs ++ rest) = blend d s t c refs := by
  induction rest generalizing refs with
  | nil => rw [List.append_nil]
  | cons ref rest ih =>
    have hstep : blend d s t c (refs ++ [ref]) = blend d s t c refs := by
      rw [blend_snoc]
      unfold mergeReference
      cases hi : interface? d s c ref with
      | none => rfl
      | some i => exact Content.merge_of_absorbs (h ref List.mem_cons_self i hi) ref
    have hrest : AbsorbsAll d s t c (blend d s t c (refs ++ [ref])) rest := by
      rw [hstep]
      exact fun r hr => h r (List.mem_cons_of_mem ref hr)
    have happend : refs ++ ref :: rest = (refs ++ [ref]) ++ rest := by rw [List.append_assoc]; rfl
    rw [happend, ih hrest, hstep]

/-! ## 2. Contracts on their way -/

/-- A contract has taken its interfaces as far as some of its references, and those interfaces are resolved. -/
structure Blended (d : Directory) (s t : Store) (c : ContractId) (followed remaining : List Reference) : Prop where
  references_eq : expandedReferences d (s.contract c) = followed ++ remaining
  interfaces : ∀ ref ∈ followed, ∀ i, interface? d s c ref = some i → (t.contract i).resolved = true
  content_eq : t.content c = blend d s t c followed

/-- Every contract is somewhere on its way: at its start if it was resolved from the first, at its end if it has been
resolved since, and otherwise between the two. -/
structure Merged (d : Directory) (s t : Store) : Prop where
  unshared : t.Unshared
  kept : ∀ c, (s.contract c).resolved = true → t.content c = s.content c
  finished : ∀ c, (s.contract c).resolved = false → (t.contract c).resolved = true →
    t.content c = finalContent d s t c
  pending : ∀ c, (t.contract c).resolved = false → ∃ followed remaining, Blended d s t c followed remaining

theorem Merged.refl (d : Directory) (hu : s.Unshared) : Merged d s s where
  unshared := hu
  kept _ _ := rfl
  finished c hs ht := by
    rw [hs] at ht
    cases ht
  pending c _ := ⟨[], expandedReferences d (s.contract c), rfl, fun _ hr => absurd hr List.not_mem_nil, rfl⟩

-- What is resolved is another contract than one that is edited, so it keeps its content.
theorem Merged.content_of_edits (h : Merged d s t) (hp : Progress d s t) (hedits : Edits d.registry c t u)
    (hc : (t.contract c).resolved = false) :
    ∀ e, (t.contract e).resolved = true → u.content e = t.content e ∧ (u.contract e).resolved = true := by
  intro e he
  have hec : e ≠ c := ne_of_resolved he hc
  refine ⟨hedits.content_of_ne hp.wellFormed h.unshared hec, ?_⟩
  rw [hedits.others e hec]
  exact he

theorem Blended.edit {followed remaining : List Reference} (h : Blended d s t c followed remaining)
    (hcontent : ∀ e, (t.contract e).resolved = true → u.content e = t.content e ∧ (u.contract e).resolved = true)
    (hc : u.content c = t.content c) : Blended d s u c followed remaining where
  references_eq := h.references_eq
  interfaces ref href i hi := (hcontent i (h.interfaces ref href i hi)).2
  content_eq := by
    rw [hc, h.content_eq]
    exact (blend_congr fun ref href i hi => (hcontent i (h.interfaces ref href i hi)).1).symm

/-- An edit of an unresolved contract leaves every other contract where it is. -/
theorem Merged.edit (h : Merged d s t) (hp : Progress d s t) (hedits : Edits d.registry c t u)
    (hc : (t.contract c).resolved = false)
    (hfinished : (u.contract c).resolved = true → u.content c = finalContent d s u c)
    (hpending : (u.contract c).resolved = false → ∃ followed remaining, Blended d s u c followed remaining) :
    Merged d s u := by
  have hkept := h.content_of_edits hp hedits hc
  have hcontent : ∀ e, e ≠ c → u.content e = t.content e := fun e he =>
    hedits.content_of_ne hp.wellFormed h.unshared he
  refine ⟨hedits.unshared hp.wellFormed h.unshared, fun e he => ?_, fun e hs he => ?_, fun e he => ?_⟩
  · rw [(hkept e (hp.evolves.resolved he)).1, h.kept e he]
  · by_cases hec : e = c
    · rw [hec] at he ⊢
      exact hfinished he
    · have het : (t.contract e).resolved = true := hedits.others e hec ▸ he
      have hblend : finalContent d s u e = finalContent d s t e := by
        rw [finalContent, finalContent, blend_congr fun ref href i hi => ?_]
        exact (hkept i ((hp.finished e hs het).leads i (Or.inr ⟨ref, href, hi⟩))).1
      rw [hblend, hcontent e hec, h.finished e hs het]
  · by_cases hec : e = c
    · rw [hec] at he ⊢
      exact hpending he
    · obtain ⟨followed, remaining, hb⟩ := h.pending e (hedits.others e hec ▸ he)
      exact ⟨followed, remaining, hb.edit hkept (hcontent e hec)⟩

/-! ## 3. One contract going on -/

-- A contract that absorbs what has been followed stands exactly there, or an earlier resolution has got further.
theorem Blended.advance {before after followed remaining : List Reference}
    (h : Blended d s t c before after) (hrefs : expandedReferences d (s.contract c) = followed ++ remaining)
    (habsorbs : AbsorbsAll d s t c (t.content c) followed) :
    t.content c = blend d s t c followed ∨ ∃ ref further, before = followed ++ ref :: further := by
  have heq : before ++ after = followed ++ remaining := h.references_eq.symm.trans hrefs
  rcases List.append_eq_append_iff.mp heq with ⟨missed, hfollowed, _⟩ | ⟨further, hbefore, _⟩
  · refine Or.inl ?_
    rw [h.content_eq] at habsorbs ⊢
    rw [hfollowed] at habsorbs ⊢
    refine (blend_append_of_absorbsAll fun ref href => habsorbs ref ?_).symm
    exact List.mem_append_right before href
  · cases further with
    | nil =>
      rw [List.append_nil] at hbefore
      exact Or.inl (hbefore ▸ h.content_eq)
    | cons ref further => exact Or.inr ⟨ref, further, hbefore⟩

/-- Merging the next interface takes the contract one reference further, or leaves it where it is. -/
theorem Blended.merge {before after followed refs : List Reference} {ref : Reference} {i : ContractId}
    (h : Blended d s t c before after) (hf : Followed d s t c followed (ref :: refs))
    (habsorbs : AbsorbsAll d s t c (t.content c) followed) (hi : interface? d s c ref = some i)
    (hresolved : (t.contract i).resolved = true) :
    ∃ before' after', expandedReferences d (s.contract c) = before' ++ after' ∧
      (∀ r ∈ before', ∀ j, interface? d s c r = some j → (t.contract j).resolved = true) ∧
      (t.content c).merge ref (t.content i) = blend d s t c before' := by
  rcases h.advance hf.references_eq habsorbs with hcontent | ⟨r, further, hbefore⟩
  · have hnext : Followed d s t c (followed ++ [ref]) refs := hf.snoc fun j hj => by
      rw [hi] at hj
      cases hj
      exact hresolved
    refine ⟨followed ++ [ref], refs, hnext.references_eq, hnext.interfaces, ?_⟩
    rw [blend_snoc, ← hcontent, mergeReference, hi]
  · -- An earlier resolution has got past this reference, so the interface has been absorbed.
    have heq : followed ++ (r :: further ++ after) = followed ++ ref :: refs := by
      rw [← List.append_assoc, ← hbefore, ← h.references_eq, hf.references_eq]
    have hr : r = ref := (List.cons.inj (List.append_cancel_left heq)).1
    have hmem : ref ∈ before := by
      rw [hbefore, hr]
      exact List.mem_append_right followed List.mem_cons_self
    refine ⟨before, after, h.references_eq, h.interfaces, ?_⟩
    rw [h.content_eq]
    exact Content.merge_of_absorbs (absorbsAll_blend d s t c before ref hmem i hi) ref

-- A contract that absorbs all of its interfaces is at the end of its way.
theorem Blended.content_eq_of_absorbsAll {before after : List Reference} (h : Blended d s t c before after)
    (habsorbs : AbsorbsAll d s t c (t.content c) (expandedReferences d (s.contract c))) :
    t.content c = blend d s t c (expandedReferences d (s.contract c)) := by
  rw [h.references_eq] at habsorbs ⊢
  rw [h.content_eq] at habsorbs ⊢
  refine (blend_append_of_absorbsAll fun ref href => habsorbs ref ?_).symm
  exact List.mem_append_right before href

end CallContract.Resolution
