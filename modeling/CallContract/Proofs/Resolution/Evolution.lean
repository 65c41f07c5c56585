import CallContract.Proofs.Resolution.Dependency

/-!
# Evolution — what the store keeps on the way from one moment of resolution to a later one

Between two moments contracts keep their names, patches and predecessors, a resolved contract keeps everything, and an
unresolved one keeps the references that it declares or will declare.  So references stand for the same contracts at
both moments.  A contract that has been resolved in between has been finished: whatever it leads to is resolved, and
no dependencies lead on from it for ever.
-/

namespace CallContract.Resolution

variable {d : Directory} {s t u : Store} {c e : ContractId}

/-! ## 1. References before and after an expansion -/

theorem groupReferences_congr {k k' : Contract} (hinfo : k'.info = k.info)
    (hgroup : k'.internalGroup? = k.internalGroup?) : groupReferences d k' = groupReferences d k := by
  rw [groupReferences, groupReferences, groupMembers, groupMembers, hinfo, hgroup]

theorem expandedReferences_congr {k k' : Contract} (hinfo : k'.info = k.info)
    (hgroup : k'.internalGroup? = k.internalGroup?) (hdeclared : k'.declared = k.declared) :
    expandedReferences d k' = expandedReferences d k := by
  rw [expandedReferences, expandedReferences, isGroup, isGroup, groupReferences_congr hinfo hgroup, hinfo, hdeclared]

/-- Expanding a contract that has been expanded gives the same references again. -/
theorem expandedReferences_expanded {k k' : Contract} (hinfo : k'.info = k.info)
    (hgroup : k'.internalGroup? = k.internalGroup?) (hdeclared : k'.declared = expandedReferences d k) :
    expandedReferences d k' = expandedReferences d k := by
  by_cases hk : isGroup k = true
  · have hrefs : expandedReferences d k = groupReferences d k := by rw [expandedReferences, if_pos hk]
    rw [expandedReferences, groupReferences_congr hinfo hgroup, hdeclared, hrefs]
    by_cases hk' : isGroup k' = true
    · rw [if_pos hk']
    · rw [if_neg hk']
  · have hrefs : expandedReferences d k = k.declared := by rw [expandedReferences, if_neg hk]
    exact expandedReferences_congr hinfo hgroup (hdeclared.trans hrefs)

/-! ## 2. Evolution -/

theorem ne_of_resolved (he : (s.contract e).resolved = true) (hc : (s.contract c).resolved = false) : e ≠ c := by
  rintro rfl
  rw [he] at hc
  cases hc

/-- What every later store of a resolution keeps of an earlier one. -/
structure Evolves (d : Directory) (s t : Store) : Prop where
  size_eq : t.contracts.size = s.contracts.size
  info_eq : ∀ c, (t.contract c).info = (s.contract c).info
  patches_eq : ∀ c, (t.contract c).patches = (s.contract c).patches
  group_eq : ∀ c, (t.contract c).internalGroup? = (s.contract c).internalGroup?
  supersedes_eq : ∀ c, (t.contract c).supersedes? = (s.contract c).supersedes?
  kept : ∀ c, (s.contract c).resolved = true → t.contract c = s.contract c
  references_eq : ∀ c, (t.contract c).resolved = false →
    expandedReferences d (t.contract c) = expandedReferences d (s.contract c)

namespace Evolves

theorem refl (d : Directory) (s : Store) : Evolves d s s :=
  ⟨rfl, fun _ => rfl, fun _ => rfl, fun _ => rfl, fun _ => rfl, fun _ _ => rfl, fun _ _ => rfl⟩

theorem resolved (h : Evolves d s t) (hc : (s.contract c).resolved = true) : (t.contract c).resolved = true := by
  rw [h.kept c hc]
  exact hc

-- What is unresolved later was unresolved before.
theorem unresolved (h : Evolves d s t) (hc : (t.contract c).resolved = false) : (s.contract c).resolved = false := by
  rw [← Bool.not_eq_true] at hc ⊢
  exact fun hs => hc (h.resolved hs)

theorem trans (h : Evolves d s t) (h' : Evolves d t u) : Evolves d s u where
  size_eq := h'.size_eq.trans h.size_eq
  info_eq c := (h'.info_eq c).trans (h.info_eq c)
  patches_eq c := (h'.patches_eq c).trans (h.patches_eq c)
  group_eq c := (h'.group_eq c).trans (h.group_eq c)
  supersedes_eq c := (h'.supersedes_eq c).trans (h.supersedes_eq c)
  kept c hc := (h'.kept c (h.resolved hc)).trans (h.kept c hc)
  references_eq c hc := (h'.references_eq c hc).trans (h.references_eq c (h'.unresolved hc))

/-- An edit of an unresolved contract is an evolution if it keeps the references of that contract, or resolves it. -/
theorem of_edits {r : Registry} (h : Edits r c s t) (hc : (s.contract c).resolved = false)
    (hrefs : (t.contract c).resolved = false →
      expandedReferences d (t.contract c) = expandedReferences d (s.contract c)) : Evolves d s t := by
  have hsame : ∀ {α : Type} (g : Contract → α), g (t.contract c) = g (s.contract c) →
      ∀ e, g (t.contract e) = g (s.contract e) := by
    intro α g hg e
    by_cases he : e = c
    · rw [he, hg]
    · rw [h.others e he]
  refine ⟨h.size_eq, hsame _ h.info_eq, hsame _ h.patches_eq, hsame _ h.group_eq, hsame _ h.supersedes_eq,
    fun e he => ?_, fun e he => ?_⟩
  · exact h.others e (ne_of_resolved he hc)
  · by_cases hec : e = c
    · rw [hec] at he ⊢
      exact hrefs he
    · rw [h.others e hec]

-- An edit that leaves what the contract declares is an evolution.
theorem of_sameStanding {r : Registry} (h : Edits r c s t) (hc : (s.contract c).resolved = false)
    (hsame : SameStanding c s t) : Evolves d s t :=
  of_edits h hc fun _ => expandedReferences_congr h.info_eq h.group_eq hsame.declared_eq

theorem predecessor?_eq (h : Evolves d s t) (c : ContractId) : predecessor? t c = predecessor? s c :=
  h.supersedes_eq c

theorem name_eq (h : Evolves d s t) (c : ContractId) : (t.contract c).name = (s.contract c).name := by
  rw [Contract.name, Contract.name, h.info_eq c]

theorem predecessorName?_eq (h : Evolves d s t) (c : ContractId) : predecessorName? t c = predecessorName? s c := by
  rw [predecessorName?, predecessorName?, h.predecessor?_eq c]
  cases predecessor? s c with
  | none => rfl
  | some p => exact congrArg some (h.name_eq p)

-- A reference stands for the same contract at both moments.
theorem target_eq (h : Evolves d s t) (c : ContractId) (ref : Reference) : target d t c ref = target d s c ref := by
  rw [target, target, h.predecessor?_eq c]
  cases predecessor? s c with
  | none => rfl
  | some p => simp only [h.name_eq p]

theorem interface?_eq (h : Evolves d s t) (c : ContractId) (ref : Reference) :
    interface? d t c ref = interface? d s c ref := by
  rw [interface?, interface?, h.target_eq c ref]

-- Where an unresolved contract leads stays.
theorem leads_iff (h : Evolves d s t) (hc : (t.contract c).resolved = false) : Leads d t c e ↔ Leads d s c e := by
  simp only [Leads, h.predecessor?_eq, h.references_eq c hc, h.interface?_eq]

end Evolves

/-! ## 3. Progress -/

/-- What holds of a contract that has been resolved since an earlier moment. -/
structure Finished (d : Directory) (s t : Store) (c : ContractId) : Prop where
  leads : ∀ e, Leads d s c e → (t.contract e).resolved = true
  grounded : Grounded d s c
  declared_eq : (t.contract c).declared
    = withoutPredecessor (predecessorName? s c) (expandedReferences d (s.contract c))

theorem Finished.mono (h : Finished d s t c) (hevolves : Evolves d t u) (hc : u.contract c = t.contract c) :
    Finished d s u c where
  leads e he := hevolves.resolved (h.leads e he)
  grounded := h.grounded
  declared_eq := by
    rw [hc]
    exact h.declared_eq

/-- A later store of a resolution, in which every contract that was not resolved before has been finished if it is
resolved. -/
structure Progress (d : Directory) (s t : Store) : Prop where
  evolves : Evolves d s t
  wellFormed : WellFormed d.registry t
  finished : ∀ c, (s.contract c).resolved = false → (t.contract c).resolved = true → Finished d s t c

namespace Progress

theorem refl (h : WellFormed d.registry s) : Progress d s s :=
  ⟨Evolves.refl d s, h, fun c hs ht => by rw [hs] at ht; cases ht⟩

-- An edit of an unresolved contract that does not resolve it.
theorem edit (h : Progress d s t) (hedit : Edits d.registry c t u) (hc : (t.contract c).resolved = false)
    (hu : (u.contract c).resolved = false)
    (hrefs : expandedReferences d (u.contract c) = expandedReferences d (t.contract c)) : Progress d s u := by
  have hevolves : Evolves d t u := Evolves.of_edits hedit hc fun _ => hrefs
  refine ⟨h.evolves.trans hevolves, hedit.wellFormed, fun e hs he => ?_⟩
  have hte : u.contract e = t.contract e := hedit.others e (ne_of_resolved he hu)
  exact (h.finished e hs (hte ▸ he)).mono hevolves hte

-- A contract has no endless dependencies if all that it leads to is resolved.
theorem grounded_of_leads (h : Progress d s t) (hc : ∀ e, Leads d s c e → (t.contract e).resolved = true) :
    Grounded d s c :=
  Acc.intro c fun e hd => (h.finished e hd.to_unresolved (hc e hd.leads)).grounded

/-- An edit that resolves a contract after everything it leads to. -/
theorem complete (h : Progress d s t) (hedit : Edits d.registry c t u) (hc : (t.contract c).resolved = false)
    (hu : (u.contract c).resolved = true) (hleads : ∀ e, Leads d s c e → (t.contract e).resolved = true)
    (hdeclared : (u.contract c).declared
      = withoutPredecessor (predecessorName? s c) (expandedReferences d (s.contract c))) : Progress d s u := by
  have hevolves : Evolves d t u := Evolves.of_edits hedit hc fun h => by rw [hu] at h; cases h
  refine ⟨h.evolves.trans hevolves, hedit.wellFormed, fun e hs he => ?_⟩
  by_cases hec : e = c
  · rw [hec]
    exact ⟨fun i hi => hevolves.resolved (hleads i hi), h.grounded_of_leads hleads, hdeclared⟩
  · have hte : u.contract e = t.contract e := hedit.others e hec
    exact (h.finished e hs (hte ▸ he)).mono hevolves hte

-- All that can be reached from a resolved contract is resolved.
theorem resolved_of_reachable (h : Progress d s t) (hc : (t.contract c).resolved = true)
    (he : Reachable d s c e) : (t.contract e).resolved = true := by
  induction he with
  | refl => exact hc
  | tail _ hd ih => exact (h.finished _ hd.from_unresolved ih).leads _ hd.leads

end Progress

end CallContract.Resolution
