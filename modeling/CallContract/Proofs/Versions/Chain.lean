import CallContract.Proofs.WellFormed
import Mathlib.Data.List.Perm.Subperm
import Mathlib.Logic.Relation

/-!
# Chain — the versions of a contract and the link that makes them longer

A contract supersedes at most one other, so its earlier definitions stand in one line.  Where every line ends, no
contract comes twice in it, two lines that meet end in the same contract, and the versions that the store computes are
the whole line.  A link is made at the end of a line.  It closes a cycle exactly if the two lines have met already, and
otherwise it makes every line that ends there longer and leaves the others as they are.
-/

namespace CallContract.Store

open Relation

variable {s t : Store} {c d p last previous : ContractId} {versions earlier : List ContractId}

/-! ## 1. Chains -/

def Supersedes (s : Store) (c p : ContractId) : Prop := (s.contract c).supersedes? = some p

/-- A contract and all its earlier definitions, up to one that supersedes none. -/
inductive Chain (s : Store) : ContractId → List ContractId → Prop
  | last {c : ContractId} (h : (s.contract c).supersedes? = none) : Chain s c [c]
  | next {c p : ContractId} {versions : List ContractId} (h : s.Supersedes c p) (hrest : Chain s p versions) :
    Chain s c (c :: versions)

/-- Following the links ends, from whatever contract. -/
def ChainsEnd (s : Store) : Prop := ∀ c, ∃ versions, s.Chain c versions

/-- Links lead from some contract back to itself. -/
def HasCycle (s : Store) : Prop := ∃ c, TransGen s.Supersedes c c

namespace Chain

theorem unique (h : s.Chain c versions) {others : List ContractId} (h' : s.Chain c others) : versions = others := by
  induction h generalizing others with
  | last hnone =>
    cases h' with
    | last _ => rfl
    | next hsome _ => simp [Supersedes, hnone] at hsome
  | next hsome _ ih =>
    cases h' with
    | last hnone => simp [Supersedes, hnone] at hsome
    | next hsome' hrest' =>
      have hp := Option.some.inj (hsome.symm.trans hsome')
      subst hp
      rw [ih hrest']

-- Only the links of the versions count.
theorem congr (h : s.Chain c versions)
    (heq : ∀ d ∈ versions, (t.contract d).supersedes? = (s.contract d).supersedes?) : t.Chain c versions := by
  induction h with
  | last hnone => exact .last ((heq _ (by simp)).trans hnone)
  | next hsome _ ih =>
    exact .next ((heq _ (by simp)).trans hsome) (ih fun d hd => heq d (List.mem_cons_of_mem _ hd))

theorem head_mem (h : s.Chain c versions) : c ∈ versions := by
  cases h <;> simp

-- From each version on the chain is the rest of the chain.
theorem of_mem (h : s.Chain c versions) (hd : d ∈ versions) : ∃ rest, s.Chain d rest ∧ rest <:+ versions := by
  induction h with
  | last hnone =>
    have hdc := List.mem_singleton.mp hd
    subst hdc
    exact ⟨_, .last hnone, List.suffix_refl _⟩
  | next hsome hrest ih =>
    rcases List.mem_cons.mp hd with rfl | hd
    · exact ⟨_, .next hsome hrest, List.suffix_refl _⟩
    · obtain ⟨rest, hchain, hsuffix⟩ := ih hd
      exact ⟨rest, hchain, hsuffix.trans (List.suffix_cons _ _)⟩

-- If the first version came again later, the rest of the chain would be as long as the chain.
theorem nodup (h : s.Chain c versions) : versions.Nodup := by
  induction h with
  | last _ => simp
  | @next c p versions hsome hrest ih =>
    apply List.nodup_cons.mpr ⟨fun hc => ?_, ih⟩
    obtain ⟨rest, hchain, hsuffix⟩ := hrest.of_mem hc
    have heq := hchain.unique (.next hsome hrest)
    have hle := hsuffix.length_le
    rw [heq, List.length_cons] at hle
    omega

theorem mem_iff (h : s.Chain c versions) : d ∈ versions ↔ ReflTransGen s.Supersedes c d := by
  constructor
  · intro hd
    induction h with
    | last _ =>
      rw [List.mem_singleton.mp hd]
    | next hsome _ ih =>
      rcases List.mem_cons.mp hd with rfl | hd
      · exact .refl
      · exact .head hsome (ih hd)
  · intro hd
    induction hd using ReflTransGen.head_induction_on generalizing versions with
    | refl => exact h.head_mem
    | head hsome _ ih =>
      cases h with
      | last hnone => simp [Supersedes, hnone] at hsome
      | next hsome' hrest =>
        have hp := Option.some.inj (hsome.symm.trans hsome')
        subst hp
        exact List.mem_cons_of_mem _ (ih hrest)

theorem exists_getLast? (h : s.Chain c versions) :
    ∃ last, versions.getLast? = some last ∧ (s.contract last).supersedes? = none := by
  induction h with
  | last hnone => exact ⟨_, rfl, hnone⟩
  | next _ hrest ih =>
    obtain ⟨last, hlast, hnone⟩ := ih
    exact ⟨last, by simp [List.getLast?_cons, hlast], hnone⟩

-- A version that both chains have leads to one rest, and with that to one last version.
theorem getLast?_mem_iff (h : s.Chain c versions) (h' : s.Chain p earlier) (hlast : versions.getLast? = some last) :
    last ∈ earlier ↔ ∃ d ∈ earlier, d ∈ versions := by
  refine ⟨fun hmem => ⟨last, hmem, List.mem_of_getLast? hlast⟩, ?_⟩
  rintro ⟨d, hearlier, hversions⟩
  obtain ⟨rest, hchain, hsuffix⟩ := h'.of_mem hearlier
  obtain ⟨rest', hchain', hsuffix'⟩ := h.of_mem hversions
  rw [hchain'.unique hchain] at hsuffix'
  obtain ⟨before, rfl⟩ := hsuffix'
  have hrest : rest.getLast? = some last := by
    obtain ⟨e, he, -⟩ := hchain.exists_getLast?
    rw [List.getLast?_append, he] at hlast
    rw [he]
    exact hlast
  exact hsuffix.mem (List.mem_of_getLast? hrest)

end Chain

theorem ChainsEnd.not_hasCycle (h : s.ChainsEnd) : ¬s.HasCycle := by
  rintro ⟨c, hcycle⟩
  obtain ⟨p, hsome, hback⟩ := TransGen.head'_iff.mp hcycle
  obtain ⟨versions, hrest⟩ := h p
  have hnodup := (Chain.next hsome hrest).nodup
  exact (List.nodup_cons.mp hnodup).1 (hrest.mem_iff.mpr hback)

/-! ## 2. The versions that the store computes -/

/-- Links lead to contracts of the store. -/
def LinksHeld (s : Store) : Prop := ∀ c p, s.Supersedes c p → p < s.contracts.size

theorem versionsFrom_of_chain (h : s.Chain c versions) {left : Nat} (hleft : versions.length ≤ left) :
    s.versionsFrom (some c) left = versions := by
  induction h generalizing left with
  | last hnone =>
    obtain ⟨left, rfl⟩ := Nat.exists_eq_add_of_le' hleft
    cases left <;> simp [versionsFrom, hnone]
  | next hsome _ ih =>
    obtain ⟨left, rfl⟩ := Nat.exists_eq_add_of_le' (Nat.le_trans (Nat.le_add_left 1 _) hleft)
    rw [versionsFrom, show (s.contract _).supersedes? = _ from hsome, ih (by simpa using hleft)]

theorem Chain.lt_size (h : s.Chain c versions) (hs : s.LinksHeld) (hc : c < s.contracts.size) :
    ∀ d ∈ versions, d < s.contracts.size := by
  induction h with
  | last _ => simpa using hc
  | next hsome _ ih => simpa [hc] using ih (hs _ _ hsome)

-- No contract comes twice, so there are not more versions than contracts, and none of them is cut off.
theorem Chain.versions_eq (h : s.Chain c versions) (hs : s.LinksHeld) (hc : c < s.contracts.size) :
    s.versions c = versions := by
  apply versionsFrom_of_chain h
  have hsub : versions ⊆ List.range s.contracts.size := fun d hd => List.mem_range.mpr (h.lt_size hs hc d hd)
  have hle := (h.nodup.subperm hsub).length_le
  simpa using hle

/-! ## 3. Making a link -/

/-- The store in which the last version of a contract supersedes another one. -/
def linked (s : Store) (last previous : ContractId) : Store :=
  s.setContract last { s.contract last with supersedes? := some previous }

@[simp] theorem size_linked : (s.linked last previous).contracts.size = s.contracts.size :=
  size_setContract s _ _

theorem supersedes?_linked (hlast : last < s.contracts.size) :
    ((s.linked last previous).contract c).supersedes? =
      if c = last then some previous else (s.contract c).supersedes? := by
  by_cases hc : c = last
  · subst hc
    rw [linked, contract_setContract_self s _ hlast, if_pos rfl]
  · rw [linked, contract_setContract_of_ne s _ (Ne.symm hc), if_neg hc]

-- The end of a chain supersedes none, so that no link is lost.
theorem Supersedes.linked (hlast : last < s.contracts.size) (hnone : (s.contract last).supersedes? = none)
    (h : s.Supersedes c p) : (s.linked last previous).Supersedes c p := by
  have hne : c ≠ last := fun hc => by simp [Supersedes, hc, hnone] at h
  simpa [Supersedes, supersedes?_linked hlast, hne] using h

theorem linked_supersedes (hlast : last < s.contracts.size) : (s.linked last previous).Supersedes last previous := by
  simp [Supersedes, supersedes?_linked hlast]

theorem LinksHeld.linked (h : s.LinksHeld) (hlast : last < s.contracts.size) (hprevious : previous < s.contracts.size) :
    (s.linked last previous).LinksHeld := by
  intro c p hp
  rw [size_linked]
  unfold Supersedes at hp
  rw [supersedes?_linked hlast] at hp
  split at hp
  · cases hp
    exact hprevious
  · exact h c p hp

-- A chain that does not come to the new link stays as it is.
theorem Chain.linked_of_notMem (h : s.Chain c versions) (hlast : last < s.contracts.size) (hmem : last ∉ versions) :
    (s.linked last previous).Chain c versions := by
  apply h.congr
  intro d hd
  have hne : d ≠ last := fun heq => hmem (heq ▸ hd)
  rw [supersedes?_linked hlast, if_neg hne]

-- A chain that comes to the new link goes on with the earlier definitions.
theorem Chain.linked_of_mem (h : s.Chain c versions) (h' : s.Chain previous earlier) (hlast : last < s.contracts.size)
    (hnone : (s.contract last).supersedes? = none) (hmem : last ∈ versions) (hother : last ∉ earlier) :
    (s.linked last previous).Chain c (versions ++ earlier) := by
  have hearlier : (s.linked last previous).Chain previous earlier := h'.linked_of_notMem hlast hother
  induction h with
  | @last c _ =>
    have hc := List.mem_singleton.mp hmem
    subst hc
    exact .next (linked_supersedes hlast) hearlier
  | @next c p versions hsome _ ih =>
    have hne : last ≠ c := fun hc => by simp [Supersedes, ← hc, hnone] at hsome
    exact .next (hsome.linked hlast hnone) (ih ((List.mem_cons.mp hmem).resolve_left hne))

theorem ChainsEnd.linked (h : s.ChainsEnd) (h' : s.Chain previous earlier) (hlast : last < s.contracts.size)
    (hnone : (s.contract last).supersedes? = none) (hother : last ∉ earlier) :
    (s.linked last previous).ChainsEnd := by
  intro c
  obtain ⟨versions, hchain⟩ := h c
  by_cases hmem : last ∈ versions
  · exact ⟨_, hchain.linked_of_mem h' hlast hnone hmem hother⟩
  · exact ⟨_, hchain.linked_of_notMem hlast hmem⟩

/-- A link at the end of a chain closes a cycle exactly if that end is among the earlier definitions. -/
theorem hasCycle_linked_iff (h : s.ChainsEnd) (h' : s.Chain previous earlier) (hlast : last < s.contracts.size)
    (hnone : (s.contract last).supersedes? = none) :
    (s.linked last previous).HasCycle ↔ last ∈ earlier := by
  constructor
  · intro hcycle
    by_contra hother
    exact (h.linked h' hlast hnone hother).not_hasCycle hcycle
  · intro hmem
    have hback : ReflTransGen (s.linked last previous).Supersedes previous last :=
      ReflTransGen.mono (fun _ _ hsome => hsome.linked hlast hnone) _ _ (h'.mem_iff.mp hmem)
    exact ⟨last, .head' (linked_supersedes hlast) hback⟩

/-! ## 4. Superseding -/

/-- Superseding another contract is refused exactly if a link from the last version to that contract closes a cycle;
otherwise this link is what is made. -/
theorem supersede_spec (h : s.ChainsEnd) (hs : s.LinksHeld) (hc : c < s.contracts.size)
    (hprevious : previous < s.contracts.size) :
    ∃ last < s.contracts.size, (s.versions c).getLast? = some last ∧ (s.contract last).supersedes? = none ∧
      ((s.linked last previous).HasCycle →
        s.supersede c previous = .error (.cyclicVersions (s.contract c).name)) ∧
      (¬(s.linked last previous).HasCycle → (s.linked last previous).ChainsEnd ∧
        s.supersede c previous =
          .ok (s.linked last previous, [(s.linked last previous).redefinition c previous])) := by
  obtain ⟨versions, hchain⟩ := h c
  obtain ⟨earlier, hchain'⟩ := h previous
  obtain ⟨last, hgetLast, hnone⟩ := hchain.exists_getLast?
  have hversions := hchain.versions_eq hs hc
  have hearlier := hchain'.versions_eq hs hprevious
  have hlast := hchain.lt_size hs hc last (List.mem_of_getLast? hgetLast)
  have hcycle := hasCycle_linked_iff h hchain' hlast hnone
  have hmeet : earlier.any versions.contains = true ↔ last ∈ earlier := by
    rw [hchain.getLast?_mem_iff hchain' hgetLast]
    simp
  have hgetLastD : versions.getLastD c = last := by
    rw [List.getLastD_eq_getLast?, hgetLast, Option.getD_some]
  refine ⟨last, hlast, by rw [hversions, hgetLast], hnone, fun hclosed => ?_, fun hopen => ?_⟩
  · have hany := hmeet.mpr (hcycle.mp hclosed)
    simp [supersede, hversions, hearlier, hany]
  · have hother : last ∉ earlier := fun hmem => hopen (hcycle.mpr hmem)
    have hany : ¬earlier.any versions.contains = true := fun hany => hother (hmeet.mp hany)
    refine ⟨h.linked hchain' hlast hnone hother, ?_⟩
    simp only [supersede, hversions, hearlier, if_neg hany, hgetLastD]
    rfl

end CallContract.Store
