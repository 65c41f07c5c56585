import CallContract.Proofs.WellFormed

/-!
# Content — what a contract passes on, and what merging does to it

The content of a contract is its parameters by value, in order, and its properties.  Merging an interface and applying
a patch are functions of contents; the identities of the parameters play no part.  Once an interface has been merged
the contract absorbs it: merging it again, after whatever else has been merged, changes nothing.
-/

namespace CallContract

open Resolution

/-- The parameters of a contract under their names, in order, and its properties. -/
structure Content where
  params : Entries Param
  properties : Entries Value

/-- The content of a contract of a store. -/
def Store.content (s : Store) (c : ContractId) : Content where
  params := Entries.mapValues s.param (s.contract c).params
  properties := (s.contract c).properties

namespace Content

/-! ## 1. Merging and patching -/

/-- A parameter as it is inherited: through an optional reference it is optional. -/
def inherited (ref : Reference) (p : Param) : Param := { p with optional := p.optional || ref.optional }

/-- What stands under the name of an inherited parameter afterwards, given what stood there before. -/
def combined (ref : Reference) (p : Param) : Option Param → Param
  | some existing => widen existing p
  | none => inherited ref p

/-- Takes one parameter of an interface: one of that name is widened, and otherwise it goes to the end. -/
def take (ref : Reference) (k : Content) (p : Param) : Content :=
  { k with params := Entries.put p.name (combined ref p (Entries.get? p.name k.params)) k.params }

/-- Takes the properties of an interface that are not there. -/
def takeProperties (k i : Content) : Content :=
  { k with properties := k.properties ++ i.properties.filter fun e => !Entries.has e.1 k.properties }

/-- Merges an interface. -/
def merge (k : Content) (ref : Reference) (i : Content) : Content :=
  takeProperties ((Entries.values i.params).foldl (take ref) k) i

/-- Applies a patch: the parameter goes to the end with the fields that the patch sets. -/
def applyPatch (k : Content) (patch : Patch) : Content :=
  match Entries.get? patch.name k.params with
  | none => k
  | some p => { k with params := Entries.put p.name (patch.apply p) (Entries.erase patch.name k.params) }

/-! ## 2. Absorption -/

/-- A parameter of that name is there, and its directions cover those of the inherited one. -/
def Covers (k : Content) (p : Param) : Prop :=
  ∃ existing, Entries.get? p.name k.params = some existing ∧ (existing.mode = p.mode ∨ existing.mode = .both)

/-- Everything that an interface passes on is there. -/
structure Absorbs (k i : Content) : Prop where
  covers : ∀ p ∈ Entries.values i.params, k.Covers p
  has : ∀ key, Entries.has key i.properties = true → Entries.has key k.properties = true

theorem widen_of_mode {existing p : Param} (h : existing.mode = p.mode ∨ existing.mode = .both) :
    widen existing p = existing := by
  rw [widen, if_neg]
  rintro ⟨hne, hboth⟩
  exact h.elim hne hboth

theorem mode_widen (existing p : Param) :
    (widen existing p).mode = p.mode ∨ (widen existing p).mode = .both := by
  rw [widen]
  by_cases h : existing.mode ≠ p.mode ∧ existing.mode ≠ .both
  · rw [if_pos h]
    exact Or.inr rfl
  · rw [if_neg h]
    by_cases hm : existing.mode = p.mode
    · exact Or.inl hm
    · exact Or.inr (Decidable.not_not.mp fun hb => h ⟨hm, hb⟩)

-- Widening keeps a mode or makes it both.
theorem mode_widen_self (existing p : Param) :
    (widen existing p).mode = existing.mode ∨ (widen existing p).mode = .both := by
  rw [widen]
  by_cases h : existing.mode ≠ p.mode ∧ existing.mode ≠ .both
  · rw [if_pos h]
    exact Or.inr rfl
  · rw [if_neg h]
    exact Or.inl rfl

theorem take_of_covers {ref : Reference} {k : Content} {p : Param} (h : k.Covers p) : k.take ref p = k := by
  obtain ⟨existing, he, hm⟩ := h
  rw [take, he, combined, widen_of_mode hm, Entries.put_of_get? he]

theorem covers_take_self (ref : Reference) (k : Content) (p : Param) : (k.take ref p).Covers p := by
  rw [Covers, take, Entries.get?_put, if_pos rfl]
  refine ⟨_, rfl, ?_⟩
  cases Entries.get? p.name k.params with
  | none => exact Or.inl rfl
  | some existing => exact mode_widen existing p

theorem covers_take {ref : Reference} {k : Content} {p : Param} (h : k.Covers p) (q : Param) :
    (k.take ref q).Covers p := by
  obtain ⟨existing, he, hm⟩ := h
  rw [Covers, take, Entries.get?_put]
  by_cases hn : q.name = p.name
  · rw [if_pos hn, hn, he]
    refine ⟨_, rfl, ?_⟩
    rcases mode_widen_self existing q with hw | hw
    · exact hm.imp hw.trans hw.trans
    · exact Or.inr hw
  · rw [if_neg hn]
    exact ⟨existing, he, hm⟩

theorem covers_foldl {ref : Reference} {k : Content} {p : Param} (h : k.Covers p) (ps : List Param) :
    (ps.foldl (take ref) k).Covers p := by
  induction ps generalizing k with
  | nil => exact h
  | cons q rest ih => exact ih (covers_take h q)

theorem covers_foldl_of_mem {ref : Reference} {p : Param} {ps : List Param} (h : p ∈ ps) (k : Content) :
    (ps.foldl (take ref) k).Covers p := by
  induction ps generalizing k with
  | nil => cases h
  | cons q rest ih =>
    rcases List.mem_cons.mp h with rfl | h
    · exact covers_foldl (covers_take_self ref k p) rest
    · exact ih h (k.take ref q)

theorem foldl_take_of_covers {ref : Reference} {k : Content} {ps : List Param} (h : ∀ p ∈ ps, k.Covers p) :
    ps.foldl (take ref) k = k := by
  induction ps with
  | nil => rfl
  | cons p rest ih =>
    rw [List.foldl_cons, take_of_covers (h p List.mem_cons_self)]
    exact ih fun q hq => h q (List.mem_cons_of_mem p hq)

theorem properties_foldl_take (ref : Reference) (k : Content) (ps : List Param) :
    (ps.foldl (take ref) k).properties = k.properties := by
  induction ps generalizing k with
  | nil => rfl
  | cons p rest ih => exact ih (k.take ref p)

theorem properties_merge (k : Content) (ref : Reference) (i : Content) :
    (k.merge ref i).properties = k.properties ++ i.properties.filter fun e => !Entries.has e.1 k.properties := by
  rw [merge, takeProperties, properties_foldl_take]

/-- An interface that has been merged is absorbed. -/
theorem absorbs_merge_self (k : Content) (ref : Reference) (i : Content) : (k.merge ref i).Absorbs i := by
  refine ⟨fun p hp => covers_foldl_of_mem hp k, fun key hkey => ?_⟩
  rw [properties_merge, Entries.has_append, Bool.or_eq_true]
  by_cases hk : Entries.has key k.properties = true
  · exact Or.inl hk
  · refine Or.inr (Entries.has_filter hkey fun v => ?_)
    rw [Bool.not_eq_true] at hk
    rw [hk]
    rfl

/-- What is absorbed stays absorbed when something else is merged. -/
theorem absorbs_merge {i k : Content} (h : k.Absorbs i) (ref : Reference) (j : Content) :
    (k.merge ref j).Absorbs i := by
  refine ⟨fun p hp => covers_foldl (h.covers p hp) _, fun key hkey => ?_⟩
  rw [properties_merge, Entries.has_append, h.has key hkey]
  rfl

theorem Absorbs.no_new_properties {k i : Content} (h : k.Absorbs i) :
    (i.properties.filter fun e => !Entries.has e.1 k.properties) = [] := by
  rw [List.filter_eq_nil_iff]
  intro e he
  have hi : Entries.has e.1 i.properties = true := by
    obtain ⟨v, hv⟩ := Entries.mem_keys_iff.mp (List.mem_map_of_mem he)
    rw [Entries.has, hv]
    rfl
  rw [h.has e.1 hi]
  exact Bool.false_ne_true

/-- Merging what is absorbed changes nothing. -/
theorem merge_of_absorbs {i k : Content} (h : k.Absorbs i) (ref : Reference) : k.merge ref i = k := by
  rw [merge, foldl_take_of_covers h.covers, takeProperties, h.no_new_properties, List.append_nil]

end Content

end CallContract
