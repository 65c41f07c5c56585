import CallContract.Proofs.Resolution.Content

/-!
# Naming — parameters stand under their own names

A contract looks parameters up by name, and its checks read names off the parameters again.  The two agree because a
parameter is always put under the name that it has.  That is so for every contract that is built, and neither merging
nor patching spoils it.
-/

namespace CallContract

/-! ## 1. Entries under a name of their own -/

/-- Each value stands under its name, and no name is there twice. -/
structure Entries.NamedBy {α : Type} (name : α → String) (m : Entries α) : Prop where
  name_eq : ∀ e ∈ m, name e.2 = e.1
  distinct : (Entries.keys m).Nodup

namespace Entries.NamedBy

variable {α β : Type} {name : α → String} {m : Entries α} {key : String} {value : α}

theorem nil : NamedBy name ([] : Entries α) := ⟨by simp, List.nodup_nil⟩

theorem put (h : NamedBy name m) (hv : name value = key) : NamedBy name (Entries.put key value m) := by
  refine ⟨fun e he => ?_, ?_⟩
  · rcases mem_put he with rfl | he
    · exact hv
    · exact h.name_eq e he
  · rw [keys_put]
    by_cases hk : key ∈ keys m
    · rw [if_pos hk]
      exact h.distinct
    · rw [if_neg hk]
      refine List.nodup_append.mpr ⟨h.distinct, by simp, fun a ha b hb => ?_⟩
      rw [List.mem_singleton.mp hb]
      exact fun hab => hk (hab ▸ ha)

theorem erase (h : NamedBy name m) (key : String) : NamedBy name (Entries.erase key m) := by
  refine ⟨fun e he => h.name_eq e ((erase_sublist key m).subset he), ?_⟩
  rw [keys_erase]
  exact h.distinct.erase key

theorem name_of_get? (h : NamedBy name m) (hget : get? key m = some value) : name value = key :=
  h.name_eq _ (mem_of_get? hget)

-- What stands anywhere in the map is found under its name.
theorem get?_name (h : NamedBy name m) (hv : value ∈ values m) : get? (name value) m = some value := by
  obtain ⟨e, he, rfl⟩ := List.mem_map.mp hv
  rw [h.name_eq e he]
  exact get?_of_mem h.distinct he

theorem names_eq (h : NamedBy name m) : (values m).map name = keys m := by
  rw [values, keys, List.map_map]
  exact List.map_congr_left fun e he => h.name_eq e he

theorem mapValues {name : β → String} {f : α → β} (h : NamedBy (fun a => name (f a)) m) :
    NamedBy name (Entries.mapValues f m) := by
  refine ⟨fun e he => ?_, ?_⟩
  · obtain ⟨e', he', rfl⟩ := List.mem_map.mp he
    exact h.name_eq e' he'
  · rw [keys_mapValues]
    exact h.distinct

theorem congr {name' : α → String} (h : NamedBy name m) (hnames : ∀ v ∈ values m, name' v = name v) :
    NamedBy name' m :=
  ⟨fun e he => (hnames e.2 (List.mem_map_of_mem he)).trans (h.name_eq e he), h.distinct⟩

-- A value is found exactly under its name.
theorem get?_eq_some_iff (h : NamedBy name m) : get? key m = some value ↔ value ∈ values m ∧ name value = key := by
  constructor
  · exact fun hget => ⟨mem_values_of_get? hget, h.name_of_get? hget⟩
  · rintro ⟨hmem, rfl⟩
    exact h.get?_name hmem

theorem mem_keys_iff (h : NamedBy name m) : key ∈ keys m ↔ ∃ v ∈ values m, name v = key := by
  rw [← h.names_eq, List.mem_map]

theorem get?_eq_none_iff (h : NamedBy name m) : get? key m = none ↔ ∀ v ∈ values m, name v ≠ key := by
  rw [← Option.not_isSome_iff_eq_none, Option.isSome_iff_exists, ← Entries.mem_keys_iff, h.mem_keys_iff]
  simp

/-- A value whose name is there takes the place of the one that had it. -/
theorem values_put_of_name {old : α} {before after : List α} (h : NamedBy name m)
    (hvalues : values m = before ++ old :: after) (hname : name old = key) (value : α) :
    values (Entries.put key value m) = before ++ value :: after := by
  obtain ⟨front, rest, rfl, rfl, hrest⟩ := List.map_eq_append_iff.mp hvalues
  obtain ⟨⟨k, v⟩, back, rfl, rfl, rfl⟩ := List.map_eq_cons_iff.mp hrest
  obtain rfl : k = key := (h.name_eq (k, v) (by simp)).symm.trans hname
  have hfront : k ∉ keys front := by
    have hdistinct := h.distinct
    rw [keys, List.map_append, List.map_cons] at hdistinct
    exact fun hmem => (List.nodup_append.mp hdistinct).2.2 k hmem k List.mem_cons_self rfl
  rw [put_append hfront, Entries.put, if_pos rfl, values, List.map_append]
  rfl

theorem values_put_of_new (h : NamedBy name m) (hnew : ∀ v ∈ values m, name v ≠ key) (value : α) :
    values (Entries.put key value m) = values m ++ [value] := by
  have hkey : key ∉ keys m := fun hmem => by
    obtain ⟨v, hv, hname⟩ := h.mem_keys_iff.mp hmem
    exact hnew v hv hname
  rw [put_of_not_mem hkey, values, List.map_append]
  rfl

/-- Erasing a name leaves the values of other names in order. -/
theorem values_erase (h : NamedBy name m) (key : String) :
    values (Entries.erase key m) = (values m).filter fun v => name v ≠ key := by
  rw [erase_eq_filter h.distinct, values, values, List.filter_map]
  congr 1
  exact List.filter_congr fun e he => by simp [h.name_eq e he]

end Entries.NamedBy

/-! ## 2. Contracts -/

namespace Store

/-- A contract holds its parameters under their names. -/
def HoldsByName (s : Store) (c : Contract) : Prop := Entries.NamedBy (fun id => (s.param id).name) c.params

/-- Every contract of a store holds its parameters under their names. -/
def AllByName (s : Store) : Prop := ∀ c, s.HoldsByName (s.contract c)

variable {s : Store} {c : Contract}

theorem HoldsByName.get?_name {p : Param} (h : s.HoldsByName c) (hp : p ∈ s.paramsOf c) :
    ∃ id, Entries.get? p.name c.params = some id ∧ s.param id = p := by
  obtain ⟨id, hid, rfl⟩ := List.mem_map.mp hp
  exact ⟨id, Entries.NamedBy.get?_name h hid, rfl⟩

theorem HoldsByName.nodup (h : s.HoldsByName c) : ((s.paramsOf c).map (·.name)).Nodup := by
  have hnames : (s.paramsOf c).map (·.name) = Entries.keys c.params := by
    rw [paramsOf, Contract.paramIds, List.map_map]
    exact Entries.NamedBy.names_eq h
  rw [hnames]
  exact Entries.NamedBy.distinct h

theorem holdsByName_foldl_holding (h : s.HoldsByName c) (ids : List ParamId) :
    s.HoldsByName (ids.foldl s.holding c) := by
  induction ids generalizing c with
  | nil => exact h
  | cons id rest ih => exact ih (Entries.NamedBy.put h rfl)

/-- Building a contract puts each parameter under its name, even if several have one name. -/
theorem AllByName.build (h : s.AllByName) (k : Contract) (ids : List ParamId) : (s.build k ids).AllByName := by
  intro e
  rw [Store.build, contract_pushContract]
  split
  · apply holdsByName_foldl_holding
    exact Entries.NamedBy.nil
  · exact h e

end Store

/-! ## 3. Contents -/

namespace Content

open Resolution

/-- The parameters of a content stand under their names. -/
abbrev ByName (k : Content) : Prop := Entries.NamedBy Param.name k.params

variable {k : Content}

theorem byName_content {s : Store} {c : ContractId} (h : s.HoldsByName (s.contract c)) : (s.content c).ByName :=
  Entries.NamedBy.mapValues h

theorem name_widen (existing p : Param) : (widen existing p).name = existing.name := by
  rw [widen]
  split <;> rfl

theorem byName_take (h : k.ByName) (ref : Reference) (p : Param) : (k.take ref p).ByName := by
  apply Entries.NamedBy.put h
  cases hget : Entries.get? p.name k.params with
  | none => rfl
  | some existing => exact (name_widen existing p).trans (h.name_of_get? hget)

theorem byName_merge (h : k.ByName) (ref : Reference) (i : Content) : (k.merge ref i).ByName := by
  have hfold : ∀ ps : List Param, (ps.foldl (take ref) k).ByName := by
    intro ps
    induction ps generalizing k with
    | nil => exact h
    | cons p rest ih => exact ih (byName_take h ref p)
  exact hfold (Entries.values i.params)

theorem byName_applyPatch (h : k.ByName) (patch : Patch) : (k.applyPatch patch).ByName := by
  unfold applyPatch
  cases Entries.get? patch.name k.params with
  | none => exact h
  | some p => exact Entries.NamedBy.put (h.erase patch.name) rfl

theorem byName_foldl_applyPatch (h : k.ByName) (patches : List Patch) : (patches.foldl applyPatch k).ByName := by
  induction patches generalizing k with
  | nil => exact h
  | cons patch rest ih => exact ih (byName_applyPatch h patch)

end Content

end CallContract
