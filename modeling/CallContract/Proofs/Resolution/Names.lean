import CallContract.Proofs.Naming
import CallContract.Proofs.Resolution.Actions
import CallContract.Proofs.Resolution.Run
import CallContract.Proofs.Resolution.Touches
import Mathlib.Data.List.Nodup

/-!
# Names — what the actions of resolution do to the names of parameters

Contracts may share parameters, and then a merge changes parameters that others hold; but never their names.  So the
contract that an action works on keeps its names.  It gains those of an interface that it merges; a patch puts back the
name that it has taken out.
-/

namespace CallContract.Resolution

variable {r : Registry} {d : Directory} {limit : Int} {c : ContractId} {s t u : Store} {w w' : Work}

/-- The names of the parameters of a contract, in order. -/
def namesOf (s : Store) (c : ContractId) : List String := Entries.keys (s.contract c).params

/-! ## 1. Names in contents -/

theorem keys_content (s : Store) (c : ContractId) : Entries.keys (s.content c).params = namesOf s c :=
  Entries.keys_mapValues s.param (s.contract c).params

theorem holdsByName_of_content (h : (s.content c).ByName) : s.HoldsByName (s.contract c) := by
  refine ⟨fun e he => ?_, ?_⟩
  · have hmem : (e.1, s.param e.2) ∈ (s.content c).params := List.mem_map_of_mem he
    exact h.name_eq _ hmem
  · rw [← Entries.keys_mapValues s.param]
    exact h.distinct

-- A parameter that stands under its name stands nowhere else in the contract.
theorem nodup_paramIds (h : s.HoldsByName (s.contract c)) : (s.contract c).paramIds.Nodup := by
  have hnames : ((s.contract c).paramIds.map fun id => (s.param id).name).Nodup := by
    rw [Contract.paramIds, h.names_eq]
    exact h.distinct
  exact List.Nodup.of_map _ hnames

theorem mem_keys_take (k : Content) (ref : Reference) (p : Param) (name : String) :
    name ∈ Entries.keys (k.take ref p).params ↔ name ∈ Entries.keys k.params ∨ name = p.name := by
  rw [Content.take, Entries.keys_put]
  split
  · next h =>
    constructor
    · exact Or.inl
    · rintro (hk | rfl)
      · exact hk
      · exact h
  · rw [List.mem_append, List.mem_singleton]

-- What a patch takes out it puts back, under the same name.
theorem mem_keys_applyPatch {k : Content} (hk : k.ByName) (patch : Patch) (name : String) :
    name ∈ Entries.keys (k.applyPatch patch).params ↔ name ∈ Entries.keys k.params := by
  unfold Content.applyPatch
  cases hget : Entries.get? patch.name k.params with
  | none => rfl
  | some p =>
    have hp : p.name = patch.name := hk.name_of_get? hget
    have hmem : p.name ∈ Entries.keys k.params := Entries.mem_keys_iff.mpr ⟨p, hp ▸ hget⟩
    rw [← hp, Entries.keys_put, Entries.keys_erase, if_neg hk.distinct.not_mem_erase, List.mem_append,
      List.mem_singleton, hk.distinct.mem_erase_iff]
    by_cases hname : name = p.name
    · simp [hname, hmem]
    · simp [hname]

/-! ## 2. Names gained -/

theorem Touches.name_eq (h : Touches c s t) {id : ParamId} (hid : id < s.params.size) :
    (t.param id).name = (s.param id).name := by
  rcases h.params id hid with heq | ⟨-, heq | ⟨optional, heq⟩⟩
  · rw [heq]
  · rw [heq]
  · rw [heq]

/-- By actions on it the contract has come to have these names too.  Every contract has its parameters under their
names. -/
structure Gains (c : ContractId) (gained : List String) (s t : Store) : Prop where
  touches : Touches c s t
  byName : t.AllByName
  mem_names : ∀ name, name ∈ namesOf t c ↔ name ∈ namesOf s c ∨ name ∈ gained

namespace Gains

theorem refl (c : ContractId) (h : s.AllByName) : Gains c [] s s :=
  ⟨Touches.refl c s, h, fun name => by simp⟩

theorem trans {before after : List String} (h : Gains c before s t) (h' : Gains c after t u) :
    Gains c (before ++ after) s u := by
  refine ⟨h.touches.trans h'.touches, h'.byName, fun name => ?_⟩
  rw [h'.mem_names, h.mem_names, List.mem_append, or_assoc]

-- It is enough to look at the content of the contract: nothing else that has a name changes it.
theorem of_content {gained : List String} (hs : WellFormed r s) (hnames : s.AllByName) (h : Touches c s t)
    (hbyName : (t.content c).ByName)
    (hmem : ∀ name, name ∈ Entries.keys (t.content c).params ↔
      name ∈ Entries.keys (s.content c).params ∨ name ∈ gained) : Gains c gained s t := by
  refine ⟨h, fun e => ?_, fun name => ?_⟩
  · by_cases hec : e = c
    · rw [hec]
      exact holdsByName_of_content hbyName
    · rw [h.others e hec]
      refine ⟨fun entry hentry => ?_, (hnames e).distinct⟩
      have hid : entry.2 < s.params.size := hs.params_held e entry.2 (List.mem_map_of_mem hentry)
      rw [h.name_eq hid]
      exact (hnames e).name_eq entry hentry
  · rw [← keys_content, ← keys_content]
    exact hmem name

theorem subset {gained : List String} (h : Gains c gained s t) (e : ContractId) : namesOf s e ⊆ namesOf t e := by
  by_cases hec : e = c
  · subst hec
    exact fun name hname => (h.mem_names name).mpr (.inl hname)
  · have hsame : namesOf t e = namesOf s e := by rw [namesOf, h.touches.others e hec, namesOf]
    rw [hsame]
    exact List.Subset.refl _

end Gains

/-! ## 3. What actions gain -/

theorem takeParam_gains {ref : Reference} {id : ParamId} (hs : WellFormed r w.store)
    (hc : c < w.store.contracts.size) (hnames : w.store.AllByName) (h : takeParam c ref id w = .ok () w') :
    WellFormed r w'.store ∧ Gains c [(w.store.param id).name] w.store w'.store := by
  have htouches : Touches c w.store w'.store := touches_of_ok (confines_takeParam c ref id) h
  obtain ⟨v, hv, hedits, -, hcontent⟩ := takeParam_spec hs hc ref id
  rw [h] at hv
  cases hv
  replace hcontent := hcontent (nodup_paramIds (hnames c))
  refine ⟨hedits.wellFormed, .of_content hs hnames htouches ?_ fun name => ?_⟩
  · rw [hcontent]
    exact Content.byName_take (Content.byName_content (hnames c)) ref _
  · rw [hcontent, mem_keys_take, List.mem_singleton]

-- Induction over the parameters that are left; those that have been taken may be among them again.
theorem forM_takeParam_gains {ref : Reference} {ids : List ParamId} (hs : WellFormed r w.store)
    (hc : c < w.store.contracts.size) (hnames : w.store.AllByName) (hids : ∀ id ∈ ids, id < w.store.params.size)
    (h : ids.forM (takeParam c ref) w = .ok () w') :
    WellFormed r w'.store ∧ Gains c (ids.map fun id => (w.store.param id).name) w.store w'.store := by
  induction ids generalizing w with
  | nil =>
    cases h
    exact ⟨hs, .refl c hnames⟩
  | cons id rest ih =>
    obtain ⟨v, hv, -⟩ := takeParam_spec hs hc ref id
    obtain ⟨hwell, hfirst⟩ := takeParam_gains hs hc hnames hv
    have hrest : rest.forM (takeParam c ref) v = .ok () w' := (bind_of_ok hv).symm.trans h
    have hlt : ∀ j ∈ rest, j < v.store.params.size := fun j hj =>
      Nat.lt_of_lt_of_le (hids j (List.mem_cons_of_mem id hj)) hfirst.touches.size_params_le
    obtain ⟨hwell', hlater⟩ := ih hwell (hfirst.touches.size_eq ▸ hc) hfirst.byName hlt hrest
    have hsame : (rest.map fun j => (v.store.param j).name) = rest.map fun j => (w.store.param j).name :=
      List.map_congr_left fun j hj => hfirst.touches.name_eq (hids j (List.mem_cons_of_mem id hj))
    rw [hsame] at hlater
    exact ⟨hwell', hfirst.trans hlater⟩

theorem merge_gains {i : ContractId} {ref : Reference} (hs : WellFormed r w.store) (hc : c < w.store.contracts.size)
    (hnames : w.store.AllByName) (h : merge c i ref w = .ok () w') : Gains c (namesOf w.store i) w.store w'.store := by
  have htouches : Touches c w.store w'.store := touches_of_ok (confines_merge c i ref) h
  cases hv : (w.store.contract i).paramIds.forM (takeParam c ref) w with
  | error abort v =>
    have hfails : merge c i ref w = .error abort v := bind_of_error hv
    rw [h] at hfails
    cases hfails
  | ok _ v =>
    have hw : w' = takeProperties c i v := by
      have hok : merge c i ref w = .ok () (takeProperties c i v) := bind_of_ok hv
      rw [h] at hok
      cases hok
      rfl
    obtain ⟨hwell, htaken⟩ := forM_takeParam_gains hs hc hnames (hs.params_held i) hv
    have hgained : ((w.store.contract i).paramIds.map fun id => (w.store.param id).name) = namesOf w.store i :=
      (hnames i).names_eq
    -- Properties have nothing to do with parameters.
    have hparams : (w'.store.content c).params = (v.store.content c).params := by
      rw [hw, (takeProperties_spec hwell (htaken.touches.size_eq ▸ hc) i).2.2, Content.takeProperties]
    rw [hgained] at htaken
    refine .of_content hs hnames htouches ?_ fun name => ?_
    · show Entries.NamedBy Param.name (w'.store.content c).params
      rw [hparams]
      exact Content.byName_content (htaken.byName c)
    · rw [hparams, keys_content, keys_content]
      exact htaken.mem_names name

theorem mem_keys_foldl_applyPatch {k : Content} (hk : k.ByName) (patches : List Patch) (name : String) :
    name ∈ Entries.keys (patches.foldl Content.applyPatch k).params ↔ name ∈ Entries.keys k.params := by
  induction patches generalizing k with
  | nil => rfl
  | cons patch rest ih => rw [List.foldl_cons, ih (Content.byName_applyPatch hk patch), mem_keys_applyPatch hk]

/-- The names that the contract of a frame gains in a step. -/
def gainedBy (s : Store) : Phase → List String
  | .mergeThen i _ _ => namesOf s i
  | .start | .expand | .follow _ => []

theorem effect_gains {phase : Phase} (hs : WellFormed d.registry w.store) (hc : c < w.store.contracts.size)
    (hnames : w.store.AllByName) (h : effect d w.store ⟨c, phase⟩ w = .ok () w') :
    Gains c (gainedBy w.store phase) w.store w'.store := by
  have htouches : Touches c w.store w'.store := touches_of_effect h
  have hbyName : (w.store.content c).ByName := Content.byName_content (hnames c)
  cases phase with
  | start =>
    cases h
    exact .refl c hnames
  | expand =>
    cases h
    obtain ⟨-, -, -, hcontent⟩ := expandGroup_spec (d := d) hs hc
    refine .of_content hs hnames htouches ?_ fun name => ?_
    · rw [hcontent]
      exact hbyName
    · rw [hcontent]
      simp [gainedBy]
  | follow refs =>
    cases refs with
    | nil =>
      obtain ⟨v, hv, -, -, -, hcontent⟩ := complete_spec hs hc
      rw [show complete c w = .ok () w' from h] at hv
      cases hv
      refine .of_content hs hnames htouches ?_ fun name => ?_
      · rw [hcontent]
        exact Content.byName_foldl_applyPatch hbyName _
      · rw [hcontent, mem_keys_foldl_applyPatch hbyName]
        simp [gainedBy]
    | cons ref refs =>
      have hstore : w'.store = w.store := by
        rw [effect_follow] at h
        split at h
        · cases h
          rfl
        · cases h
          rfl
      rw [hstore]
      exact .refl c hnames
  | mergeThen i ref refs => exact merge_gains hs hc hnames h

/-- A step that does not fail has the work that its effect has left. -/
theorem effect_of_step {top : Frame} {below stack : List Frame} (h : stepStack d limit top below w = .ok stack w') :
    effect d w.store top w = .ok () w' := by
  rw [stepStack_eq, EStateM.bind] at h
  split at h
  · next _ v hv =>
    -- The move changes nothing but the stack.
    cases hmove : move d w.store top with
    | stay next =>
      rw [hmove] at h
      cases h
      exact hv
    | leave =>
      rw [hmove] at h
      cases h
      exact hv
    | call e next =>
      rw [hmove, applyMove] at h
      split at h
      · cases h
      · cases h
        exact hv
  · cases h

end CallContract.Resolution
