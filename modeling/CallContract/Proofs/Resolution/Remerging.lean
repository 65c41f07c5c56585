import CallContract.Proofs.Resolution.Grouping
import CallContract.Proofs.Resolution.Keeping
import CallContract.Proofs.Resolution.Touches

/-!
# Remerging — an interface that has been merged is not merged again

Merging leaves the contract, for every parameter of the interface, with one of that name whose directions cover those
of the interface.  Whatever is merged afterwards, into this contract or into others, keeps names and properties where
they are and can only add directions.  So as long as the interface passes on what it did, merging it again finds nothing
to do.
-/

namespace CallContract.Resolution

open Relation

variable {s t u : Store} {c e i : ContractId} {ref : Reference} {w w' v : Work} {id : ParamId} {ids : List ParamId}
  {p : Param}

/-! ## 1. What every merge keeps -/

/-- Nothing has gone from the contracts of a store: names and properties are where they were, and what stands under a
name can only have been widened. -/
structure Grows (s t : Store) : Prop where
  size_le : s.params.size ≤ t.params.size
  held : ∀ c key id, Entries.get? key (s.contract c).params = some id →
    Entries.get? key (t.contract c).params = some id
  widened : ∀ id < s.params.size, Widened (s.param id) (t.param id)
  properties : ∀ c key, Entries.has key (s.contract c).properties = true →
    Entries.has key (t.contract c).properties = true

namespace Grows

theorem refl (s : Store) : Grows s s := ⟨Nat.le_refl _, fun _ _ _ => id, fun _ _ => .inl rfl, fun _ _ => id⟩

theorem trans (h : Grows s t) (h' : Grows t u) : Grows s u where
  size_le := Nat.le_trans h.size_le h'.size_le
  held c key id hid := h'.held c key id (h.held c key id hid)
  widened id hid := (h.widened id hid).trans (h'.widened id (Nat.lt_of_lt_of_le hid h.size_le))
  properties c key hkey := h'.properties c key (h.properties c key hkey)

end Grows

theorem grows_setParam (s : Store) (id : ParamId) (p : Param) : Grows s (s.setParam id (widen (s.param id) p)) where
  size_le := Nat.le_of_eq Array.size_setIfInBounds.symm
  held _ _ _ hid := hid
  widened j _ := by
    rw [Store.param_setParam]
    split
    · next h =>
      rw [← h.1]
      exact widened_widen _ _
    · exact .inl rfl
  properties _ _ hkey := hkey

-- A contract that is replaced by one that has what it had.
theorem grows_setContract {k : Contract}
    (hheld : ∀ key id, Entries.get? key (s.contract c).params = some id → Entries.get? key k.params = some id)
    (hproperties : ∀ key, Entries.has key (s.contract c).properties = true → Entries.has key k.properties = true) :
    Grows s (s.setContract c k) where
  size_le := Nat.le_refl _
  held e key id hid := by
    rw [Store.contract_setContract]
    split
    · next h => exact hheld key id (h.1 ▸ hid)
    · exact hid
  widened _ _ := .inl rfl
  properties e key hkey := by
    rw [Store.contract_setContract]
    split
    · next h => exact hproperties key (h.1 ▸ hkey)
    · exact hkey

theorem grows_pushParam (s : Store) (p : Param) : Grows s (s.pushParam p) where
  size_le := Array.size_push _ ▸ Nat.le_succ _
  held _ _ _ hid := hid
  widened id hid := by
    rw [Store.param_pushParam, if_neg (Nat.ne_of_lt hid)]
    exact .inl rfl
  properties _ _ hkey := hkey

theorem grows_insert (h : Entries.get? p.name (s.contract c).params = none) :
    Grows s ((s.pushParam p).insert c s.params.size) := by
  refine (grows_pushParam s p).trans (grows_setContract (fun key id hid => ?_) fun _ hkey => hkey)
  have hname : ((s.pushParam p).param s.params.size).name ≠ key := by
    rw [Store.param_pushParam, if_pos rfl]
    rintro rfl
    exact absurd (h.symm.trans hid) (by simp)
  rw [Store.holding, Entries.get?_put, if_neg hname]
  exact hid

/-- Every merge lets a store grow. -/
theorem keptByMerging_grows (s : Store) : KeptByMerging (Grows s) where
  widen h _ p := h.trans (grows_setParam _ _ p)
  insert h hnone := h.trans (grows_insert hnone)
  addProperties h new := h.trans (grows_setContract (fun _ _ hid => hid) fun key hkey => by
    rw [Entries.has_append, hkey, Bool.true_or])

/-! ## 2. What a merge leaves -/

/-- A contract holds a parameter of that name whose directions cover those of a given one. -/
def CoversHeld (s : Store) (c : ContractId) (p : Param) : Prop :=
  ∃ id < s.params.size, Entries.get? p.name (s.contract c).params = some id ∧
    ((s.param id).mode = p.mode ∨ (s.param id).mode = .both)

theorem CoversHeld.covers (h : CoversHeld s c p) : (s.content c).Covers p := by
  obtain ⟨id, -, hget, hmode⟩ := h
  exact ⟨s.param id, by rw [get?_content, hget]; rfl, hmode⟩

theorem Widened.mode {q : Param} (h : Widened p q) : q.mode = p.mode ∨ q.mode = .both := by
  rcases h with rfl | ⟨_, rfl⟩
  · exact .inl rfl
  · exact .inr rfl

-- Covering outlasts growth.
theorem CoversHeld.grows (h : CoversHeld s c p) (hgrows : Grows s t) : CoversHeld t c p := by
  obtain ⟨id, hid, hget, hmode⟩ := h
  refine ⟨id, Nat.lt_of_lt_of_le hid hgrows.size_le, hgrows.held c _ id hget, ?_⟩
  rcases (hgrows.widened id hid).mode with hsame | hboth
  · rwa [hsame]
  · exact .inr hboth

theorem mode_of_inheritedCopy {q : Param} (h : inheritedCopy ref p = .ok q) : q.mode = p.mode.base := by
  obtain ⟨markup, rfl⟩ := eq_of_inheritedCopy h
  rfl

/-- A parameter that has been taken is covered. -/
theorem coversHeld_of_takeParam (hc : c < w.store.contracts.size) (hheld : w.store.AllHeld)
    (hplain : (w.store.param id).mode.base = (w.store.param id).mode) (h : takeParam c ref id w = .ok () w') :
    CoversHeld w'.store c (w.store.param id) := by
  cases hget : Entries.get? (w.store.param id).name (w.store.contract c).params with
  | some existing =>
    rw [takeParam_of_some hget] at h
    cases h
    have hlt : existing < w.store.params.size := hheld c existing (Entries.mem_values_of_get? hget)
    refine ⟨existing, Array.size_setIfInBounds.symm ▸ hlt, hget, ?_⟩
    rw [Store.param_setParam_self _ _ hlt]
    exact Content.mode_widen _ _
  | none =>
    cases hcopy : inheritedCopy ref (w.store.param id) with
    | error fault =>
      rw [takeParam_of_error hget hcopy] at h
      cases h
    | ok q =>
      rw [takeParam_of_none hget hcopy] at h
      cases h
      refine ⟨w.store.params.size, Array.size_push _ ▸ Nat.lt_succ_self _, ?_, ?_⟩
      · rw [contract_insert_pushParam hc, name_of_inheritedCopy hcopy]
        exact (Entries.get?_put _ _ _ _).trans (if_pos rfl)
      · left
        change ((w.store.pushParam q).param w.store.params.size).mode = _
        rw [Store.param_pushParam, if_pos rfl, mode_of_inheritedCopy hcopy, hplain]

-- The parameters of an interface are not those of the contract, so that taking one leaves the others as they are.
theorem forM_takeParam_covers (hc : c < w.store.contracts.size) (hheld : w.store.AllHeld)
    (hids : ∀ id ∈ ids, id < w.store.params.size ∧ id ∉ (w.store.contract c).paramIds)
    (hplain : ∀ id ∈ ids, (w.store.param id).mode.base = (w.store.param id).mode)
    (h : ids.forM (takeParam c ref) w = .ok () w') : ∀ id ∈ ids, CoversHeld w'.store c (w.store.param id) := by
  induction ids generalizing w with
  | nil => exact fun _ hid => absurd hid List.not_mem_nil
  | cons first rest ih =>
    cases hfirst : takeParam c ref first w with
    | error abort v =>
      rw [forM_cons_of_error hfirst] at h
      cases h
    | ok _ v =>
      rw [forM_cons_of_ok hfirst] at h
      have htouches : Touches c w.store v.store := touches_of_ok (confines_takeParam c ref first) hfirst
      have hgrows : Grows v.store w'.store :=
        (keeps_forM ((keptByMerging_grows v.store).takeParam c ref) rest).of_ok (.refl v.store) h
      have hsame : ∀ id ∈ rest, v.store.param id = w.store.param id := fun id hid => by
        obtain ⟨hlt, hother⟩ := hids id (List.mem_cons_of_mem first hid)
        exact (htouches.params id hlt).resolve_right fun hown => hother hown.1
      have hheld' : v.store.AllHeld :=
        (keptByActions_allHeld.keptByMerging.takeParam c ref first).of_ok hheld hfirst
      have hrest := ih (htouches.size_eq ▸ hc) hheld' (fun id hid => ?_) (fun id hid => ?_) h
      · intro id hid
        rcases List.mem_cons.mp hid with rfl | hid
        · exact (coversHeld_of_takeParam hc hheld (hplain _ List.mem_cons_self) hfirst).grows hgrows
        · rw [← hsame id hid]
          exact hrest id hid
      · obtain ⟨hlt, hother⟩ := hids id (List.mem_cons_of_mem first hid)
        exact ⟨Nat.lt_of_lt_of_le hlt htouches.size_params_le, fun hown => hother (htouches.held id hown hlt)⟩
      · rw [hsame id hid]
        exact hplain id (List.mem_cons_of_mem first hid)

/-- A contract has the properties of an interface that it has taken them from. -/
theorem has_takeProperties (hc : c < w.store.contracts.size) {key : String}
    (hkey : Entries.has key (w.store.contract i).properties = true) :
    Entries.has key ((takeProperties c i w).store.contract c).properties = true := by
  have hnew : ∀ k : Contract, Entries.has key k.properties = true ∨
      Entries.has key (newProperties k (w.store.contract i)) = true := by
    intro k
    cases hk : Entries.has key k.properties with
    | true => exact .inl rfl
    | false => exact .inr (Entries.has_filter hkey fun v => by rw [hk]; rfl)
  unfold takeProperties
  split
  · next hempty =>
    rcases hnew (w.store.contract c) with hhas | hhas
    · exact hhas
    · rw [List.isEmpty_iff.mp hempty] at hhas
      cases hhas
  · rw [store_note]
    change Entries.has key ((w.store.setContract c _).contract c).properties = true
    rw [Store.contract_setContract_self _ _ hc, Entries.has_append, Bool.or_eq_true]
    exact hnew (w.store.contract c)

-- A contract that shares no parameter with the one that is worked on passes on what it did.
theorem Touches.content_of_apart (h : Touches c s t) (hne : e ≠ c)
    (hheld : ∀ id ∈ (s.contract e).paramIds, id < s.params.size)
    (hapart : ∀ id ∈ (s.contract e).paramIds, id ∉ (s.contract c).paramIds) : t.content e = s.content e := by
  have hparams : ∀ id ∈ Entries.values (s.contract e).params, t.param id = s.param id := fun id hid =>
    (h.params id (hheld id hid)).resolve_right fun hown => hapart id hid hown.1
  rw [Store.content, Store.content, h.others e hne, Entries.mapValues_congr hparams]

/-- An interface that has been merged is absorbed. -/
theorem absorbs_of_merge (hc : c < w.store.contracts.size) (hne : i ≠ c) (hheld : w.store.AllHeld)
    (hplain : ∀ id ∈ (w.store.contract i).paramIds, (w.store.param id).mode.base = (w.store.param id).mode)
    (hapart : ∀ id ∈ (w.store.contract i).paramIds, id ∉ (w.store.contract c).paramIds)
    (h : merge c i ref w = .ok () v) : (v.store.content c).Absorbs (v.store.content i) := by
  have htouches : Touches c w.store v.store := touches_of_ok (confines_merge c i ref) h
  have hcontent : v.store.content i = w.store.content i := htouches.content_of_apart hne (hheld i) hapart
  have hvalues : Entries.values (w.store.content i).params = (w.store.contract i).paramIds.map w.store.param :=
    Entries.values_mapValues _ _
  rw [hcontent]
  cases htake : takeParams c i ref w with
  | error abort v₁ =>
    rw [merge, bind_of_error htake] at h
    cases h
  | ok _ v₁ =>
    rw [merge, bind_of_ok htake] at h
    cases h
    have hcovers := forM_takeParam_covers hc hheld (fun id hid => ⟨hheld i id hid, hapart id hid⟩) hplain htake
    have hgrows : Grows v₁.store (takeProperties c i v₁).store :=
      (keptByMerging_grows v₁.store).takeProperties c i (.refl v₁.store)
    have hfirst : Touches c w.store v₁.store := touches_of_ok (confines_takeParams c i ref) htake
    refine ⟨fun p hp => ?_, fun key hkey => ?_⟩
    · rw [hvalues] at hp
      obtain ⟨id, hid, rfl⟩ := List.mem_map.mp hp
      exact ((hcovers id hid).grows hgrows).covers
    · apply has_takeProperties (hfirst.size_eq ▸ hc)
      rw [hfirst.others i hne]
      exact hkey

/-! ## 3. Merging again -/

/-- An interface is merged into a contract, whether that goes through or is refused. -/
inductive MergesInto (c : ContractId) : Work → Work → Prop
  | mk (i : ContractId) (ref : Reference) (w : Work) : MergesInto c w (workOf (merge c i ref w))

/-- An interface is merged into some contract. -/
def Merges (w w' : Work) : Prop := ∃ c, MergesInto c w w'

theorem grows_of_merges (h : ReflTransGen Merges v w) : Grows v.store w.store := by
  induction h with
  | refl => exact .refl v.store
  | tail _ hstep ih =>
    obtain ⟨e, hstep⟩ := hstep
    cases hstep with
    | mk j r x => exact ((keptByMerging_grows v.store).merge e j r).workOf ih

theorem touches_of_mergesInto (h : ReflTransGen (MergesInto c) v w) : Touches c v.store w.store := by
  induction h with
  | refl => exact .refl c v.store
  | tail _ hstep ih =>
    cases hstep with
    | mk j r x => exact (confines_merge c j r v.store).workOf ih

-- What absorbs a content still does when stores have grown.
theorem Grows.absorbs {k : Content} (h : Grows s t) (habsorbs : (s.content c).Absorbs k) (hheld : s.AllHeld) :
    (t.content c).Absorbs k where
  covers p hp := by
    obtain ⟨existing, hget, hmode⟩ := habsorbs.covers p hp
    rw [get?_content] at hget
    obtain ⟨id, hid, rfl⟩ := Option.map_eq_some_iff.mp hget
    have hlt : id < s.params.size := hheld c id (Entries.mem_values_of_get? hid)
    exact (CoversHeld.grows ⟨id, hlt, hid, hmode⟩ h).covers
  has key hkey := h.properties c key (habsorbs.has key hkey)

/-- An interface that has been merged into a contract is not merged again.  Whatever has been merged into the contract
since, merging the interface again, through whatever reference, changes nothing at all; and the same holds after merges
into any other contracts, if the interface still passes on what it did. -/
theorem merging_again_changes_nothing (c i : ContractId) (ref ref' : Reference) (u v : Work)
    (hc : c < u.store.contracts.size) (hne : i ≠ c) (hheld : u.store.AllHeld)
    (hplain : ∀ id ∈ (u.store.contract i).paramIds, (u.store.param id).mode.base = (u.store.param id).mode)
    (hapart : ∀ id ∈ (u.store.contract i).paramIds, id ∉ (u.store.contract c).paramIds)
    (h : merge c i ref u = .ok () v) :
    (∀ w, ReflTransGen (MergesInto c) v w → merge c i ref' w = .ok () w) ∧
      ∀ w, ReflTransGen Merges v w → w.store.content i = v.store.content i → merge c i ref' w = .ok () w := by
  have habsorbs : (v.store.content c).Absorbs (v.store.content i) :=
    absorbs_of_merge hc hne hheld hplain hapart h
  have hheld' : v.store.AllHeld := (keptByActions_allHeld.keptByMerging.merge c i ref).of_ok hheld h
  have hagain : ∀ w, ReflTransGen Merges v w → w.store.content i = v.store.content i →
      merge c i ref' w = .ok () w := by
    intro w hmerges hsame
    refine merge_of_absorbs ?_ ref'
    rw [hsame]
    exact (grows_of_merges hmerges).absorbs habsorbs hheld'
  refine ⟨fun w hmerges => ?_, hagain⟩
  have hany : ReflTransGen Merges v w := ReflTransGen.mono (fun _ _ hstep => ⟨c, hstep⟩) v w hmerges
  refine hagain w hany ?_
  have htouches : Touches c u.store v.store := touches_of_ok (confines_merge c i ref) h
  have hapart' : ∀ id ∈ (v.store.contract i).paramIds, id ∉ (v.store.contract c).paramIds := by
    intro id hid hown
    rw [htouches.others i hne] at hid
    exact hapart id hid (htouches.held id hown (hheld i id hid))
  exact (touches_of_mergesInto hmerges).content_of_apart hne (hheld' i) hapart'

/-! ## 4. An example -/

namespace Postal

-- Identifiers of an order and of an audit, and remarks that go in and out.
def params : Store :=
  (((({} : Store).pushParam { name := "id" }).pushParam { name := "id", mode := .output, optional := true }).pushParam
    { name := "remark" }).pushParam { name := "remark", mode := .output }

def order : Contract := { info := { name := "order" } }

def audit : Contract := { info := { name := "audit" }, properties := [("kept", .bool true)] }

def post : Contract := { info := { name := "post" }, properties := [("kept", .bool false)] }

def store : Store := ((params.build order [0]).build audit [1, 2]).build post [3]

end Postal

-- The remark that the order has from the audit comes to go both ways before the audit is merged again.
theorem merging_again_changes_nothing_sample :
    ∃ v, merge 0 1 { serviceName := "audit", optional := true } { store := Postal.store } = .ok () v ∧
      let w := workOf (merge 0 2 { serviceName := "post" } v)
      merge 0 1 { serviceName := "audit" } w = .ok () w ∧
        (w.store.content 0).params.map (fun e => (e.1, e.2.mode, e.2.optional))
          = [("id", .both, true), ("remark", .both, true)] := by
  have hheld : Postal.store.AllHeld := allHeld_of_lt (by decide)
  refine ⟨_, rfl, ?_, by decide⟩
  exact (merging_again_changes_nothing 0 1 { serviceName := "audit", optional := true } { serviceName := "audit" }
    { store := Postal.store } _ (by decide) (by decide) hheld (by decide) (by decide) rfl).1 _
    (.single (.mk 2 { serviceName := "post" } _))

end CallContract.Resolution
