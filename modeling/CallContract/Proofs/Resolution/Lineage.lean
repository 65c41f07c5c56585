import CallContract.Proofs.Naming
import CallContract.Proofs.Resolution.History

/-!
# Lineage — no inherited parameter and no direction is lost

A contract that merges an interface afterwards has every parameter of the interface, and takes part in every direction
in which the interface does.  Later merges only widen, and patches touch nothing but the names that they carry.  So a
parameter comes down any chain of references on which no patch names it, whatever calls have been refused on the way.
-/

namespace CallContract.Resolution

open Relation

variable {d : Directory} {s t : Store} {c i a : ContractId} {w : Work}

/-! ## 1. Patches of other names -/

theorem covers_applyPatch {k : Content} {patch : Patch} {p : Param} (hk : k.ByName) (h : k.Covers p)
    (hne : patch.name ≠ p.name) : (k.applyPatch patch).Covers p := by
  obtain ⟨existing, he, hm⟩ := h
  unfold Content.applyPatch
  cases hget : Entries.get? patch.name k.params with
  | none => exact ⟨existing, he, hm⟩
  | some q =>
    -- What is put back has the name that has been taken out.
    have hq : q.name ≠ p.name := by
      rw [hk.name_of_get? hget]
      exact hne
    refine ⟨existing, ?_, hm⟩
    rw [Entries.get?_put, if_neg hq, Entries.get?_erase_of_ne hne, he]

theorem covers_foldl_applyPatch {k : Content} {patches : List Patch} {p : Param} (hk : k.ByName) (h : k.Covers p)
    (hne : ∀ patch ∈ patches, patch.name ≠ p.name) : (patches.foldl Content.applyPatch k).Covers p := by
  induction patches generalizing k with
  | nil => exact h
  | cons patch rest ih =>
    apply ih (Content.byName_applyPatch hk patch)
    · exact covers_applyPatch hk h (hne patch List.mem_cons_self)
    · exact fun q hq => hne q (List.mem_cons_of_mem patch hq)

/-! ## 2. Names on the way -/

theorem byName_blend (h : (s.content c).ByName) (refs : List Reference) : (blend d s t c refs).ByName := by
  have hfold : ∀ k : Content, k.ByName → (refs.foldl (mergeReference d s t c) k).ByName := by
    induction refs with
    | nil => exact fun k hk => hk
    | cons ref rest ih =>
      intro k hk
      apply ih
      unfold mergeReference
      cases interface? d s c ref with
      | none => exact hk
      | some i => exact Content.byName_merge hk ref _
  exact hfold _ h

/-- A contract that is resolved after some calls holds its parameters under their names if it did so before. -/
theorem Advances.byName (h : Advances d s t) (hnames : s.AllByName) (hc : (t.contract c).resolved = true) :
    (t.content c).ByName := by
  have hstart : (s.content c).ByName := Content.byName_content (hnames c)
  cases hs : (s.contract c).resolved with
  | true =>
    rw [h.merged.kept c hs]
    exact hstart
  | false =>
    rw [h.merged.finished c hs hc]
    exact Content.byName_foldl_applyPatch (byName_blend hstart _) _

/-! ## 3. One reference, and chains of them -/

/-- One of the references of a contract stands for an interface, which is merged when the contract is resolved. -/
structure Inherits (d : Directory) (s : Store) (c i : ContractId) : Prop where
  unresolved : (s.contract c).resolved = false
  reference : ∃ ref ∈ expandedReferences d (s.contract c), interface? d s c ref = some i

/-- A contract inherits from an interface and has no patch for a name. -/
structure HandsDown (d : Directory) (s : Store) (name : String) (c i : ContractId) : Prop where
  inherits : Inherits d s c i
  unpatched : ∀ patch ∈ (s.contract c).patches, patch.name ≠ name

theorem Inherits.resolved (h : Inherits d s c i) (hp : Progress d s t) (hc : (t.contract c).resolved = true) :
    (t.contract i).resolved = true :=
  (hp.finished c h.unresolved hc).leads i (Or.inr h.reference)

-- The interface is absorbed by the blend, and the patches leave the name alone.
theorem HandsDown.covers {p : Param} (h : HandsDown d s p.name c i) (hadvances : Advances d s t)
    (hnames : s.AllByName) (hc : (t.contract c).resolved = true) (hp : p ∈ Entries.values (t.content i).params) :
    (t.content c).Covers p := by
  obtain ⟨ref, href, hi⟩ := h.inherits.reference
  have hblend : (blend d s t c (expandedReferences d (s.contract c))).Covers p :=
    (absorbsAll_blend d s t c _ ref href i hi).covers p hp
  rw [hadvances.merged.finished c h.inherits.unresolved hc]
  apply covers_foldl_applyPatch (byName_blend (Content.byName_content (hnames c)) _) hblend
  exact h.unpatched

theorem covers_of_handsDown {p : Param} (h : ReflTransGen (HandsDown d s p.name) c a) (hadvances : Advances d s t)
    (hnames : s.AllByName) (hc : (t.contract c).resolved = true) :
    (t.contract a).resolved = true ∧ (p ∈ Entries.values (t.content a).params → (t.content c).Covers p) := by
  induction h using ReflTransGen.head_induction_on with
  | refl =>
    refine ⟨hc, fun hp => ⟨p, ?_, Or.inl rfl⟩⟩
    exact (hadvances.byName hnames hc).get?_name hp
  | @head c i hfirst _ ih =>
    have hi : (t.contract i).resolved = true := hfirst.inherits.resolved hadvances.progress hc
    obtain ⟨ha, hcovers⟩ := ih hi
    refine ⟨ha, fun hp => ?_⟩
    obtain ⟨q, hq, hqmode⟩ := hcovers hp
    -- The interface has a parameter of that name, which the contract covers in turn.
    have hqname : q.name = p.name := (hadvances.byName hnames hi).name_of_get? hq
    have hfirst' : HandsDown d s q.name c i := hqname.symm ▸ hfirst
    obtain ⟨r, hr, hrmode⟩ := hfirst'.covers hadvances hnames hc (Entries.mem_values_of_get? hq)
    refine ⟨r, hqname ▸ hr, ?_⟩
    rcases hrmode with hrmode | hrmode
    · exact hqmode.imp hrmode.trans hrmode.trans
    · exact Or.inr hrmode

/-! ## 4. Directions -/

-- A parameter with the same mode, or with both directions, takes part wherever the other one does.
theorem takesPartIn_of_mode {mode mode' : Mode} (h : mode' = mode ∨ mode' = .both) (direction : Mode)
    (hp : mode.takesPartIn direction = true) : mode'.takesPartIn direction = true := by
  rcases h with rfl | rfl
  · exact hp
  · simp [Mode.takesPartIn]

/-- Where no parameter is shared and parameters stand under their names, take any contract that is resolved after a
sequence of calls, refused ones among them, and any chain of references from it on which no patch carries a name.  The
contract at the end of the chain is resolved, and the first one has, under that name, every parameter of that name of
the last one, in the same mode or in both directions. -/
theorem inherited_never_lost (d : Directory) (calls : List Call) (w : Work) (c a : ContractId) (name : String)
    (hs : WellFormed d.registry w.store) (hunshared : w.store.Unshared) (hnames : w.store.AllByName)
    (hcalls : ∀ call ∈ calls, call.root < w.store.contracts.size)
    (hresolved : ((after d calls w).store.contract c).resolved = true)
    (hchain : ReflTransGen (HandsDown d w.store name) c a) :
    let t := (after d calls w).store
    (t.contract a).resolved = true ∧
      ∀ p ∈ t.paramsOf (t.contract a), p.name = name →
        ∃ id, Entries.get? name (t.contract c).params = some id ∧ (t.param id).name = name ∧
          ((t.param id).mode = p.mode ∨ (t.param id).mode = .both) ∧
          ∀ direction, p.mode.takesPartIn direction = true → (t.param id).mode.takesPartIn direction = true := by
  intro t
  have hadvances : Advances d w.store t := (Advances.refl hs hunshared).after hcalls
  have hlast : (t.contract a).resolved = true :=
    (covers_of_handsDown (p := { name }) hchain hadvances hnames hresolved).1
  refine ⟨hlast, fun p hp hpname => ?_⟩
  subst hpname
  have hp' : p ∈ Entries.values (t.content a).params := by
    rw [Store.content, Entries.values_mapValues]
    exact hp
  obtain ⟨q, hq, hmode⟩ := (covers_of_handsDown hchain hadvances hnames hresolved).2 hp'
  have hqname : q.name = p.name := (hadvances.byName hnames hresolved).name_of_get? hq
  rw [get?_content] at hq
  obtain ⟨id, hid, rfl⟩ := Option.map_eq_some_iff.mp hq
  exact ⟨id, hid, hqname, hmode, takesPartIn_of_mode hmode⟩

/-! ## 5. An example -/

theorem Sample.allByName : Sample.store.AllByName := by
  have hparams : Sample.params.AllByName := by
    intro c
    rw [Store.contract_of_size_le (Nat.zero_le c)]
    exact Entries.NamedBy.nil
  exact ((((hparams.build _ _).build _ _).build _ _).build _ _).build _ _

-- The order inherits from the customer, and that from the party.
theorem Sample.handsDown (name : String) : ReflTransGen (HandsDown Sample.directory Sample.store name) 1 4 := by
  have horder : Inherits Sample.directory Sample.store 1 3 := ⟨rfl, { serviceName := "customer" }, by decide, by decide⟩
  have hcustomer : Inherits Sample.directory Sample.store 3 4 := ⟨rfl, { serviceName := "party" }, by decide, by decide⟩
  have hnone : ∀ patch ∈ ([] : List Patch), patch.name ≠ name := fun _ h => absurd h List.not_mem_nil
  exact .tail (.single ⟨horder, hnone⟩) ⟨hcustomer, hnone⟩

-- The order is refused at the party first, and has the name of the party after a later call.
theorem inherited_never_lost_sample :
    let t := (after Sample.directory [⟨1, 2⟩, ⟨1, 5⟩] { store := Sample.store }).store
    (t.contract 1).resolved = true ∧
      ∃ id, Entries.get? "name" (t.contract 1).params = some id ∧ (t.param id).mode.takesPartIn .input = true := by
  intro t
  let w : Work := { store := Sample.store }
  have hlt : ∀ call ∈ ([⟨1, 2⟩, ⟨1, 5⟩] : List Call), call.root < w.store.contracts.size := by decide
  have hstart : Advances Sample.directory w.store w.store := Advances.refl Sample.wellFormed Sample.unshared
  have hadvances : Advances Sample.directory w.store t := hstart.after hlt
  have hresolved : (t.contract 1).resolved = true := by
    have hrefused : Advances Sample.directory w.store (after Sample.directory [⟨1, 2⟩] w).store :=
      hstart.after (by decide)
    obtain ⟨v, hv, hreached⟩ :=
      hrefused.progress.resolve_of_grounded 5 Sample.wellFormed (by decide) Sample.grounded (by decide)
    have hlast : t = v.store := congrArg (fun r => (workOf r).store) hv
    rw [hlast]
    exact hreached 1 .refl
  obtain ⟨hparty, hkept⟩ := inherited_never_lost Sample.directory [⟨1, 2⟩, ⟨1, 5⟩] w 1 4 "name" Sample.wellFormed
    Sample.unshared Sample.allByName hlt hresolved (Sample.handsDown "name")
  -- The party has no interfaces and no patches, so it passes on what it has had from the first.
  have hcontent : t.content 4 = Sample.store.content 4 := hadvances.merged.finished 4 rfl hparty
  have hname : ({ name := "name" } : Param) ∈ t.paramsOf (t.contract 4) := by
    have hvalues : t.paramsOf (t.contract 4) = Entries.values (t.content 4).params :=
      (Entries.values_mapValues _ _).symm
    rw [hvalues, hcontent]
    exact List.mem_singleton.mpr rfl
  obtain ⟨id, hid, _, _, hdirections⟩ := hkept _ hname rfl
  exact ⟨hresolved, id, hid, hdirections .input rfl⟩

end CallContract.Resolution
