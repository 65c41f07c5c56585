import CallContract.Proofs.Resolution.History

/-!
# Occurrences — what merging interfaces makes of each name

Interfaces are merged one after the other, and each of them widens in place what is there.  What this comes to can be
told for each name from its occurrences alone: the first one gives the parameter, later ones do nothing but make its
direction both, and only the first of them whose direction differs has a say in whether the parameter is optional.

## Main statements

* `Content.mergeAll_mergeOf`: the closed form of merging any number of contents.
* `merge_closed_form`: a contract that follows its references comes to this closed form before it is patched, and so does
  every contract on which a resolution works, whatever calls came before.
-/

namespace CallContract

open Resolution

namespace Content

/-! ## 1. The closed form -/

-- The contents of interfaces in the order in which they are merged, each with the reference that stands for it.
abbrev Sources := List (Reference × Content)

/-- The parameters that interfaces pass on, in order, each with the reference through which it comes. -/
def offers (sources : Sources) : List (Reference × Param) :=
  sources.flatMap fun source => (Entries.values source.2.params).map (source.1, ·)

/-- The occurrences of a name among parameters that are passed on. -/
def occurrences (name : String) (offered : List (Reference × Param)) : List (Reference × Param) :=
  offered.filter fun offer => offer.2.name = name

/-- The first occurrence of a name after all later ones: the first of these that has another direction makes the
direction both, and then the parameter is optional if either is. -/
def widenedBy (base : Param) (later : List Param) : Param :=
  if base.mode = .both then base
  else match later.find? fun p => p.mode ≠ base.mode with
    | some p => { base with mode := .both, optional := base.optional || p.optional }
    | none => base

/-- The parameter of a name: its first occurrence is the one that is there, or else a copy of the first that is passed
on. -/
def resulting? (k : Content) (offered : List (Reference × Param)) (name : String) : Option Param :=
  match Entries.get? name k.params, occurrences name offered with
  | some base, later => some (widenedBy base (later.map (·.2)))
  | none, (ref, first) :: later => some (widenedBy (inherited ref first) (later.map (·.2)))
  | none, [] => none

-- The names that are passed on and that are not there yet, in order of their first occurrence.
def newNames (present : List String) (offered : List (Reference × Param)) : List String :=
  ((offered.map (·.2.name)).filter (· ∉ present)).eraseDups

/-- The content is what merging interfaces into another content amounts to. -/
structure MergeOf (k : Content) (sources : Sources) (m : Content) : Prop where
  names_eq : Entries.keys m.params = Entries.keys k.params ++ newNames (Entries.keys k.params) (offers sources)
  param_eq : ∀ name, Entries.get? name m.params = resulting? k (offers sources) name
  /-- A property is the one that is there, or else that of the first interface that has it. -/
  property_eq : ∀ key, Entries.get? key m.properties
    = (Entries.get? key k.properties).or (sources.findSome? fun source => Entries.get? key source.2.properties)

/-- Merges interfaces one after the other. -/
def mergeAll (k : Content) (sources : Sources) : Content :=
  sources.foldl (fun k source => k.merge source.1 source.2) k

/-! ## 2. Merging as taking parameters one by one -/

def takeAll (k : Content) (offered : List (Reference × Param)) : Content :=
  offered.foldl (fun k offer => k.take offer.1 offer.2) k

variable {k : Content}

-- Taking parameters does not look at properties.
theorem params_takeAll_congr {k' : Content} (h : k'.params = k.params) (offered : List (Reference × Param)) :
    (k'.takeAll offered).params = (k.takeAll offered).params := by
  induction offered generalizing k k' with
  | nil => exact h
  | cons offer rest ih =>
    refine ih ?_
    change (k'.take offer.1 offer.2).params = (k.take offer.1 offer.2).params
    rw [take, take, h]

theorem params_merge (k : Content) (ref : Reference) (i : Content) :
    (k.merge ref i).params = (k.takeAll (offers [(ref, i)])).params := by
  have hoffers : offers [(ref, i)] = (Entries.values i.params).map (ref, ·) := List.flatMap_singleton ..
  rw [merge, takeProperties, takeAll, hoffers, List.foldl_map]

theorem params_mergeAll (k : Content) (sources : Sources) :
    (k.mergeAll sources).params = (k.takeAll (offers sources)).params := by
  induction sources generalizing k with
  | nil => rfl
  | cons source rest ih =>
    have hoffers : offers (source :: rest) = offers [source] ++ offers rest := by simp [offers]
    have hmerged := ih (k.merge source.1 source.2)
    rw [params_takeAll_congr (params_merge k source.1 source.2)] at hmerged
    rw [hoffers, takeAll, List.foldl_append]
    exact hmerged

theorem get?_properties_merge (k : Content) (ref : Reference) (i : Content) (key : String) :
    Entries.get? key (k.merge ref i).properties
      = (Entries.get? key k.properties).or (Entries.get? key i.properties) := by
  rw [properties_merge, Entries.get?_append]
  cases hk : Entries.get? key k.properties with
  | some v => rfl
  | none =>
    have hnew : (!Entries.has key k.properties) = true := by simp [Entries.has, hk]
    rw [Entries.get?_filter fun _ => hnew]

theorem get?_properties_mergeAll (k : Content) (sources : Sources) (key : String) :
    Entries.get? key (k.mergeAll sources).properties
      = (Entries.get? key k.properties).or (sources.findSome? fun source => Entries.get? key source.2.properties) := by
  induction sources generalizing k with
  | nil => exact Option.or_none.symm
  | cons source rest ih =>
    have hmerged := ih (k.merge source.1 source.2)
    rw [get?_properties_merge, Option.or_assoc] at hmerged
    rw [List.findSome?_cons]
    cases hfirst : Entries.get? key source.2.properties with
    | some v =>
      rw [hfirst] at hmerged
      exact hmerged
    | none =>
      rw [hfirst] at hmerged
      exact hmerged

/-! ## 3. The closed form holds -/

-- One widening and the later ones together are the widenings by all occurrences.
theorem widenedBy_cons (base p : Param) (later : List Param) :
    widenedBy base (p :: later) = widenedBy (widen base p) later := by
  by_cases hboth : base.mode = .both
  · have hkept : widen base p = base := widen_of_mode (.inr hboth)
    rw [hkept, widenedBy, widenedBy, if_pos hboth, if_pos hboth]
  · by_cases hmode : p.mode = base.mode
    · have hkept : widen base p = base := widen_of_mode (.inl hmode.symm)
      rw [hkept, widenedBy, widenedBy, if_neg hboth, if_neg hboth, List.find?_cons_of_neg (by simp [hmode])]
    · have hwidened : widen base p = { base with mode := .both, optional := base.optional || p.optional } := by
        rw [widen, if_pos ⟨Ne.symm hmode, hboth⟩]
      rw [hwidened, widenedBy, widenedBy, if_neg hboth, if_pos rfl, List.find?_cons_of_pos (by simp [hmode])]

theorem get?_take (k : Content) (ref : Reference) (p : Param) (name : String) :
    Entries.get? name (k.take ref p).params
      = if p.name = name then some (combined ref p (Entries.get? name k.params)) else Entries.get? name k.params := by
  rw [take, Entries.get?_put]
  by_cases hname : p.name = name
  · rw [if_pos hname, if_pos hname, hname]
  · rw [if_neg hname, if_neg hname]

-- What has been taken counts as the first occurrence of its name from then on.
theorem resulting?_take (k : Content) (ref : Reference) (p : Param) (rest : List (Reference × Param)) (name : String) :
    resulting? (k.take ref p) rest name = resulting? k ((ref, p) :: rest) name := by
  by_cases hname : p.name = name
  · have hoccurs : occurrences name ((ref, p) :: rest) = (ref, p) :: occurrences name rest :=
      List.filter_cons_of_pos (decide_eq_true hname)
    rw [resulting?, resulting?, get?_take, if_pos hname, hoccurs]
    cases Entries.get? name k.params with
    | some base => exact congrArg some (widenedBy_cons base p _).symm
    | none => rfl
  · have hoccurs : occurrences name ((ref, p) :: rest) = occurrences name rest :=
      List.filter_cons_of_neg (by simpa using hname)
    rw [resulting?, resulting?, get?_take, if_neg hname, hoccurs]

theorem get?_takeAll (k : Content) (offered : List (Reference × Param)) (name : String) :
    Entries.get? name (k.takeAll offered).params = resulting? k offered name := by
  induction offered generalizing k with
  | nil =>
    change Entries.get? name k.params = _
    rw [resulting?]
    cases Entries.get? name k.params with
    | none => rfl
    | some base =>
      change some base = some (widenedBy base [])
      rw [widenedBy, List.find?_nil, ite_self]
  | cons offer rest ih => exact (ih (k.take offer.1 offer.2)).trans (resulting?_take k offer.1 offer.2 rest name)

theorem keys_takeAll (k : Content) (offered : List (Reference × Param)) :
    Entries.keys (k.takeAll offered).params
      = Entries.keys k.params ++ newNames (Entries.keys k.params) offered := by
  induction offered generalizing k with
  | nil => exact (List.append_nil _).symm
  | cons offer rest ih =>
    obtain ⟨ref, p⟩ := offer
    refine (ih (k.take ref p)).trans ?_
    rw [take, Entries.keys_put, newNames, newNames, List.map_cons]
    by_cases hname : p.name ∈ Entries.keys k.params
    · rw [if_pos hname, List.filter_cons_of_neg (by simpa using hname)]
    · -- The new name stands first, and its later occurrences are not counted again.
      rw [if_neg hname, List.filter_cons_of_pos (by simpa using hname), List.eraseDups_cons, List.append_assoc,
        List.filter_filter]
      have hlater : ∀ name : String, decide (name ∉ Entries.keys k.params ++ [p.name])
          = ((!(name == p.name)) && decide (name ∉ Entries.keys k.params)) := by
        intro name
        rw [Bool.eq_iff_iff]
        simp [and_comm]
      rw [List.filter_congr fun name _ => hlater name]
      rfl

/-- Merging contents one after the other gives the closed form. -/
theorem mergeAll_mergeOf (k : Content) (sources : Sources) : MergeOf k sources (k.mergeAll sources) where
  names_eq := by rw [params_mergeAll, keys_takeAll]
  param_eq name := by rw [params_mergeAll, get?_takeAll]
  property_eq := get?_properties_mergeAll k sources

end Content

/-! ## 4. The contract that is resolved -/

namespace Resolution

variable {d : Directory} {limit : Int} {s t : Store} {c root : ContractId}

/-- The contents of the interfaces for which references stand, missing ones left out. -/
def sources (d : Directory) (s t : Store) (c : ContractId) (refs : List Reference) : Content.Sources :=
  refs.filterMap fun ref => (interface? d s c ref).map fun i => (ref, t.content i)

theorem blend_eq_mergeAll (d : Directory) (s t : Store) (c : ContractId) (refs : List Reference) :
    blend d s t c refs = (s.content c).mergeAll (sources d s t c refs) := by
  rw [Content.mergeAll, sources, List.foldl_filterMap]
  refine List.foldl_ext _ _ _ fun k ref _ => ?_
  unfold mergeReference
  cases interface? d s c ref <;> rfl

/-- An unresolved contract can merge the interfaces for which references stand: they are resolved, and it shares no
parameter with them. -/
structure ReadyToMerge (d : Directory) (s : Store) (c : ContractId) (refs : List Reference) : Prop where
  wellFormed : WellFormed d.registry s
  held : c < s.contracts.size
  unresolved : (s.contract c).resolved = false
  distinct : (s.contract c).paramIds.Nodup
  resolved : ∀ ref ∈ refs, ∀ i, interface? d s c ref = some i → (s.contract i).resolved = true
  apart : ∀ ref ∈ refs, ∀ i, interface? d s c ref = some i →
    ∀ id ∈ (s.contract i).paramIds, id ∉ (s.contract c).paramIds

namespace ReadyToMerge

variable {ref : Reference} {refs : List Reference} {w : Work}

theorem tail (h : ReadyToMerge d s c (ref :: refs)) : ReadyToMerge d s c refs :=
  { h with
    resolved := fun r hr => h.resolved r (List.mem_cons_of_mem ref hr)
    apart := fun r hr => h.apart r (List.mem_cons_of_mem ref hr) }

theorem content_eq (h : ReadyToMerge d s c refs) (hedits : Edits d.registry c s t) {r : Reference} (hr : r ∈ refs)
    {i : ContractId} (hi : interface? d s c r = some i) : t.content i = s.content i :=
  hedits.content_of_apart h.wellFormed (ne_of_resolved (h.resolved r hr i hi) h.unresolved) (h.apart r hr i hi)

theorem edit (h : ReadyToMerge d s c refs) (hedits : Edits d.registry c s t) (hsame : SameStanding c s t) :
    ReadyToMerge d t c refs := by
  have hevolves : Evolves d s t := Evolves.of_sameStanding hedits h.unresolved hsame
  have hothers : ∀ r ∈ refs, ∀ i, interface? d t c r = some i →
      interface? d s c r = some i ∧ t.contract i = s.contract i := by
    intro r hr i hi
    rw [hevolves.interface?_eq] at hi
    exact ⟨hi, hedits.others i (ne_of_resolved (h.resolved r hr i hi) h.unresolved)⟩
  refine ⟨hedits.wellFormed, hedits.size_eq ▸ h.held, hsame.resolved_eq.trans h.unresolved, hedits.nodup h.distinct,
    fun r hr i hi => ?_, fun r hr i hi id hid => ?_⟩
  · obtain ⟨hi, hsame⟩ := hothers r hr i hi
    rw [hsame]
    exact h.resolved r hr i hi
  · obtain ⟨hi, hsame⟩ := hothers r hr i hi
    rw [hsame] at hid
    exact (hedits.foreign id (h.wellFormed.params_held i id hid) (h.apart r hr i hi id hid)).2

-- A resolved interface needs no call, so that it is merged next.
theorem step_toMerge (h : ReadyToMerge d w.store c (ref :: refs)) {i : ContractId}
    (hi : interface? d w.store c ref = some i) (below : List Frame) :
    Step d limit ⟨⟨c, .follow (ref :: refs)⟩ :: below, w⟩ ⟨⟨c, .mergeThen i ref refs⟩ :: below, w⟩ := by
  have hresolved := h.resolved ref List.mem_cons_self i hi
  rcases target_of_interface? hi with htarget | htarget
  · refine step_of_stay ?_ ?_
    · rw [effect_follow, htarget]
      rfl
    · rw [move_follow, htarget]
  · refine step_of_stay ?_ ?_
    · rw [effect_follow, htarget]
      rfl
    · rw [move_follow, htarget]
      exact callIfNeeded_of_resolved _ hresolved

theorem step_missing (limit : Int) (hi : interface? d w.store c ref = none) (refs : List Reference)
    (below : List Frame) :
    ∃ w', Step d limit ⟨⟨c, .follow (ref :: refs)⟩ :: below, w⟩ ⟨⟨c, .follow refs⟩ :: below, w'⟩ ∧
      w'.store = w.store := by
  have htarget := target_of_interface?_eq_none hi
  refine ⟨w.warn (.missingInterface (w.store.contract c).name ref.serviceName), step_of_stay ?_ ?_, rfl⟩
  · rw [effect_follow, htarget]
    rfl
  · rw [move_follow, htarget]

-- One reference: its interface is merged if there is one.
theorem follow_one (limit : Int) (h : ReadyToMerge d w.store c (ref :: refs)) (below : List Frame) :
    ∃ w', Reaches d limit ⟨⟨c, .follow (ref :: refs)⟩ :: below, w⟩ ⟨⟨c, .follow refs⟩ :: below, w'⟩ ∧
      Edits d.registry c w.store w'.store ∧ SameStanding c w.store w'.store ∧
      w'.store.content c = mergeReference d w.store w.store c (w.store.content c) ref := by
  unfold mergeReference
  cases hi : interface? d w.store c ref with
  | none =>
    obtain ⟨w', hstep, hstore⟩ := step_missing limit hi refs below
    refine ⟨w', .single hstep, ?_, ?_, ?_⟩ <;> rw [hstore]
    · exact Edits.refl c h.wellFormed
    · exact SameStanding.refl c _
  | some i =>
    have hic : i ≠ c := ne_of_resolved (h.resolved ref List.mem_cons_self i hi) h.unresolved
    obtain ⟨w', hw', hedits, hsame, hcontent⟩ := merge_spec h.wellFormed h.held hic ref
    have hmerge : Step d limit ⟨⟨c, .mergeThen i ref refs⟩ :: below, w⟩ ⟨⟨c, .follow refs⟩ :: below, w'⟩ :=
      step_of_stay hw' rfl
    exact ⟨w', .head (h.step_toMerge hi below) (.single hmerge), hedits, hsame,
      hcontent h.distinct (h.apart ref List.mem_cons_self i hi)⟩

/-- All references: the contract takes the contents of their interfaces in order. -/
theorem follow_all (limit : Int) (h : ReadyToMerge d w.store c refs) (below : List Frame) :
    ∃ w', Reaches d limit ⟨⟨c, .follow refs⟩ :: below, w⟩ ⟨⟨c, .follow []⟩ :: below, w'⟩ ∧
      w'.store.content c = blend d w.store w.store c refs := by
  induction refs generalizing w with
  | nil => exact ⟨w, .refl, rfl⟩
  | cons ref refs ih =>
    obtain ⟨v, hv, hedits, hsame, hone⟩ := h.follow_one limit below
    have hevolves : Evolves d w.store v.store := Evolves.of_sameStanding hedits h.unresolved hsame
    obtain ⟨w', hw', hrest⟩ := ih (h.tail.edit hedits hsame)
    refine ⟨w', hv.trans hw', ?_⟩
    rw [hrest, blend, hone, blend, List.foldl_cons]
    refine List.foldl_ext _ _ _ fun k r hr => ?_
    rw [mergeReference, mergeReference, hevolves.interface?_eq]
    cases hi : interface? d w.store c r with
    | none => rfl
    | some i => exact congrArg (k.merge r) (h.content_eq hedits (List.mem_cons_of_mem ref hr) hi)

end ReadyToMerge

-- A resolution whose root is resolved works on no contract.
theorem unresolved_of_reaches_follow {w w' : Work} {refs : List Reference} {below : List Frame}
    (h : Reaches d limit ⟨[⟨root, .start⟩], w⟩ ⟨⟨c, .follow refs⟩ :: below, w'⟩) :
    (w.store.contract root).resolved = false := by
  by_contra hne
  have hresolved : (w.store.contract root).resolved = true := by simpa using hne
  rcases Relation.ReflTransGen.cases_head h with heq | ⟨y, hy, hrest⟩
  · cases heq
  · cases step_right_unique hy (.mk (stepStack_start_of_resolved hresolved))
    rcases Relation.ReflTransGen.cases_head hrest with heq | ⟨z, hz, -⟩
    · cases heq
    · exact not_step_nil hz

/-- The closed form of inheritance.  A contract that is ready to merge goes through all of its references and then has
what merging their interfaces amounts to.  Where no parameter is shared, each contract that a resolution is about to
complete has what merging all of its interfaces into its first content amounts to, whatever calls came before. -/
theorem merge_closed_form (d : Directory) (limit : Int) :
    (∀ (c : ContractId) (refs : List Reference) (below : List Frame) (w : Work), ReadyToMerge d w.store c refs →
      ∃ w', Reaches d limit ⟨⟨c, .follow refs⟩ :: below, w⟩ ⟨⟨c, .follow []⟩ :: below, w'⟩ ∧
        Content.MergeOf (w.store.content c) (sources d w.store w.store c refs) (w'.store.content c)) ∧
    (∀ (calls : List Call) (root c : ContractId) (below : List Frame) (w w' : Work), WellFormed d.registry w.store →
      w.store.Unshared → (∀ call ∈ calls, call.root < w.store.contracts.size) → root < w.store.contracts.size →
      Reaches d limit ⟨[⟨root, .start⟩], after d calls w⟩ ⟨⟨c, .follow []⟩ :: below, w'⟩ →
      (∀ ref ∈ expandedReferences d (w.store.contract c), ∀ i, interface? d w.store c ref = some i →
        (w'.store.contract i).resolved = true) ∧
      Content.MergeOf (w.store.content c)
        (sources d w.store w'.store c (expandedReferences d (w.store.contract c))) (w'.store.content c)) := by
  refine ⟨fun c refs below w h => ?_, fun calls root c below w w' hs hu hcalls hroot hreaches => ?_⟩
  · obtain ⟨w', hreaches, hcontent⟩ := h.follow_all limit below
    refine ⟨w', hreaches, ?_⟩
    rw [hcontent, blend_eq_mergeAll]
    exact Content.mergeAll_mergeOf _ _
  · have hadvances : Advances d w.store (after d calls w).store := (Advances.refl hs hu).after hcalls
    have hsound := Sound.start hadvances.progress hroot (unresolved_of_reaches_follow hreaches)
    obtain ⟨hresolved, hcontent⟩ :=
      ((Merging.start hadvances.merged).reaches hsound hreaches).gathered (hsound.reaches hreaches)
    refine ⟨hresolved, ?_⟩
    rw [hcontent, blend_eq_mergeAll]
    exact Content.mergeAll_mergeOf _ _

namespace Inheriting

-- Two names, each of which is passed on in another direction too.
def params : Store :=
  (((({} : Store).pushParam { name := "id" }).pushParam { name := "id", mode := .output, optional := true }).pushParam
    { name := "note" }).pushParam { name := "note", mode := .output }

def order : Contract :=
  { info := { name := "order" }, declared := [{ serviceName := "audit", optional := true }, { serviceName := "party" }] }

def audit : Contract := { info := { name := "audit" }, resolved := true }

def party : Contract := { info := { name := "party" }, resolved := true }

/-- An order whose interfaces are resolved. -/
def store : Store := ((params.build order [0]).build audit [1, 2]).build party [3]

def directory : Directory where
  registry := { contracts := [("order", 0), ("audit", 1), ("party", 2)] }

theorem wellFormed : WellFormed directory.registry store := .of_lt (by decide) (by decide) (by decide)

theorem unshared : store.Unshared := Store.unshared_of_lt (by decide)

theorem readyToMerge : ReadyToMerge directory store 0 order.declared := by
  have hinterfaces : ∀ ref ∈ order.declared, ∀ i ∈ interface? directory store 0 ref,
      (store.contract i).resolved = true ∧ ∀ id ∈ (store.contract i).paramIds, id ∉ (store.contract 0).paramIds := by
    decide
  exact ⟨wellFormed, by decide, rfl, by decide, fun ref href i hi => (hinterfaces ref href i hi).1,
    fun ref href i hi => (hinterfaces ref href i hi).2⟩

-- The order begins to follow what it declares.
theorem reaches_follow : Reaches directory 10 ⟨[⟨0, .start⟩], { store }⟩ ⟨[⟨0, .follow order.declared⟩], { store }⟩ :=
  .head (.mk rfl) (.single (.mk rfl))

end Inheriting

-- Both names of the order come to go both ways and to be optional, the one through the parameter that is inherited and
-- the other through the reference.
theorem merge_closed_form_sample :
    ∃ w', Reaches Inheriting.directory 10 ⟨[⟨0, .start⟩], { store := Inheriting.store }⟩ ⟨[⟨0, .follow []⟩], w'⟩ ∧
      Entries.keys (w'.store.content 0).params = ["id", "note"] ∧
      (∀ name ∈ ["id", "note"], (Entries.get? name (w'.store.content 0).params).map (fun p => (p.mode, p.optional))
        = some (.both, true)) ∧
      (w'.store.contract 1).resolved = true := by
  obtain ⟨hfollow, hrun⟩ := merge_closed_form Inheriting.directory 10
  obtain ⟨w', hreaches, hmerged⟩ :=
    hfollow 0 Inheriting.order.declared [] { store := Inheriting.store } Inheriting.readyToMerge
  have hall := Inheriting.reaches_follow.trans hreaches
  obtain ⟨hresolved, -⟩ := hrun [] 0 0 [] { store := Inheriting.store } w' Inheriting.wellFormed Inheriting.unshared
    (by decide) (by decide) hall
  refine ⟨w', hall, hmerged.names_eq.trans rfl, fun name hname => ?_, ?_⟩
  · rw [hmerged.param_eq]
    revert name
    decide
  · exact hresolved { serviceName := "audit", optional := true } List.mem_cons_self 1 rfl

end Resolution

end CallContract
