import CallContract.Proofs.Coercion.InPlace
import CallContract.Proofs.Resolution.Keeping
import CallContract.Proofs.Resolution.Recursion
import CallContract.Proofs.Resolution.Sharing
import CallContract.Session.Contracts

/-!
# Freshness — what a resolved contract remembers of its parameters

A contract looks up once which of its parameters are converted in place, and remembers them.  What it has looked up
before its resolution, or between one that was refused and the next, need not be true for long: merging brings
parameters, and a patch puts a new parameter in the place of the old one.  When a contract is marked as resolved all
that is forgotten.  So a resolved contract never remembers anything but what it would find, as long as nobody changes
its parameters from then on.
-/

namespace CallContract

open Relation Resolution
open Coercion (IsCurrent isCurrent_of_cleared)

variable {s t : Store} {c e : ContractId} {k : Contract} {id : ParamId} {p : Param}

/-! ## 1. What a contract remembers -/

-- What has been looked up is current as long as the parameters keep their flags.
theorem isCurrent_of_flags (h : IsCurrent s k)
    (hflags : ∀ id ∈ k.paramIds, (t.param id).typeConvert = (s.param id).typeConvert) : IsCurrent t k := by
  have hfilter : (k.paramIds.filter fun id => (t.param id).typeConvert)
      = k.paramIds.filter fun id => (s.param id).typeConvert := List.filter_congr hflags
  rw [IsCurrent, Store.convertible, hfilter]
  exact h

-- If the contract is resolved, it remembers nothing.
def Contract.IsCleared (k : Contract) : Prop := k.resolved = true → k.convertible? = none

/-- What a contract remembers once it is resolved is current.  All identities in the store have been given out, so that
no new parameter takes the place of one that is held. -/
structure UpToDate (c : ContractId) (s : Store) : Prop where
  held : s.AllHeld
  current : (s.contract c).resolved = true → IsCurrent s (s.contract c)

namespace UpToDate

theorem of_isCleared (hheld : s.AllHeld) (h : (s.contract c).IsCleared) : UpToDate c s :=
  ⟨hheld, fun hresolved => isCurrent_of_cleared (h hresolved)⟩

-- The contract is as it was, and so are the flags of its parameters.
theorem of_same (h : UpToDate c s) (hheld : t.AllHeld) (hsame : t.contract c = s.contract c)
    (hflags : (s.contract c).resolved = true → ∀ id ∈ (s.contract c).paramIds,
      (t.param id).typeConvert = (s.param id).typeConvert) : UpToDate c t where
  held := hheld
  current hresolved := by
    rw [hsame] at hresolved ⊢
    exact isCurrent_of_flags (h.current hresolved) (hflags hresolved)

theorem setContract (h : UpToDate c s) (hheld : (s.setContract e k).AllHeld)
    (hk : e = c → k.resolved = true → IsCurrent s k) : UpToDate c (s.setContract e k) where
  held := hheld
  current hresolved := by
    rw [Store.contract_setContract] at hresolved ⊢
    split at hresolved
    · next hsame =>
      rw [if_pos hsame]
      exact hk hsame.1 hresolved
    · next hother =>
      rw [if_neg hother]
      exact h.current hresolved

theorem pushParam (h : UpToDate c s) (p : Param) : UpToDate c (s.pushParam p) := by
  apply h.of_same (allHeld_pushParam h.held p) rfl
  intro _ id hid
  rw [Store.param_pushParam, if_neg (Nat.ne_of_lt (h.held c id hid))]

end UpToDate

/-! ## 2. What a resolution leaves remembered -/

theorem Resolution.Widened.typeConvert {q : Param} (h : Widened p q) : q.typeConvert = p.typeConvert := by
  rcases h with rfl | ⟨_, rfl⟩
  · rfl
  · rfl

-- Actions on another contract can only widen the parameters that the two share.
theorem UpToDate.touches (h : UpToDate c s) (htouches : Touches e s t) (hne : c ≠ e) (hheld : t.AllHeld) :
    UpToDate c t := by
  apply h.of_same hheld (htouches.others c hne)
  intro _ id hid
  rcases htouches.params id (h.held c id hid) with hsame | ⟨-, hwidened⟩
  · rw [hsame]
  · exact hwidened.typeConvert

theorem isCleared_setContract (h : (s.contract c).IsCleared) (hk : e = c → k.IsCleared) :
    ((s.setContract e k).contract c).IsCleared := by
  rw [Store.contract_setContract]
  split
  · next hsame => exact hk hsame.1
  · exact h

-- No action looks anything up.
theorem keptByActions_isCleared (c : ContractId) : KeptByActions fun s => (s.contract c).IsCleared where
  widen h _ _ := h
  insert h _ _ := isCleared_setContract h fun hsame => hsame ▸ h
  remove h _ _ := isCleared_setContract h fun hsame => hsame ▸ h
  describe h _ _ _ := isCleared_setContract h fun hsame => hsame ▸ h
  mark h _ := isCleared_setContract h fun _ _ => rfl

namespace Resolution

variable {d : Directory} {limit : Int} {x y : Config} {top : Frame} {below stack : List Frame} {w v : Work}

/-- What is kept along a run.  A contract can be on the stack more than once, and be resolved by the topmost of its
frames while the others still merge into it; but then it remembers nothing. -/
structure Fresh (c : ContractId) (x : Config) : Prop where
  upToDate : UpToDate c x.work.store
  cleared : c ∈ x.stack.map (·.contract) → (x.work.store.contract c).IsCleared

namespace Fresh

-- Whatever the topmost frame does, also where it is refused.
theorem act (h : Fresh c ⟨top :: below, w⟩) (d : Directory) :
    Fresh c ⟨top :: below, workOf (effect d w.store top w)⟩ := by
  have hheld : (workOf (effect d w.store top w)).store.AllHeld :=
    (keptByActions_allHeld.effect d w.store top).workOf h.upToDate.held
  by_cases htop : top.contract = c
  · -- The frame changes the contract itself, which has nothing to remember.
    have hcleared : ((workOf (effect d w.store top w)).store.contract c).IsCleared := by
      apply ((keptByActions_isCleared c).effect d w.store top).workOf
      exact h.cleared (htop ▸ List.mem_cons_self)
    exact ⟨.of_isCleared hheld hcleared, fun _ => hcleared⟩
  · have htouches : Touches top.contract w.store (workOf (effect d w.store top w)).store :=
      (confines_effect d w.store top w.store).workOf (.refl _ _)
    refine ⟨h.upToDate.touches htouches (Ne.symm htop) hheld, fun hmem => ?_⟩
    rw [htouches.others c (Ne.symm htop)]
    exact h.cleared hmem

-- What comes onto the stack is not resolved.
theorem restack (h : Fresh c ⟨stack, w⟩) {next : List Frame}
    (hnext : ∀ e ∈ next.map (·.contract), e ∈ stack.map (·.contract) ∨ (w.store.contract e).resolved = false) :
    Fresh c ⟨next, w⟩ := by
  refine ⟨h.upToDate, fun hmem => ?_⟩
  rcases hnext c hmem with hmem | hunresolved
  · exact h.cleared hmem
  · intro hresolved
    rw [hunresolved] at hresolved
    cases hresolved

theorem step (h : Fresh c x) (hstep : Step d limit x y) : Fresh c y := by
  cases hstep with
  | mk hok =>
    obtain ⟨heffect, hnext⟩ := effect_of_stepStack hok
    have hacted := h.act d
    rw [heffect] at hacted
    cases hnext with
    | stay _ => exact hacted.restack fun _ hmem => .inl hmem
    | leave _ => exact hacted.restack fun _ hmem => .inl (List.mem_cons_of_mem _ hmem)
    | call hmove _ =>
      rw [effect_of_call hmove] at heffect
      cases heffect
      apply hacted.restack
      intro e hmem
      rcases List.mem_cons.mp hmem with rfl | hmem
      · exact .inr (unresolved_of_call hmove)
      · exact .inl hmem

-- A step that is refused leaves what its frame has done.
theorem refused {abort : Abort} (h : Fresh c ⟨top :: below, w⟩)
    (hrefused : stepStack d limit top below w = .error abort v) : UpToDate c v.store := by
  have hacted := (h.act d).upToDate
  rcases effect_of_stepStack_error hrefused with heffect | ⟨heffect, -⟩
  · rw [heffect] at hacted
    exact hacted
  · rw [heffect] at hacted
    exact hacted

theorem keptByRuns : KeptByRuns d limit (Fresh c) fun w => UpToDate c w.store where
  step := Fresh.step
  work := Fresh.upToDate
  refused := Fresh.refused

end Fresh

end Resolution

/-- A resolution keeps what a resolved contract remembers current, whether it goes through or is refused. -/
theorem UpToDate.resolve {w : Work} (h : UpToDate c w.store) (d : Directory) (limit : Int) (root : ContractId) :
    UpToDate c (workOf (resolve d limit root w)).store := by
  cases hroot : (w.store.contract root).resolved with
  | true =>
    rw [resolve_of_resolved hroot]
    exact h
  | false =>
    have hstart : Fresh c ⟨[⟨root, .start⟩], w⟩ := by
      refine ⟨h, fun hmem hresolved => ?_⟩
      rw [List.mem_singleton.mp hmem, hroot] at hresolved
      cases hresolved
    exact Fresh.keptByRuns.resolve hstart

/-! ## 3. A contract and what is done around it -/

/-- What may be done to a store while one contract is watched.  Once that contract is resolved no parameter is put into
it or taken out of it, and those that it holds keep their flags. -/
inductive WatchedStep (c : ContractId) : Store → Store → Prop
  | make {s : Store} (p : Param) : WatchedStep c s (s.pushParam p)
  | build {s : Store} {ids : List ParamId} (k : Contract) (hk : k.resolved = false)
      (hids : ∀ id ∈ ids, id < s.params.size) : WatchedStep c s (s.build k ids)
  | add {s : Store} {id : ParamId} (e : ContractId) (hid : id < s.params.size)
      (hopen : e = c → (s.contract c).resolved = false) : WatchedStep c s (s.insert e id)
  | addClone {s : Store} {id : ParamId} {copy : Param} (e : ContractId) (hcopy : (s.param id).clone = .ok copy)
      (hopen : e = c → (s.contract c).resolved = false) : WatchedStep c s ((s.pushParam copy).insert e s.params.size)
  | remove {s : Store} (e : ContractId) (key : String) (hopen : e = c → (s.contract c).resolved = false) :
      WatchedStep c s (s.setContract e (withoutParam key (s.contract e)))
  /-- A contract looks up which of its parameters are converted in place. -/
  | lookUp {s : Store} (e : ContractId) : WatchedStep c s (s.lookUpConvertible e)
  | forget {s : Store} (e : ContractId) : WatchedStep c s (s.setContract e { s.contract e with convertible? := none })
  /-- A resolution, whether it goes through or is refused. -/
  | resolve (d : Directory) (limit : Int) (root : ContractId) (w : Work) :
      WatchedStep c w.store (workOf (resolve d limit root w)).store
  /-- A parameter is changed where it is stored. -/
  | change {s : Store} {id : ParamId} {p : Param}
      (hflag : (s.contract c).resolved = true → id ∈ (s.contract c).paramIds →
        p.typeConvert = (s.param id).typeConvert) : WatchedStep c s (s.setParam id p)
  /-- Something else about a contract is changed. -/
  | describe {s : Store} {k : Contract} (e : ContractId) (hparams : k.params = (s.contract e).params)
      (hremembered : k.convertible? = (s.contract e).convertible?) (hresolved : k.resolved = (s.contract e).resolved) :
      WatchedStep c s (s.setContract e k)

namespace UpToDate

theorem empty (c : ContractId) : UpToDate c {} where
  held := allHeld_empty
  current hresolved := by
    rw [Store.contract_of_size_le (Nat.zero_le c)] at hresolved
    cases hresolved

theorem build {ids : List ParamId} (h : UpToDate c s) (hk : k.resolved = false)
    (hids : ∀ id ∈ ids, id < s.params.size) : UpToDate c (s.build k ids) where
  held := allHeld_build h.held k hids
  current hresolved := by
    rw [Store.build, Store.contract_pushContract] at hresolved ⊢
    split at hresolved
    · rw [Store.foldl_holding, hk] at hresolved
      cases hresolved
    · next hother =>
      rw [if_neg hother]
      exact h.current hresolved

theorem insert (h : UpToDate c s) (hid : id < s.params.size) (hopen : e = c → (s.contract c).resolved = false) :
    UpToDate c (s.insert e id) := by
  apply h.setContract (allHeld_insert h.held hid)
  rintro rfl hresolved
  exact absurd hresolved (by simp [Store.holding, hopen])

theorem lookUp (h : UpToDate c s) (e : ContractId) : UpToDate c (s.lookUpConvertible e) := by
  refine h.setContract (allHeld_setContract h.held fun id hid => h.held e id hid) ?_
  rintro rfl hresolved
  exact h.current hresolved

theorem step (h : UpToDate c s) (hstep : WatchedStep c s t) : UpToDate c t := by
  cases hstep with
  | make p => exact h.pushParam p
  | build k hk hids => exact h.build hk hids
  | add e hid hopen => exact h.insert hid hopen
  | addClone e hcopy hopen => exact (h.pushParam _).insert (Array.size_push _ ▸ Nat.lt_succ_self _) hopen
  | remove e key hopen =>
    apply h.setContract (keptByActions_allHeld.remove h.held e key)
    rintro rfl hresolved
    exact absurd hresolved (by simp [withoutParam, hopen])
  | lookUp e => exact h.lookUp e
  | forget e => exact h.setContract (allHeld_setContract h.held (h.held e)) fun _ _ => isCurrent_of_cleared rfl
  | resolve d limit root w => exact h.resolve d limit root
  | @change _ id p hflag =>
    apply h.of_same (allHeld_setParam h.held id p) rfl
    intro hresolved j hj
    rw [Store.param_setParam]
    split
    · next hsame =>
      rw [← hsame.1] at hj ⊢
      exact hflag hresolved hj
    · rfl
  | @describe _ k e hparams hremembered hresolved =>
    have hids : k.paramIds = (s.contract e).paramIds := by rw [Contract.paramIds, hparams, Contract.paramIds]
    refine h.setContract (allHeld_setContract h.held fun id hid => h.held e id (hids ▸ hid)) ?_
    rintro rfl hdone
    rw [IsCurrent, Store.convertible, hremembered, hids]
    exact h.current (hresolved ▸ hdone)

theorem steps (h : UpToDate c s) (hsteps : ReflTransGen (WatchedStep c) s t) : UpToDate c t := by
  induction hsteps with
  | refl => exact h
  | tail _ hstep ih => exact ih.step hstep

end UpToDate

/-! ## 4. What is asked for -/

theorem Session.convertible_of_named {session : Session} {name : String}
    (h : Entries.get? name session.contracts = some c) (hc : c < session.store.contracts.size) :
    Session.convertible name session
      = .ok ((session.store.convertible (session.store.contract c)).map session.store.param)
        { session with store := session.store.lookUpConvertible c } := by
  have hname : Session.contractId name session = .ok c session := by
    rw [Session.contractId, get_bind, Session.named, h]
    rfl
  have hlooked : (session.store.lookUpConvertible c).contract c
      = { session.store.contract c with convertible? := some (session.store.convertible (session.store.contract c)) } :=
    Store.contract_setContract_self _ _ hc
  rw [Session.convertible, bind_of_ok hname, modify_bind, get_bind]
  dsimp only
  rw [hlooked]
  rfl

/-- Whatever has been looked up, and whatever calls of resolution there have been, those that were refused and those
that came after them included: the parameters that a resolved contract converts in place are the flagged ones among
those that it holds, the same and in the same order, and these are what a session gives when it is asked for them. -/
theorem nothing_stale_after_resolution (s : Store) (c : ContractId) (h : ReflTransGen (WatchedStep c) {} s)
    (hresolved : (s.contract c).resolved = true) :
    s.convertible (s.contract c) = (s.contract c).paramIds.filter (fun id => (s.param id).typeConvert) ∧
      ∀ (session : Session) (name : String), session.store = s → Entries.get? name session.contracts = some c →
        Session.convertible name session = .ok ((s.paramsOf (s.contract c)).filter (·.typeConvert))
          { session with store := s.lookUpConvertible c } := by
  have hcurrent : s.convertible (s.contract c) = (s.contract c).paramIds.filter fun id => (s.param id).typeConvert :=
    ((UpToDate.empty c).steps h).current hresolved
  refine ⟨hcurrent, fun session name hstore hname => ?_⟩
  subst hstore
  rw [Session.convertible_of_named hname (lt_of_resolved hresolved), hcurrent, Store.paramsOf, List.filter_map]
  rfl

/-! ## 5. An example -/

namespace Till

def amount : Param := { name := "amount", type := "BigDecimal", typeConvert := true }

def price : Contract := { info := { name := "price" } }

def party : Contract := { info := { name := "party" } }

def audit : Contract := { info := { name := "audit" }, declared := [{ serviceName := "party" }] }

def order : Contract where
  info := { name := "order" }
  declared := [{ serviceName := "price" }, { serviceName := "audit" }]
  patches := [{ name := "amount", optional? := some true }]

/-- The order inherits an amount from the price, and patches it. -/
def store : Store := ((((({} : Store).pushParam amount).build price [0]).build party []).build audit []).build order []

def directory : Directory where
  registry := { contracts := [("price", 0), ("party", 1), ("audit", 2), ("order", 3)] }

-- Under a ceiling of two the price is merged, and then the party is refused.
def halfway : Store := (workOf (resolveWithin directory 2 1 3 { store })).store

def session (s : Store) : Session :=
  { around := Coercion.Sample.around, store := s, contracts := [("order", 3)] }

theorem steps : ReflTransGen (WatchedStep 3) {} store :=
  ((((ReflTransGen.refl.tail (.make _)).tail (.build price rfl (by decide))).tail (.build party rfl (by decide))).tail
    (.build audit rfl (by decide))).tail (.build order rfl (by decide))

theorem refused : ∃ abort v, resolve directory 2 3 { store } = .error abort v ∧ v.store = halfway := by
  rw [resolve_eq_resolveWithin rfl]
  exact ⟨_, _, rfl, rfl⟩

theorem resolved : ∃ w, resolve directory 5 3 { store := halfway.lookUpConvertible 3 } = .ok () w ∧
    (w.store.contract 3).resolved = true ∧ (w.store.contract 3).paramIds = [2] ∧
    (w.store.param 2).typeConvert = true ∧ (w.store.param 2).optional = true := by
  rw [resolve_eq_resolveWithin (by decide)]
  exact ⟨_, rfl, by decide, by decide, by decide, by decide⟩

-- Without a resolution in between, what has been looked up does go out of date.
example :
    let s := (store.lookUpConvertible 1).insert 1 0
    (s.contract 1).paramIds = [0] ∧ (s.param 0).typeConvert = true ∧ s.convertible (s.contract 1) = [] := by decide

end Till

-- The amount that the order has looked up between the two calls is no longer its own when it is resolved.
theorem nothing_stale_after_resolution_sample :
    ∃ abort v w, resolve Till.directory 2 3 { store := Till.store } = .error abort v ∧
      v.store.convertible (v.store.contract 3) = [1] ∧
      resolve Till.directory 5 3 { store := v.store.lookUpConvertible 3 } = .ok () w ∧
      w.store.convertible (w.store.contract 3) = [2] ∧
      ∃ ps after, Session.convertible "order" (Till.session w.store) = .ok ps after ∧ ps.map (·.optional) = [true] := by
  obtain ⟨abort, v, hrefused, hv⟩ := Till.refused
  obtain ⟨w, hw, hresolved, hids, hflag, hoptional⟩ := Till.resolved
  have hhalfway : ReflTransGen (WatchedStep 3) {} Till.halfway := by
    have hlast := Till.steps.tail (.resolve Till.directory 2 3 { store := Till.store })
    rw [hrefused] at hlast
    exact hv ▸ hlast
  have hsteps : ReflTransGen (WatchedStep 3) {} w.store := by
    have hlast := (hhalfway.tail (.lookUp 3)).tail
      (.resolve Till.directory 5 3 { store := Till.halfway.lookUpConvertible 3 })
    rw [hw] at hlast
    exact hlast
  obtain ⟨hcurrent, hasked⟩ := nothing_stale_after_resolution w.store 3 hsteps hresolved
  refine ⟨abort, v, w, hrefused, by rw [hv]; decide, hv ▸ hw, ?_, _, _, hasked _ "order" rfl rfl, ?_⟩
  · rw [hcurrent, hids]
    simp [hflag]
  · simp [Store.paramsOf, hids, hflag, hoptional]

end CallContract
