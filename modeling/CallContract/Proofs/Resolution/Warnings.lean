import CallContract.Proofs.Resolution.Gathering
import CallContract.Proofs.Resolution.History
import CallContract.Proofs.Resolution.Recursion
import Mathlib.Data.List.Nodup

/-!
# Warnings — every matter is reported once

A reference that stands for nothing is reported when it is followed, and a patch that names no parameter when it is
applied.  At every moment of a resolution the reports so far are those about the contracts that have been resolved and
those about the references that the frames on the stack have followed.  A contract may be reached along many paths; but
it completes only once, and what is reported about it then depends on nothing that happens afterwards.
-/

namespace CallContract.Resolution

open Relation

variable {r : Registry} {d : Directory} {limit : Int} {c root : ContractId} {s t u : Store} {w w' : Work} {x y : Config}

/-! ## 1. What there is to report -/

/-- The warnings about those references of a contract that stand for nothing. -/
def missingAmong (d : Directory) (s : Store) (c : ContractId) (refs : List Reference) : List Warning :=
  (refs.filter fun ref => (interface? d s c ref).isNone).map fun ref =>
    .missingInterface (s.contract c).name ref.serviceName

/-- The warnings about patches for parameters that are not among those of the given names. -/
def danglingAmong (service : String) (names : List String) (patches : List Patch) : List Warning :=
  (patches.filter fun patch => patch.name ∉ names).map fun patch => .danglingPatch service patch.name

/-- All warnings about a contract that is resolved in the second store: one for every reference that it declares, once
its group is expanded, and that stands for nothing, and one for every patch whose name is not among those that it has
once its interfaces have been merged. -/
def warningsOf (d : Directory) (s t : Store) (c : ContractId) : List Warning :=
  let refs := expandedReferences d (s.contract c)
  missingAmong d s c refs ++ danglingAmong (s.contract c).name (mergedNames d s t c refs) (s.contract c).patches

theorem missingAmong_append (d : Directory) (s : Store) (c : ContractId) (refs refs' : List Reference) :
    missingAmong d s c (refs ++ refs') = missingAmong d s c refs ++ missingAmong d s c refs' := by
  simp [missingAmong]

theorem missingAmong_of_none {ref : Reference} (h : interface? d s c ref = none) :
    missingAmong d s c [ref] = [.missingInterface (s.contract c).name ref.serviceName] := by
  simp [missingAmong, h]

theorem missingAmong_of_some {ref : Reference} {i : ContractId} (h : interface? d s c ref = some i) :
    missingAmong d s c [ref] = [] := by
  simp [missingAmong, h]

theorem danglingAmong_cons (service : String) (names : List String) (patch : Patch) (patches : List Patch) :
    danglingAmong service names (patch :: patches)
      = danglingAmong service names [patch] ++ danglingAmong service names patches := by
  simp only [danglingAmong, ← List.map_append, ← List.filter_append]
  rfl

theorem danglingAmong_congr {names names' : List String} (h : ∀ name, name ∈ names ↔ name ∈ names') (service : String)
    (patches : List Patch) : danglingAmong service names patches = danglingAmong service names' patches := by
  simp [danglingAmong, h]

/-! ## 2. What actions report -/

-- Taking parameters and properties reports nothing.
theorem keeps_warnings_takeParam (warnings : List Warning) (c : ContractId) (ref : Reference) (id : ParamId) :
    Keeps (fun w => w.warnings = warnings) (takeParam c ref id) := by
  apply keeps_get_bind
  intro w hw
  dsimp only
  cases Entries.get? (w.store.param id).name (w.store.contract c).params with
  | some existing => exact hw
  | none =>
    cases inheritedCopy ref (w.store.param id) with
    | error fault => exact hw
    | ok p => exact hw

theorem warnings_merge {i : ContractId} {ref : Reference} (h : merge c i ref w = .ok () w') :
    w'.warnings = w.warnings := by
  have hkeeps : Keeps (fun v => v.warnings = w.warnings) (merge c i ref) := by
    apply keeps_bind
    · apply keeps_get_bind
      intro v hv
      exact keeps_forM (keeps_warnings_takeParam w.warnings c ref) (v.store.contract i).paramIds v hv
    · intro _
      apply keeps_modify
      intro v hv
      unfold takeProperties
      split
      · exact hv
      · exact hv
  exact hkeeps.of_ok rfl h

theorem warnings_applyPatch {patch : Patch} (hs : WellFormed r w.store) (h : applyPatch c patch w = .ok () w') :
    w'.warnings = w.warnings ++ danglingAmong (w.store.contract c).name (namesOf w.store c) [patch] := by
  cases hget : Entries.get? patch.name (w.store.contract c).params with
  | none =>
    have hname : patch.name ∉ namesOf w.store c := by
      intro hmem
      obtain ⟨id, hid⟩ := Entries.mem_keys_iff.mp hmem
      rw [hget] at hid
      cases hid
    rw [applyPatch_of_none hget] at h
    cases h
    simp [danglingAmong, hname, Work.warn, Work.record]
  | some existing =>
    have hname : patch.name ∈ namesOf w.store c := Entries.mem_keys_iff.mpr ⟨existing, hget⟩
    rw [applyPatch_of_some hget (Param.clone_of_settled (hs.params_settled existing))] at h
    cases h
    simp [danglingAmong, hname]

-- Each patch meets the names that were there before the first one.
theorem warnings_forM_applyPatch {patches : List Patch} (hs : WellFormed r w.store) (hc : c < w.store.contracts.size)
    (hnames : (w.store.content c).ByName) (hpatches : ∀ patch ∈ patches, patch.Settled)
    (h : patches.forM (applyPatch c) w = .ok () w') :
    w'.warnings = w.warnings ++ danglingAmong (w.store.contract c).name (namesOf w.store c) patches := by
  induction patches generalizing w with
  | nil =>
    cases h
    simp [danglingAmong]
  | cons patch rest ih =>
    obtain ⟨v, hv, hedits, -, hcontent⟩ := applyPatch_spec hs hc (hpatches patch List.mem_cons_self)
    have hrest : rest.forM (applyPatch c) v = .ok () w' := (bind_of_ok hv).symm.trans h
    have hbyName : (v.store.content c).ByName := by
      rw [hcontent]
      exact Content.byName_applyPatch hnames patch
    have hlater := ih hedits.wellFormed (hedits.size_eq ▸ hc) hbyName
      (fun p hp => hpatches p (List.mem_cons_of_mem patch hp)) hrest
    have hname : (v.store.contract c).name = (w.store.contract c).name := by
      rw [Contract.name, Contract.name, hedits.info_eq]
    have hsame : ∀ name, name ∈ namesOf v.store c ↔ name ∈ namesOf w.store c := fun name => by
      rw [← keys_content, hcontent, mem_keys_applyPatch hnames, keys_content]
    rw [hlater, warnings_applyPatch hs hv, hname, danglingAmong_congr hsame, danglingAmong_cons _ _ patch rest,
      List.append_assoc]

theorem warnings_complete (hs : WellFormed r w.store) (hc : c < w.store.contracts.size) (hnames : w.store.AllByName)
    (h : complete c w = .ok () w') : w'.warnings
      = w.warnings ++ danglingAmong (w.store.contract c).name (namesOf w.store c) (w.store.contract c).patches := by
  obtain ⟨hdrop, hk, hcontent⟩ := edits_change hs hc
    (f := fun k => { k with declared := withoutPredecessor (predecessorName? w.store c) k.declared }) fun _ => rfl
  let dropped := dropPredecessor c w
  replace hdrop : Edits r c w.store dropped.store := hdrop
  have hbyName : (dropped.store.content c).ByName := by
    have hcontent' : dropped.store.content c = w.store.content c := hcontent
    rw [hcontent']
    exact Content.byName_content (hnames c)
  rw [complete, modify_bind] at h
  cases hpatches : applyPatches c dropped with
  | error abort v =>
    rw [bind_of_error hpatches] at h
    cases h
  | ok _ v =>
    rw [bind_of_ok hpatches] at h
    cases h
    have hsame : dropped.store.contract c = { w.store.contract c with
        declared := withoutPredecessor (predecessorName? w.store c) (w.store.contract c).declared } := hk
    have hdropped := warnings_forM_applyPatch hdrop.wellFormed (hdrop.size_eq ▸ hc) hbyName
      (hdrop.wellFormed.patches_settled c) hpatches
    show v.warnings = _
    rw [hdropped, namesOf, hsame]
    rfl

/-- What a step of a frame reports. -/
def reportedBy (d : Directory) (s : Store) (f : Frame) : List Warning :=
  match f.phase with
  | .follow [] => danglingAmong (s.contract f.contract).name (namesOf s f.contract) (s.contract f.contract).patches
  | .follow (ref :: _) => missingAmong d s f.contract [ref]
  | .start | .expand | .mergeThen _ _ _ => []

theorem warnings_effect {phase : Phase} (hs : WellFormed d.registry w.store) (hc : c < w.store.contracts.size)
    (hnames : w.store.AllByName) (h : effect d w.store ⟨c, phase⟩ w = .ok () w') :
    w'.warnings = w.warnings ++ reportedBy d w.store ⟨c, phase⟩ := by
  cases phase with
  | start =>
    cases h
    simp [reportedBy]
  | expand =>
    cases h
    show (expandGroup d c w).warnings = w.warnings ++ []
    rw [List.append_nil, expandGroup]
    split
    · rfl
    · rfl
  | follow refs =>
    cases refs with
    | nil => exact warnings_complete hs hc hnames h
    | cons ref refs =>
      show _ = w.warnings ++ missingAmong d w.store c [ref]
      rw [effect_follow] at h
      cases htarget : target d w.store c ref with
      | missing =>
        have hnone : interface? d w.store c ref = none := by rw [interface?, htarget]
        rw [htarget] at h
        cases h
        rw [missingAmong_of_none hnone]
        rfl
      | predecessor p =>
        have hsome : interface? d w.store c ref = some p := by rw [interface?, htarget]
        rw [htarget] at h
        cases h
        rw [missingAmong_of_some hsome, List.append_nil]
      | found i =>
        have hsome : interface? d w.store c ref = some i := by rw [interface?, htarget]
        rw [htarget] at h
        cases h
        rw [missingAmong_of_some hsome, List.append_nil]
  | mergeThen i ref refs =>
    rw [warnings_merge h]
    simp [reportedBy]

/-! ## 3. Accounts -/

/-- The contracts that are resolved in the second store and were not so in the first one. -/
def newlyResolved (s t : Store) : List ContractId :=
  (List.range t.contracts.size).filter fun c => (t.contract c).resolved && !(s.contract c).resolved

/-- All warnings about the contracts that have been resolved. -/
def account (d : Directory) (s t : Store) : List Warning := (newlyResolved s t).flatMap (warningsOf d s t)

/-- The warnings that a frame has given so far. -/
def warnedBy (d : Directory) (s : Store) (f : Frame) : List Warning :=
  missingAmong d s f.contract (followedBy d s f)

theorem mem_newlyResolved : c ∈ newlyResolved s t ↔
    c < t.contracts.size ∧ (t.contract c).resolved = true ∧ (s.contract c).resolved = false := by
  simp [newlyResolved]

theorem nodup_newlyResolved (s t : Store) : (newlyResolved s t).Nodup := List.nodup_range.filter _

theorem newlyResolved_self (s : Store) : newlyResolved s s = [] := by
  rw [List.eq_nil_iff_forall_not_mem]
  intro c hc
  obtain ⟨-, ht, hs⟩ := mem_newlyResolved.mp hc
  rw [ht] at hs
  cases hs

-- What is to be said about a contract stays, since its interfaces do.
theorem flatMap_warningsOf (h : Progress d s t)
    (hkept : ∀ e, (t.contract e).resolved = true → u.contract e = t.contract e) :
    (newlyResolved s t).flatMap (warningsOf d s u) = account d s t := by
  refine List.flatMap_congr fun e he => ?_
  obtain ⟨-, ht, hs⟩ := mem_newlyResolved.mp he
  have hnames : mergedNames d s u e (expandedReferences d (s.contract e))
      = mergedNames d s t e (expandedReferences d (s.contract e)) :=
    mergedNames_congr fun ref href i hi => hkept i ((h.finished e hs ht).leads i (.inr ⟨ref, href, hi⟩))
  simp only [warningsOf, hnames]

theorem account_of_same (h : Progress d s t) (hsize : u.contracts.size = t.contracts.size)
    (hkept : ∀ e, (t.contract e).resolved = true → u.contract e = t.contract e)
    (hsame : ∀ e, (u.contract e).resolved = (t.contract e).resolved) : account d s u = account d s t := by
  have hnewly : newlyResolved s u = newlyResolved s t := by simp only [newlyResolved, hsize, hsame]
  rw [account, hnewly, flatMap_warningsOf h hkept]

/-- One more contract is resolved, and all that there is to say about it is added. -/
theorem account_of_resolved (h : Progress d s t) (hsize : u.contracts.size = t.contracts.size)
    (hlt : c < t.contracts.size) (hs : (s.contract c).resolved = false) (ht : (t.contract c).resolved = false)
    (hu : (u.contract c).resolved = true) (hothers : ∀ e, e ≠ c → u.contract e = t.contract e) :
    (account d s u).Perm (account d s t ++ warningsOf d s u c) := by
  have hkept : ∀ e, (t.contract e).resolved = true → u.contract e = t.contract e := fun e he =>
    hothers e (ne_of_resolved he ht)
  have hnew : c ∉ newlyResolved s t := by
    intro hc
    obtain ⟨-, hresolved, -⟩ := mem_newlyResolved.mp hc
    rw [ht] at hresolved
    cases hresolved
  have hnewly : (newlyResolved s u).Perm (newlyResolved s t ++ [c]) := by
    rw [List.perm_ext_iff_of_nodup (nodup_newlyResolved s u)
      ((nodup_newlyResolved s t).append (List.nodup_singleton c) (List.disjoint_singleton.mpr hnew))]
    intro e
    rw [List.mem_append, List.mem_singleton, mem_newlyResolved, mem_newlyResolved, hsize]
    by_cases hec : e = c
    · subst hec
      simp [hlt, hs, hu]
    · rw [hothers e hec]
      simp [hec]
  have hflat := hnewly.flatMap_right (warningsOf d s u)
  rwa [List.flatMap_append, flatMap_warningsOf h hkept, List.flatMap_singleton] at hflat

/-! ## 4. The account along a run -/

/-- The warnings so far, those of earlier resolutions first, are the account of what has been resolved and what the
frames on the stack have given. -/
def Accounted (d : Directory) (s : Store) (earlier : List Warning) (x : Config) : Prop :=
  (earlier ++ x.work.warnings).Perm (account d s x.work.store ++ x.stack.flatMap (warnedBy d s))

variable {earlier : List Warning}

namespace Accounted

-- The warnings of a resolution that has come to its end are earlier ones for the next.
theorem unreported (h : Accounted d s earlier ⟨[], w⟩) :
    Accounted d s (earlier ++ w.warnings) ⟨[], { store := w.store }⟩ := by
  show (earlier ++ w.warnings ++ []).Perm _
  rw [List.append_nil]
  exact h

-- The frame with which a resolution begins has given no warnings.
theorem start (h : Accounted d s earlier ⟨[], w⟩) (root : ContractId) :
    Accounted d s earlier ⟨[⟨root, .start⟩], w⟩ := h

/-- A step that resolves nothing: what it reports is what the frames on top have given more. -/
theorem goOn {below stack : List Frame} {phase : Phase} {warnings : List Warning}
    (h : Accounted d s earlier ⟨⟨c, phase⟩ :: below, w⟩) (haccount : account d s w'.store = account d s w.store)
    (hwarnings : w'.warnings = w.warnings ++ warnings)
    (hstack : stack.flatMap (warnedBy d s) = warnedBy d s ⟨c, phase⟩ ++ warnings ++ below.flatMap (warnedBy d s)) :
    Accounted d s earlier ⟨stack, w'⟩ := by
  rw [Accounted, List.flatMap_cons] at h
  rw [Accounted, haccount, hwarnings, hstack]
  rw [List.perm_iff_count] at h ⊢
  intro warning
  have hcount := h warning
  simp only [List.count_append] at hcount ⊢
  omega

/-- A step that resolves the contract of its frame: what this has given, with what the step reports, is what there is to
say about the contract. -/
theorem settle {below : List Frame} {phase : Phase} {warnings : List Warning}
    (h : Accounted d s earlier ⟨⟨c, phase⟩ :: below, w⟩) (hwarnings : w'.warnings = w.warnings ++ warnings)
    (haccount : (account d s w'.store).Perm (account d s w.store ++ (warnedBy d s ⟨c, phase⟩ ++ warnings))) :
    Accounted d s earlier ⟨below, w'⟩ := by
  rw [Accounted, List.flatMap_cons] at h
  rw [Accounted, hwarnings]
  rw [List.perm_iff_count] at h haccount ⊢
  intro warning
  have hcount := h warning
  have hcount' := haccount warning
  simp only [List.count_append] at hcount hcount' ⊢
  omega

-- A frame that goes on without merging has given what its step reports.
theorem warnedBy_heads {below : List Frame} {phase next : Phase} {dependency? : Option ContractId}
    (hsound : Sound d s root ⟨⟨c, phase⟩ :: below, w⟩) (hheads : Heads d w.store c phase dependency? next) :
    warnedBy d s ⟨c, next⟩ = warnedBy d s ⟨c, phase⟩ ++ reportedBy d w.store ⟨c, phase⟩ := by
  have hevolves := hsound.progress.evolves
  cases hheads with
  | start => rfl
  | @missing ref refs hi =>
    have hnext : followedBy d s ⟨c, .follow refs⟩ = followedBy d s ⟨c, .follow (ref :: refs)⟩ ++ [ref] :=
      (hsound.onTrack List.mem_cons_self).followedBy_next
    have hreported : reportedBy d w.store ⟨c, .follow (ref :: refs)⟩ = missingAmong d s c [ref] := by
      show missingAmong d w.store c [ref] = _
      rw [missingAmong_of_none hi, hevolves.name_eq, missingAmong_of_none (hevolves.interface?_eq c ref ▸ hi)]
    rw [warnedBy, hnext, missingAmong_append, hreported]
    rfl
  | @found ref refs i hi =>
    have hreported : reportedBy d w.store ⟨c, .follow (ref :: refs)⟩ = [] := missingAmong_of_some hi
    rw [hreported, List.append_nil]
    rfl

-- A contract has the names already, when its frame completes, that it has once it is resolved.
theorem warnedBy_complete {below stack : List Frame} (hsound : Sound d s root ⟨⟨c, .follow []⟩ :: below, w⟩)
    (hgathered : Gathered d s ⟨⟨c, .follow []⟩ :: below, w⟩)
    (hstep : stepStack d limit ⟨c, .follow []⟩ below w = .ok stack w')
    (hresolved : (w'.store.contract c).resolved = true) :
    warnedBy d s ⟨c, .follow []⟩ ++ reportedBy d w.store ⟨c, .follow []⟩ = warningsOf d s w'.store c := by
  have hevolves := hsound.progress.evolves
  have hs : (s.contract c).resolved = false := hevolves.unresolved (hsound.unresolved List.mem_cons_self)
  have hnames : ∀ name, name ∈ namesOf w.store c ↔
      name ∈ mergedNames d s w'.store c (expandedReferences d (s.contract c)) := fun name => by
    rw [← (hgathered.step hsound (.mk hstep)).mem_names_of_resolved hs hresolved,
      (hgathered.gains hsound hstep).mem_names]
    simp [gainedBy]
  rw [warnedBy, followedBy_nil, warningsOf, reportedBy, hevolves.name_eq, hevolves.patches_eq,
    danglingAmong_congr hnames]

/-- The account is kept by each step. -/
theorem step (h : Accounted d s earlier x) (hsound : Sound d s root x) (hgathered : Gathered d s x)
    (hstep : Step d limit x y) : Accounted d s earlier y := by
  cases hstep with
  | @mk top below stack w w' hstep =>
    obtain ⟨c, phase⟩ := top
    have hc : (w.store.contract c).resolved = false := hsound.unresolved List.mem_cons_self
    have htouches : Touches c w.store w'.store := (hgathered.gains hsound hstep).touches
    have hwarnings : w'.warnings = w.warnings ++ reportedBy d w.store ⟨c, phase⟩ :=
      warnings_effect hsound.progress.wellFormed (hsound.lt_size List.mem_cons_self) hgathered.byName
        (effect_of_step hstep)
    have hpending : (w'.store.contract c).resolved = false → account d s w'.store = account d s w.store := by
      intro hc'
      refine account_of_same hsound.progress htouches.size_eq (htouches.kept hc) fun e => ?_
      by_cases hec : e = c
      · rw [hec, hc, hc']
      · rw [htouches.others e hec]
    have hresult : StepResult d limit c below w phase (stepStack d limit ⟨c, phase⟩ below w) := hsound.stepResult
    rw [hstep] at hresult
    cases hresult with
    | pass hheads _ hstore =>
      refine h.goOn (hpending (hstore ▸ hc)) hwarnings ?_
      rw [List.flatMap_cons, warnedBy_heads hsound hheads]
    | call hheads _ _ =>
      refine h.goOn rfl hwarnings ?_
      rw [List.flatMap_cons, List.flatMap_cons, warnedBy_heads hsound hheads]
      rfl
    | expand _ _ hresolved _ =>
      refine h.goOn (hpending (hresolved.trans hc)) hwarnings ?_
      rw [List.flatMap_cons, warnedBy, hsound.progress.evolves.references_eq c hc, followedBy_all]
      rfl
    | @merge i ref refs _ _ hsame _ =>
      refine h.goOn (hpending (hsame.resolved_eq.trans hc)) hwarnings ?_
      have htrack : OnTrack d s w.store ⟨c, .mergeThen i ref refs⟩ := hsound.onTrack List.mem_cons_self
      have hfollowed : followedBy d s ⟨c, .follow refs⟩ = followedBy d s ⟨c, .mergeThen i ref refs⟩ ++ [ref] :=
        OnTrack.followedBy_next htrack.2
      rw [List.flatMap_cons, warnedBy, hfollowed, missingAmong_append, missingAmong_of_some htrack.1]
      rfl
    | complete _ _ hresolved _ =>
      have hs : (s.contract c).resolved = false := hsound.progress.evolves.unresolved hc
      have haccount := account_of_resolved hsound.progress htouches.size_eq (hsound.lt_size List.mem_cons_self) hs hc
        hresolved htouches.others
      apply h.settle hwarnings
      rwa [warnedBy_complete hsound hgathered hstep hresolved]

theorem reaches (h : Accounted d s earlier x) (hsound : Sound d s root x) (hgathered : Gathered d s x)
    (hreaches : Reaches d limit x y) : Accounted d s earlier y := by
  induction hreaches with
  | refl => exact h
  | tail hbefore hstep ih =>
    exact ih.step (hsound.reaches hbefore) (hgathered.reaches hsound hbefore) hstep

end Accounted

/-! ## 5. Calls one after the other -/

/-- Calls that all return, each from the store that the one before has left, with the warnings of all of them. -/
inductive Returns (d : Directory) : Store → List Call → List Warning → Store → Prop
  | done (s : Store) : Returns d s [] [] s
  | call {s t : Store} {call : Call} {later : List Call} {w : Work} {warnings : List Warning}
    (returns : resolve d call.limit call.root { store := s } = .ok () w) (rest : Returns d w.store later warnings t) :
    Returns d s (call :: later) (w.warnings ++ warnings) t

/-- What holds between two calls of a sequence that began with the first store. -/
structure AllReported (d : Directory) (s t : Store) (earlier : List Warning) : Prop where
  progress : Progress d s t
  gathered : Gathered d s ⟨[], { store := t }⟩
  accounted : Accounted d s earlier ⟨[], { store := t }⟩

namespace AllReported

theorem refl (hs : WellFormed d.registry s) (hnames : s.AllByName) : AllReported d s s [] := by
  refine ⟨Progress.refl hs, Gathered.refl d hnames, ?_⟩
  show List.Perm [] (account d s s ++ [])
  rw [account, newlyResolved_self]
  exact List.Perm.refl _

theorem resolve (h : AllReported d s t earlier) (hroot : root < s.contracts.size)
    (hreturns : Resolution.resolve d limit root { store := t } = .ok () w) :
    AllReported d s w.store (earlier ++ w.warnings) := by
  cases hresolved : (t.contract root).resolved with
  | true =>
    -- Nothing is done and nothing is reported.
    rw [resolve_of_resolved hresolved] at hreturns
    cases hreturns
    rw [List.append_nil]
    exact h
  | false =>
    have hsound : Sound d s root ⟨[⟨root, .start⟩], { store := t }⟩ := Sound.start h.progress hroot hresolved
    have hgathered := h.gathered.start root
    have hending := resolve_ending d limit (w := { store := t }) h.progress hroot
    rw [hreturns] at hending
    cases hending with
    | resolved hreaches hprogress _ =>
      have haccounted := (h.accounted.start root).reaches hsound hgathered hreaches
      exact ⟨hprogress, (hgathered.reaches hsound hreaches).unreported, haccounted.unreported⟩

theorem returns {calls : List Call} {warnings : List Warning} (h : AllReported d s t earlier)
    (hcalls : ∀ call ∈ calls, call.root < s.contracts.size) (hreturns : Returns d t calls warnings u) :
    AllReported d s u (earlier ++ warnings) := by
  induction hreturns generalizing earlier with
  | done t =>
    rw [List.append_nil]
    exact h
  | call hfirst _ ih =>
    rw [← List.append_assoc]
    apply ih (h.resolve (hcalls _ List.mem_cons_self) hfirst)
    exact fun later hlater => hcalls later (List.mem_cons_of_mem _ hlater)

end AllReported

/-- Where parameters stand under their names, calls that all return report, taken together, exactly this about each
contract that they have resolved: one warning for every reference, among those that it declares once its group is
expanded, that stands for nothing; and one for every patch whose name is not among those that it has once its interfaces
have been merged.  These are also the names that it has in the end. -/
theorem warnings_reported_once (d : Directory) (calls : List Call) (s t : Store) (warnings : List Warning)
    (hs : WellFormed d.registry s) (hnames : s.AllByName) (hcalls : ∀ call ∈ calls, call.root < s.contracts.size)
    (hreturns : Returns d s calls warnings t) :
    warnings.Perm ((newlyResolved s t).flatMap (warningsOf d s t)) ∧
      ∀ c ∈ newlyResolved s t, ∀ name, name ∈ namesOf t c ↔
        name ∈ mergedNames d s t c (expandedReferences d (s.contract c)) := by
  have hall := (AllReported.refl hs hnames).returns hcalls hreturns
  refine ⟨?_, fun c hc name => ?_⟩
  · have haccounted := hall.accounted
    rw [Accounted, List.flatMap_nil, List.append_nil, List.append_nil, List.nil_append] at haccounted
    exact haccounted
  · obtain ⟨-, ht, hs⟩ := mem_newlyResolved.mp hc
    exact hall.gathered.mem_names_of_resolved hs ht name

/-! ## 6. An example -/

namespace Sample

def rate : Contract := { info := { name := "rate" }, declared := [{ serviceName := "tax" }] }

def quote : Contract :=
  { info := { name := "quote" }, declared := [{ serviceName := "rate" }, { serviceName := "tax" }],
    patches := [{ name := "id" }, { name := "total" }, { name := "id" }] }

/-- A quote inherits from the rate, and patches one of its parameters twice; both declare a tax, which is unknown. -/
def quotes : Store := ((({} : Store).pushParam { name := "id" }).build rate [0]).build quote []

/-- Where these contracts are found. -/
def tariffs : Directory where
  registry := { contracts := [("rate", 0), ("quote", 1)] }

theorem wellFormed_quotes : WellFormed tariffs.registry quotes := .of_lt (by decide) (by decide) (by decide)

theorem allByName_quotes : quotes.AllByName := by
  have hparams : (({} : Store).pushParam { name := "id" }).AllByName := by
    intro c
    rw [Store.contract_of_size_le (Nat.zero_le c)]
    exact Entries.NamedBy.nil
  exact (hparams.build rate [0]).build quote []

/-- What is left when the quote has been resolved. -/
def quoted : Work := workOf (resolveWithin tariffs 5 4 1 { store := quotes })

theorem resolve_quote : resolve tariffs 5 1 { store := quotes } = .ok () quoted :=
  plays_unique (plays_resolve tariffs 5 1 _) (plays_resolveWithin 4 rfl rfl)

end Sample

-- The quote is resolved first, and the rate with it; the later calls have nothing to report.
theorem warnings_reported_once_sample :
    ∃ warnings t, Returns Sample.tariffs Sample.quotes [⟨1, 5⟩, ⟨0, 5⟩, ⟨1, 5⟩] warnings t ∧
      warnings.Perm
        [.missingInterface "rate" "tax", .missingInterface "quote" "tax", .danglingPatch "quote" "total"] ∧
      ∀ name, name ∈ namesOf t 1 ↔ name = "id" := by
  let t := Sample.quoted.store
  have hrate : (t.contract 0).resolved = true := by decide +kernel
  have hquote : (t.contract 1).resolved = true := by decide +kernel
  have hreturns : Returns Sample.tariffs Sample.quotes [⟨1, 5⟩, ⟨0, 5⟩, ⟨1, 5⟩] (Sample.quoted.warnings ++ []) t :=
    .call Sample.resolve_quote
      (.call (resolve_of_resolved hrate) (.call (resolve_of_resolved hquote) (.done t)))
  obtain ⟨hwarnings, hnames⟩ := warnings_reported_once Sample.tariffs _ Sample.quotes t _ Sample.wellFormed_quotes
    Sample.allByName_quotes (by decide) hreturns
  have haccount : (newlyResolved Sample.quotes t).flatMap (warningsOf Sample.tariffs Sample.quotes t)
      = [.missingInterface "rate" "tax", .missingInterface "quote" "tax", .danglingPatch "quote" "total"] := by
    decide +kernel
  refine ⟨_, t, hreturns, haccount ▸ hwarnings, fun name => ?_⟩
  have hmerged : mergedNames Sample.tariffs Sample.quotes t 1
      (expandedReferences Sample.tariffs (Sample.quotes.contract 1)) = ["id"] := by decide +kernel
  have hnew : 1 ∈ newlyResolved Sample.quotes t := by decide +kernel
  rw [hnames 1 hnew, hmerged, List.mem_singleton]

end CallContract.Resolution
