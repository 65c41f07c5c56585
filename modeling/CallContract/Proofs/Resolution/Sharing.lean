import CallContract.Proofs.Resolution.Recursion
import CallContract.Proofs.Resolution.Touches

/-!
# Sharing — what a resolution changes where contracts share parameters

A resolution changes the contracts that it marks as resolved and leaves the others as they are.  But a parameter that
another contract shares with one of those can be widened under it: inherited and patched parameters are copies, while a
parameter that is met again keeps its place and is written where it stands.  Nothing else happens to it, and a contract
that shares no parameter with those that are marked keeps all its parameters.
-/

namespace CallContract.Resolution

open Relation

variable {d : Directory} {limit : Int} {s t : Store} {c e : ContractId} {x y : Config}

/-! ## 1. Contracts that a run works on -/

/-- The contract was not resolved at first, and now it is on the stack or resolved. -/
def Busy (s : Store) (x : Config) (e : ContractId) : Prop :=
  (s.contract e).resolved = false ∧ (e ∈ x.stack.map (·.contract) ∨ (x.work.store.contract e).resolved = true)

/-- Since the first store a run has changed nothing but the contracts that it works on, parameters that these held,
and new parameters. -/
structure Confined (s : Store) (x : Config) : Prop where
  size_eq : x.work.store.contracts.size = s.contracts.size
  size_params_le : s.params.size ≤ x.work.store.params.size
  resolved : ∀ e, (s.contract e).resolved = true → (x.work.store.contract e).resolved = true
  stack : ∀ e ∈ x.stack.map (·.contract), (s.contract e).resolved = false
  others : ∀ e, ¬Busy s x e → x.work.store.contract e = s.contract e
  held : ∀ e, ∀ id ∈ (x.work.store.contract e).paramIds, id < s.params.size → id ∈ (s.contract e).paramIds
  params : ∀ id < s.params.size, x.work.store.param id = s.param id ∨
    Widened (s.param id) (x.work.store.param id) ∧ ∃ e, Busy s x e ∧ id ∈ (s.contract e).paramIds

namespace Confined

theorem start {w : Work} {stack : List Frame}
    (hstack : ∀ e ∈ stack.map (·.contract), (w.store.contract e).resolved = false) : Confined w.store ⟨stack, w⟩ :=
  ⟨rfl, Nat.le_refl _, fun _ => id, hstack, fun _ _ => rfl, fun _ _ h _ => h, fun _ _ => .inl rfl⟩

/-- Actions on a contract that the run works on keep the run confined. -/
theorem advance (h : Confined s x) (htouches : Touches c x.work.store y.work.store) (hc : Busy s x c)
    (hstack : ∀ e ∈ y.stack.map (·.contract), (s.contract e).resolved = false)
    (hbusy : ∀ e < s.contracts.size, Busy s x e → Busy s y e) : Confined s y where
  size_eq := htouches.size_eq.trans h.size_eq
  size_params_le := Nat.le_trans h.size_params_le htouches.size_params_le
  resolved e he := htouches.resolved_of (h.resolved e he)
  stack := hstack
  others e he := by
    by_cases hlt : e < s.contracts.size
    · have hidle : ¬Busy s x e := fun hx => he (hbusy e hlt hx)
      have hne : e ≠ c := fun heq => hidle (heq ▸ hc)
      rw [htouches.others e hne, h.others e hidle]
    · have hbeyond := Nat.le_of_not_lt hlt
      have hsize := htouches.size_eq.trans h.size_eq
      rw [Store.contract_of_size_le hbeyond, Store.contract_of_size_le (hsize.symm ▸ hbeyond)]
  held e id hid hlt := by
    by_cases heq : e = c
    · subst heq
      exact h.held e id (htouches.held id hid (Nat.lt_of_lt_of_le hlt h.size_params_le)) hlt
    · rw [htouches.others e heq] at hid
      exact h.held e id hid hlt
  params id hlt := by
    have hkept : ∀ e, Busy s x e ∧ id ∈ (s.contract e).paramIds → Busy s y e ∧ id ∈ (s.contract e).paramIds :=
      fun e he => ⟨hbusy e (Store.lt_of_mem_paramIds he.2) he.1, he.2⟩
    rcases htouches.params id (Nat.lt_of_lt_of_le hlt h.size_params_le) with hsame | ⟨hheld, hwidened⟩
    · rw [hsame]
      rcases h.params id hlt with hsame | ⟨hwidened, e, he⟩
      · exact .inl hsame
      · exact .inr ⟨hwidened, e, hkept e he⟩
    · refine .inr ⟨?_, c, hkept c ⟨hc, h.held c id hheld hlt⟩⟩
      rcases h.params id hlt with hsame | ⟨hbefore, -⟩
      · exact hsame ▸ hwidened
      · exact hbefore.trans hwidened

end Confined

theorem unresolved_of_callIfNeeded {phase next : Phase} {i : ContractId} (h : callIfNeeded s i next = .call e phase) :
    (s.contract e).resolved = false := by
  unfold callIfNeeded at h
  split at h
  · cases h
  · next hresolved =>
    cases h
    simpa using hresolved

theorem callIfNeeded_ne_leave (s : Store) (i : ContractId) (next : Phase) : callIfNeeded s i next ≠ .leave := by
  unfold callIfNeeded
  split <;> simp

-- A dependency is called only if it is not resolved.
theorem unresolved_of_call {f : Frame} {phase : Phase} (h : move d s f = .call e phase) :
    (s.contract e).resolved = false := by
  unfold move at h
  split at h
  case h_1 =>
    split at h
    · cases h
    · split at h
      · exact unresolved_of_callIfNeeded h
      · cases h
  case h_4 =>
    split at h
    · cases h
    · cases h
    · exact unresolved_of_callIfNeeded h
  all_goals cases h

-- A frame leaves at its start when its contract is resolved, and otherwise at its end.
theorem phase_of_leave {f : Frame} (h : move d s f = .leave) :
    f.phase = .start ∧ (s.contract f.contract).resolved = true ∨ f.phase = .follow [] := by
  unfold move at h
  split at h
  case h_1 hphase =>
    split at h
    · next hresolved => exact .inl ⟨hphase, hresolved⟩
    · split at h
      · exact absurd h (callIfNeeded_ne_leave _ _ _)
      · cases h
  case h_3 hphase => exact .inr hphase
  case h_4 =>
    split at h
    · cases h
    · cases h
    · exact absurd h (callIfNeeded_ne_leave _ _ _)
  all_goals cases h

theorem resolved_of_leave {f : Frame} {w w' : Work} (hmove : move d w.store f = .leave)
    (heffect : effect d w.store f w = .ok () w') (hlt : f.contract < w.store.contracts.size) :
    (w'.store.contract f.contract).resolved = true := by
  rcases phase_of_leave hmove with ⟨hphase, hresolved⟩ | hphase
  · rw [effect, hphase] at heffect
    cases heffect
    exact hresolved
  · rw [effect, hphase] at heffect
    exact resolved_of_complete heffect hlt

namespace Confined

section

variable {top : Frame} {below : List Frame} {w v : Work} {phase : Phase}

-- Whatever the topmost frame does, it does to its own contract, which the run works on.
theorem act (h : Confined s ⟨top :: below, w⟩) (heffect : effect d w.store top w = .ok () v) {stack : List Frame}
    (hstack : ∀ e ∈ stack.map (·.contract), (s.contract e).resolved = false)
    (hkept : ∀ e < s.contracts.size, e ∈ (top :: below).map (·.contract) →
      e ∈ stack.map (·.contract) ∨ (v.store.contract e).resolved = true) : Confined s ⟨stack, v⟩ := by
  have htouches := touches_of_effect heffect
  have hbusy : Busy s ⟨top :: below, w⟩ top.contract := ⟨h.stack _ (by simp), .inl (by simp)⟩
  refine h.advance htouches hbusy hstack fun e hlt he => ⟨he.1, ?_⟩
  rcases he.2 with hstack | hdone
  · exact hkept e hlt hstack
  · exact .inr (htouches.resolved_of hdone)

theorem stay (h : Confined s ⟨top :: below, w⟩) (heffect : effect d w.store top w = .ok () v) :
    Confined s ⟨{ top with phase } :: below, v⟩ :=
  h.act heffect h.stack fun _ _ he => .inl he

-- The contract of the frame that leaves is resolved, so the run still counts it.
theorem leave (h : Confined s ⟨top :: below, w⟩) (heffect : effect d w.store top w = .ok () v)
    (hmove : move d w.store top = .leave) : Confined s ⟨below, v⟩ := by
  apply h.act heffect
  · intro e he
    exact h.stack e (List.mem_cons_of_mem _ he)
  · intro e hlt he
    rcases List.mem_cons.mp he with rfl | hbelow
    · exact .inr (resolved_of_leave hmove heffect (h.size_eq ▸ hlt))
    · exact .inl hbelow

-- The contract that is called was not resolved at first, since resolved contracts stay so.
theorem call (h : Confined s ⟨top :: below, w⟩) (heffect : effect d w.store top w = .ok () v)
    (hmove : move d w.store top = .call e phase) :
    Confined s ⟨⟨e, .start⟩ :: { top with phase } :: below, v⟩ := by
  have hcalled : (s.contract e).resolved = false := by
    rw [← Bool.not_eq_true]
    intro hs
    have hw : (w.store.contract e).resolved = true := h.resolved e hs
    rw [unresolved_of_call hmove] at hw
    cases hw
  apply h.act heffect
  · intro i hi
    rcases List.mem_cons.mp hi with rfl | hi
    · exact hcalled
    · exact h.stack i hi
  · intro i _ hi
    exact .inl (List.mem_cons_of_mem _ hi)

end

theorem step (h : Confined s x) (hstep : Step d limit x y) : Confined s y := by
  cases hstep with
  | mk hok =>
    obtain ⟨heffect, hnext⟩ := effect_of_stepStack hok
    cases hnext with
    | stay _ => exact h.stay heffect
    | leave hmove => exact h.leave heffect hmove
    | call hmove _ => exact h.call heffect hmove

theorem reaches (h : Confined s x) (hreaches : Reaches d limit x y) : Confined s y := by
  induction hreaches with
  | refl => exact h
  | tail _ hstep ih => exact ih.step hstep

end Confined

/-! ## 2. A whole resolution -/

/-- The second store marks a contract as resolved that the first one does not. -/
def Marks (s t : Store) (e : ContractId) : Prop := (s.contract e).resolved = false ∧ (t.contract e).resolved = true

theorem busy_of_done {w : Work} (h : Busy s ⟨[], w⟩ e) : Marks s w.store e :=
  ⟨h.1, h.2.resolve_left List.not_mem_nil⟩

theorem confined_of_resolve {root : ContractId} {w w' : Work} (h : resolve d limit root w = .ok () w') :
    Confined w.store ⟨[], w'⟩ := by
  by_cases hroot : (w.store.contract root).resolved = true
  · rw [resolve, if_pos hroot] at h
    cases h
    exact .start fun _ he => absurd he List.not_mem_nil
  · have hstart : Confined w.store ⟨[⟨root, .start⟩], w⟩ := .start fun e he => by
      rw [List.mem_singleton.mp he]
      simpa using hroot
    have hplays := plays_resolve d limit root w
    rw [h] at hplays
    cases hplays with
    | finishes hreaches => exact hstart.reaches hreaches

/-- A resolution that goes through leaves every contract that it does not mark as it is.  A parameter of such a contract
changes only if a contract that is marked holds it too, and then it does nothing but come to go both ways, and perhaps
become optional.  Without such a parameter the parameters are what they were. -/
theorem resolve_keeps_unmarked (d : Directory) (limit : Int) (root : ContractId) (w w' : Work)
    (hheld : ∀ c, ∀ id ∈ (w.store.contract c).paramIds, id < w.store.params.size)
    (h : resolve d limit root w = .ok () w') (c : ContractId) (hc : ¬Marks w.store w'.store c) :
    w'.store.contract c = w.store.contract c ∧
      (∀ id ∈ (w.store.contract c).paramIds, w'.store.param id = w.store.param id ∨
        Widened (w.store.param id) (w'.store.param id) ∧
          ∃ e, Marks w.store w'.store e ∧ id ∈ (w.store.contract e).paramIds) ∧
      ((∀ e, Marks w.store w'.store e → ∀ id ∈ (w.store.contract c).paramIds, id ∉ (w.store.contract e).paramIds) →
        w'.store.paramsOf (w'.store.contract c) = w.store.paramsOf (w.store.contract c)) := by
  have hconfined := confined_of_resolve h
  have hcontract : w'.store.contract c = w.store.contract c :=
    hconfined.others c fun hbusy => hc (busy_of_done hbusy)
  have hparams : ∀ id ∈ (w.store.contract c).paramIds, w'.store.param id = w.store.param id ∨
      Widened (w.store.param id) (w'.store.param id) ∧
        ∃ e, Marks w.store w'.store e ∧ id ∈ (w.store.contract e).paramIds := by
    intro id hid
    rcases hconfined.params id (hheld c id hid) with hsame | ⟨hwidened, e, hbusy, he⟩
    · exact .inl hsame
    · exact .inr ⟨hwidened, e, busy_of_done hbusy, he⟩
  refine ⟨hcontract, hparams, fun hunshared => ?_⟩
  rw [hcontract]
  apply List.map_congr_left
  intro id hid
  rcases hparams id hid with hsame | ⟨-, e, hmarks, he⟩
  · exact hsame
  · exact absurd he (hunshared e hmarks id hid)

namespace Shared

-- A parameter that is shared, one of the same name that goes the other way, and another one.
def params : Store :=
  ((({} : Store).pushParam { name := "id" }).pushParam { name := "id", mode := .output, optional := true }).pushParam
    { name := "note" }

def order : Contract := { info := { name := "order" }, declared := [{ serviceName := "audit" }] }

def invoice : Contract := { info := { name := "invoice" } }

def audit : Contract := { info := { name := "audit" } }

def memo : Contract := { info := { name := "memo" } }

/-- The order and the invoice hold one parameter, and the order inherits from the audit. -/
def store : Store := (((params.build order [0]).build invoice [0]).build audit [1]).build memo [2]

def directory : Directory where
  registry := { contracts := [("order", 0), ("invoice", 1), ("audit", 2), ("memo", 3)] }

theorem held (c : ContractId) : ∀ id ∈ (store.contract c).paramIds, id < store.params.size := by
  have hheld : ∀ c < 4, ∀ id ∈ (store.contract c).paramIds, id < store.params.size := by decide
  intro id hid
  exact hheld c (Store.lt_of_mem_paramIds hid) id hid

-- The order and the audit are marked, and the shared parameter comes to go both ways.
theorem resolved : ∃ w', resolve directory 10 0 { store } = .ok () w' ∧ ¬Marks store w'.store 1 ∧
    ¬Marks store w'.store 3 ∧ Marks store w'.store 0 ∧ (∀ e, Marks store w'.store e → 2 ∉ (store.contract e).paramIds) ∧
    (w'.store.param 0).mode = .both := by
  rw [resolve_eq_resolveWithin rfl]
  have hother : ∀ e < 4, e ≠ 3 → 2 ∉ (store.contract e).paramIds := by decide
  refine ⟨_, rfl, fun h => ?_, fun h => ?_, ⟨rfl, by decide⟩, fun e he hid => ?_, by decide⟩
  · exact absurd h.2 (by decide)
  · exact absurd h.2 (by decide)
  · by_cases heq : e = 3
    · subst heq
      exact absurd he.2 (by decide)
    · exact hother e (Store.lt_of_mem_paramIds hid) heq hid

end Shared

-- Resolving the order leaves the invoice and the memo, and the parameter of the memo.
theorem resolve_keeps_unmarked_sample : ∃ w', resolve Shared.directory 10 0 { store := Shared.store } = .ok () w' ∧
    w'.store.contract 1 = Shared.store.contract 1 ∧
    w'.store.paramsOf (w'.store.contract 3) = Shared.store.paramsOf (Shared.store.contract 3) := by
  obtain ⟨w', hw', hinvoice, hmemo, -, hnote, -⟩ := Shared.resolved
  refine ⟨w', hw', ?_, ?_⟩
  · exact (resolve_keeps_unmarked Shared.directory 10 0 _ w' Shared.held hw' 1 hinvoice).1
  · apply (resolve_keeps_unmarked Shared.directory 10 0 _ w' Shared.held hw' 3 hmemo).2.2
    intro e he id hid
    rw [List.mem_singleton.mp hid]
    exact hnote e he

-- Resolving the order changes the parameter of the invoice, which it does not mark.
theorem resolve_changes_shared : ∃ w', resolve Shared.directory 10 0 { store := Shared.store } = .ok () w' ∧
    ¬Marks Shared.store w'.store 1 ∧
    w'.store.paramsOf (w'.store.contract 1) ≠ Shared.store.paramsOf (Shared.store.contract 1) := by
  obtain ⟨w', hw', hinvoice, -, -, -, hboth⟩ := Shared.resolved
  have hcontract := (confined_of_resolve hw').others 1 fun hbusy => hinvoice (busy_of_done hbusy)
  refine ⟨w', hw', hinvoice, fun heq => ?_⟩
  rw [hcontract] at heq
  have hmodes := congrArg (List.map (·.mode)) heq
  have hnow : (Shared.store.contract 1).paramIds = [0] := by decide
  simp [Store.paramsOf, hnow, hboth] at hmodes
  exact absurd hmodes (by decide)

end CallContract.Resolution
