import CallContract.Proofs.Coercion.InPlace
import CallContract.Proofs.Coercion.Selection
import Mathlib.Data.List.Perm.Basic

/-!
# SystemMode — a system mode is the part of its direction that is reserved

A system mode takes its parameters from the list of reserved names, a direction takes them from the contract.  Both take
the same reserved parameters, though in another order, and each parameter is filled from the source alone.  So the
target of the system mode holds the reserved part of the other target, and the same holds of the failures.
-/

namespace CallContract.Coercion

open CallContract.Calendar Context

/-! ## 1. Reserved parameters -/

section

variable {s : Store} {c : Contract} {d : Direction} {options : Options} {p : Param}

theorem isSelected_system_iff :
    IsSelected s c (.system d) options p ↔ IsSelected s c (.plain d) options p ∧ p.name ∈ Mode.reserved d := by
  constructor
  · intro h
    exact ⟨⟨h.declared, h.direction, h.internal, nofun⟩, h.reserved d rfl⟩
  · rintro ⟨h, hreserved⟩
    refine ⟨h.declared, h.direction, h.internal, fun d' hd => ?_⟩
    cases hd
    exact hreserved

-- Each reserved parameter is taken once, in whichever order.
theorem taken_system_perm (hc : s.HoldsByName c) :
    (taken s c (.system d) options).Perm
      ((taken s c (.plain d) options).filter fun p => (Mode.reserved d).contains p.name) := by
  have hnodup : ∀ mode, (taken s c mode options).Nodup := fun mode => (nodup_taken hc).of_map
  apply (List.perm_ext_iff_of_nodup (hnodup _) ((hnodup _).filter _)).mpr
  intro p
  rw [List.mem_filter, mem_taken_iff hc, mem_taken_iff hc, isSelected_system_iff, List.contains_iff_mem]

/-- What is made of the parameters of a system mode is the reserved part of what is made of all. -/
theorem filterMap_system_perm {β : Type} (hc : s.HoldsByName c) {f : Param → Option β} {isReserved : β → Bool}
    (h : ∀ p b, f p = some b → isReserved b = (Mode.reserved d).contains p.name) :
    ((taken s c (.system d) options).filterMap f).Perm
      (((taken s c (.plain d) options).filterMap f).filter isReserved) := by
  rw [filter_filterMap_of_apart fun p _ b hb => h p b hb]
  exact (taken_system_perm hc).filterMap f

end

/-! ## 2. The two modes side by side -/

/-- Whether a failure is one of a reserved parameter. -/
def isOfReserved (d : Direction) (e : Mismatch) : Bool := e.field?.any (Mode.reserved d).contains

/-- How the target of a system mode stands beside that of its direction.  `guided` are the failures of looking for a
locale and a zone, which belong to no parameter. -/
structure Restricts (d : Direction) (guided : List Mismatch) (all reserved : ContextWork) : Prop where
  entries_perm : reserved.entries.Perm (all.entries.filter fun e => (Mode.reserved d).contains e.1)
  failures_perm : ∃ own ownReserved, all.failures = guided ++ own ∧ reserved.failures = guided ++ ownReserved ∧
    ownReserved.Perm (own.filter (isOfReserved d))

/-- A system mode is its direction restricted to the reserved parameters: whenever filling a fresh target for the one
and for the other returns, the target of the system mode has just the entries of the other one whose key is reserved,
and its failures of parameters are those of reserved ones, in another order at most. -/
theorem system_mode_restricts (around : Surroundings) (s : Store) (c : Contract) (d : Direction) (source : Value)
    (m : Entries Value) (withInternal : Bool) (locale? : Option Locale) (zone? : Option Zone) (uses uses₂ : Nat)
    (w₁ w₂ : ContextWork) (hc : s.HoldsByName c) (hmap : entries (given source) = .ok m)
    (hall : fill around s c (.plain d) (.value source) { withInternal, locale?, zone? } (begin (.ofEntries []) uses)
      = .ok () w₁)
    (hreserved : fill around s c (.system d) (.value source) { withInternal, locale?, zone? }
      (begin (.ofEntries []) uses₂) = .ok () w₂) :
    Restricts d (mismatches (guidanceReadings around.toWorld locale? zone? m)) w₁ w₂ := by
  let options : Options := { withInternal, locale?, zone? }
  let plan := filling around c.name options (.value source) (chosen around locale? zone? m)
  have houtcome := outcome_of_fill hc hmap rfl rfl hall
  have houtcome₂ := outcome_of_fill hc hmap rfl rfl hreserved
  refine ⟨?_, (taken s c (.plain d) options).filterMap (plan.failure? m),
    (taken s c (.system d) options).filterMap (plan.failure? m), houtcome.failures_eq, houtcome₂.failures_eq, ?_⟩
  · rw [houtcome.entries_eq, houtcome₂.entries_eq]
    apply filterMap_system_perm hc
    intro p e he
    obtain ⟨v, -, rfl⟩ := Option.map_eq_some_iff.mp he
    rfl
  · apply filterMap_system_perm hc
    intro p e he
    rw [isOfReserved, field?_of_failure? he]
    rfl

namespace Sample

-- A service that takes a number, and two reserved parameters in another order than that of their names' list.
def userLogin : Param := { name := "userLogin", type := "Long" }

def language : Param := { name := "locale" }

def visit : Contract := { info := { name := "visit" }, params := [("qty", 0), ("userLogin", 1), ("locale", 2)] }

def visits : Store := { params := #[quantity, userLogin, language], contracts := #[visit] }

-- Two texts that are no numbers.
def visitor : Entries Value := [("qty", .text "four"), ("userLogin", .text "ann"), ("locale", .text "de")]

theorem holdsByName_visit : visits.HoldsByName visit :=
  ⟨by simp [visit, visits, Store.param, quantity, userLogin, language], by simp [visit, Entries.keys]⟩

end Sample

-- The system mode leaves the number out, and with it one of two failures.
theorem system_mode_restricts_sample :
    ∃ w₁ w₂, fill Sample.around Sample.visits Sample.visit .input (.value (.ofEntries Sample.visitor)) {} Sample.work
          = .ok () w₁ ∧
      fill Sample.around Sample.visits Sample.visit (.system .input) (.value (.ofEntries Sample.visitor)) {}
          Sample.work = .ok () w₂ ∧
      Restricts .input [] w₁ w₂ ∧ w₂.entries = [("locale", .text "de"), ("userLogin", .text "ann")] ∧
      w₁.failures.length = 2 ∧ w₂.failures.length = 1 := by
  have hrestricts := system_mode_restricts Sample.around Sample.visits Sample.visit .input
    (.ofEntries Sample.visitor) Sample.visitor true none none 0 0 _ _ Sample.holdsByName_visit rfl rfl rfl
  exact ⟨_, _, rfl, rfl, hrestricts, rfl, rfl, rfl⟩

end CallContract.Coercion
