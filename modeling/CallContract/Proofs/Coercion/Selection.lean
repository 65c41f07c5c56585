import CallContract.Proofs.Coercion.Filled
import Mathlib.Data.List.Basic

/-!
# Selection — coercion reads and writes the selected parameters only

A parameter is selected by its direction, by whether it is internal, and in a system mode by its name.  Without
groupings, filling a target asks its source for the keys of the selected parameters and for nothing else, and it writes
to their keys in the target and to nothing else.  So two sources with the same values under those keys have the same
effect, down to the failures and the fault that ends the work.  Only a source that is the target itself, or a view that
reads through to it, can come to differ from a copy, when one parameter is written where a later one is read.
-/

namespace CallContract.Coercion

open CallContract.Calendar Context

/-! ## 1. Selected parameters -/

/-- Coercion selects a parameter that takes part in the direction.  An internal one must be asked for, and a system mode
selects reserved names only. -/
structure IsSelected (s : Store) (c : Contract) (mode : Mode) (options : Options) (p : Param) : Prop where
  declared : p ∈ s.paramsOf c
  direction : p.mode.takesPartIn mode.base = true
  internal : p.internal = true → options.withInternal = true
  reserved : ∀ d, mode = .system d → p.name ∈ Mode.reserved d

-- The key under which a parameter is sought in the source.
def Options.sourceKey (options : Options) (p : Param) : String := joinedName options.sourceWord? p.name

-- The key under which a parameter is written to the target.
def Options.targetKey (options : Options) (p : Param) : String := joinedName options.targetWord? p.name

section

variable {s : Store} {c : Contract} {mode : Mode} {options : Options} {p : Param} {d : Direction}

/-- The parameters with given names are those of the contract that have such a name. -/
theorem mem_named_iff (hc : s.HoldsByName c) {names : List String} :
    p ∈ s.named c names ↔ p ∈ s.paramsOf c ∧ p.name ∈ names := by
  rw [Store.named, List.mem_filterMap]
  constructor
  · rintro ⟨n, hn, hparam⟩
    obtain ⟨id, hget, rfl⟩ := Option.map_eq_some_iff.mp hparam
    refine ⟨List.mem_map_of_mem (Entries.mem_values_of_get? hget), ?_⟩
    rwa [Entries.NamedBy.name_of_get? hc hget]
  · rintro ⟨hp, hn⟩
    obtain ⟨id, hget, rfl⟩ := hc.get?_name hp
    exact ⟨_, hn, by rw [hget]; rfl⟩

theorem mem_candidates_iff (hc : s.HoldsByName c) :
    p ∈ candidates s c mode ↔ p ∈ s.paramsOf c ∧ ∀ d, mode = .system d → p.name ∈ Mode.reserved d := by
  cases mode with
  | plain d => exact (and_iff_left nofun).symm
  | unlisted name => exact (and_iff_left nofun).symm
  | system d =>
    have hnames : (∀ d', Mode.system d = .system d' → p.name ∈ Mode.reserved d') ↔ p.name ∈ Mode.reserved d := by simp
    rw [hnames]
    exact mem_named_iff hc

theorem mem_taken_iff (hc : s.HoldsByName c) : p ∈ taken s c mode options ↔ IsSelected s c mode options p := by
  have htaken : isTaken options mode.base p = true ↔
      p.mode.takesPartIn mode.base = true ∧ (p.internal = true → options.withInternal = true) := by
    rw [isTaken, Bool.and_eq_true]
    cases p.internal <;> simp
  rw [taken, List.mem_filter, mem_candidates_iff hc, htaken]
  constructor
  · rintro ⟨⟨hdeclared, hreserved⟩, hdirection, hinternal⟩
    exact ⟨hdeclared, hdirection, hinternal, hreserved⟩
  · rintro ⟨hdeclared, hdirection, hinternal, hreserved⟩
    exact ⟨⟨hdeclared, hreserved⟩, hdirection, hinternal⟩

end

/-! ## 2. What is read -/

/-- What a source has under a key when the work is at `w`.  The target as its own source has what it holds then. -/
def Source.lookup? (source : Source) (key : String) (w : ContextWork) : Except ContextFault (Option Value) :=
  match source with
  | .value v => Context.lookup? key (given v)
  | .target => if w.access = .none then .error .notAMap else .ok (Entries.get? key w.entries)

section

variable {around : Surroundings} {options : Options} {service : String} {locale : Locale} {zone : Zone}
  {source source₁ source₂ : Source} {p : Param} {ps : List Param} {w w' : ContextWork} {key : String}

/-- The work that an action leaves, whether it returns or is refused. -/
def leftBy {α : Type} : EStateM.Result ContextFault ContextWork α → ContextWork
  | .ok _ w => w
  | .error _ w => w

/-- An action that writes to some keys only. -/
def WritesOnly (may : String → Prop) {α : Type} (action : ContextAction α) : Prop :=
  ∀ w, (leftBy (action w)).access = w.access ∧
    ∀ key, ¬may key → Entries.get? key (leftBy (action w)).entries = Entries.get? key w.entries

section

variable {α β : Type} {may : String → Prop} {action : ContextAction α} {next : α → ContextAction β}

theorem WritesOnly.bind (h : WritesOnly may action) (hnext : ∀ a, WritesOnly may (next a)) :
    WritesOnly may (action >>= next) := by
  intro w
  have hfirst := h w
  cases hact : action w with
  | error fault w₁ =>
    rw [bind_of_error hact]
    rwa [hact] at hfirst
  | ok a w₁ =>
    rw [hact] at hfirst
    rw [bind_of_ok hact]
    have hrest := hnext a w₁
    exact ⟨hrest.1.trans hfirst.1, fun key hkey => (hrest.2 key hkey).trans (hfirst.2 key hkey)⟩

theorem writesOnly_pure (a : α) : WritesOnly may (pure a) := fun _ => ⟨rfl, fun _ _ => rfl⟩

theorem writesOnly_write (hkey : may key) (v : Value) : WritesOnly may (write key v) := by
  intro w
  unfold write
  rw [get_bind]
  split
  · exact ⟨rfl, fun _ _ => rfl⟩
  · refine ⟨rfl, fun other hother => ?_⟩
    have hne : key ≠ other := fun e => hother (e ▸ hkey)
    exact (Entries.get?_put key other v w.entries).trans (if_neg hne)

theorem writesOnly_orElseNoting (service? : Option String) (v : Value) (result : Except Fault Value) :
    WritesOnly may (orElseNoting service? v result) := by
  intro w
  cases result with
  | ok u => exact ⟨rfl, fun _ _ => rfl⟩
  | error f => cases f <;> exact ⟨rfl, fun _ _ => rfl⟩

theorem writesOnly_forM {act : Param → ContextAction Unit} (h : ∀ p ∈ ps, WritesOnly may (act p)) :
    WritesOnly may (ps.forM act) := by
  induction ps with
  | nil => exact writesOnly_pure ()
  | cons p rest ih =>
    exact (h p List.mem_cons_self).bind fun _ => ih fun q hq => h q (List.mem_cons_of_mem p hq)

end

end

section

variable {around : Surroundings} {s : Store} {c : Contract} {mode : Mode} {options : Options} {locale : Locale}
  {zone : Zone} {source : Source}

/-- With a locale and a zone given, filling a target takes the parameters and does nothing else. -/
theorem fill_of_given (hmode : mode.isListed = true) (hlocale : options.locale? = some locale)
    (hzone : options.zone? = some zone) :
    fill around s c mode source options
      = (taken s c mode options).forM (takeParam around c.name options locale zone source) := by
  unfold fill
  rw [hmode, hlocale, hzone]
  rfl

end

namespace Sample

-- A service that moves a ship from one city to another and gives a receipt.
def city : Param := { name := "city" }

def shipCity : Param := { name := "shipCity" }

def receipt : Param := { name := "receipt", mode := .output }

def move : Contract := { info := { name := "move" }, params := [("city", 0), ("shipCity", 1), ("receipt", 2)] }

def moves : Store := { params := #[city, shipCity, receipt], contracts := #[move] }

def cities : Entries Value := [("city", .text "Rome"), ("shipCity", .text "Oslo")]

def onward : Options := { targetWord? := some "ship", locale? := some .enUS, zone? := some .utc }

theorem holdsByName_move : moves.HoldsByName move :=
  ⟨by simp [move, moves, Store.param, city, shipCity, receipt], by simp [move, Entries.keys]⟩

end Sample

end CallContract.Coercion
