import CallContract.Proofs.Resolution.Warnings
import Mathlib.Data.List.Dedup

/-!
# Patching — what the patches of a contract make of its parameters

Each patch takes its parameter out and puts it back at the end, so places shift as later patches run, and a patch sets
some fields of what earlier ones have left.  In the end neither matters: a parameter stands where its last patch has put
it, and each of its fields is as the last patch that sets this field has it.

## Main statements

* `Content.params_foldl_applyPatch`: the closed form of any number of patches.
* `applyPatches_closed_form`: patching a contract goes through, comes to the closed form, and reports exactly the patches
  that name none of its parameters.
-/

namespace CallContract

open Resolution

/-! ## 1. The last patch that sets a field -/

namespace Patch

/-- What the last patch that sets a field sets it to. -/
def lastSet {α : Type} (sets : Patch → Option α) (patches : List Patch) : Option α := patches.reverse.findSome? sets

/-- The parameter with every field as the last patch that sets this field has it.  A text sets its field unless it is
empty, a default unless it is null. -/
def applyLast (patches : List Patch) (p : Param) : Param :=
  { p with
    type := (lastSet (·.type?.filter (· ≠ "")) patches).getD p.type
    mode := (lastSet (·.mode?) patches).getD p.mode
    entityName? := (lastSet (·.entityName?.filter (· ≠ "")) patches).or p.entityName?
    fieldName? := (lastSet (·.fieldName?.filter (· ≠ "")) patches).or p.fieldName?
    formLabel? := (lastSet (·.formLabel?.filter (· ≠ "")) patches).or p.formLabel?
    default := (lastSet (·.default?.filter fun d => !d.isMissing) patches).getD p.default
    formDisplay := (lastSet (·.formDisplay?) patches).getD p.formDisplay
    optional := (lastSet (·.optional?) patches).getD p.optional
    markup := (lastSet (·.markup?) patches).getD p.markup }

theorem lastSet_cons {α : Type} (sets : Patch → Option α) (patch : Patch) (rest : List Patch) :
    lastSet sets (patch :: rest) = (lastSet sets rest).or (sets patch) := by
  rw [lastSet, List.reverse_cons, List.findSome?_append, List.findSome?_singleton]
  rfl

theorem applyLast_nil (p : Param) : applyLast [] p = p := rfl

-- The patches after the first one see what the first one has left.
theorem applyLast_cons (patch : Patch) (rest : List Patch) (p : Param) :
    applyLast (patch :: rest) p = applyLast rest (patch.apply p) := by
  simp only [applyLast, apply, newText, newText?, newDefault, lastSet_cons, Option.getD_or, Option.or_assoc]

end Patch

/-! ## 2. The closed form -/

namespace Content

/-- What stands under a name after patches. -/
def patchedAt? (patches : List Patch) (m : Entries Param) (name : String) : Option (String × Param) :=
  (Entries.get? name m).map fun p => (name, Patch.applyLast (patches.filter (·.name = name)) p)

/-- The parameters after patches: those that no patch names, in their old order, and then the others in the order of
their last patches. -/
def patched (patches : List Patch) (m : Entries Param) : Entries Param :=
  m.filter (fun e => e.1 ∉ patches.map (·.name)) ++
    (patches.map (·.name)).dedup.filterMap (patchedAt? patches m)

variable {k : Content}

theorem applyPatch_of_none {patch : Patch} (hget : Entries.get? patch.name k.params = none) :
    k.applyPatch patch = k := by
  rw [applyPatch, hget]

-- A parameter that is patched goes to the end.
theorem params_applyPatch (hk : k.ByName) {patch : Patch} {p : Param}
    (hget : Entries.get? patch.name k.params = some p) :
    (k.applyPatch patch).params = Entries.erase patch.name k.params ++ [(patch.name, patch.apply p)] := by
  have hname : p.name = patch.name := hk.name_of_get? hget
  have hnew : patch.name ∉ Entries.keys (Entries.erase patch.name k.params) := by
    rw [Entries.keys_erase]
    exact hk.distinct.not_mem_erase
  rw [applyPatch, hget]
  change Entries.put p.name (patch.apply p) _ = _
  rw [hname, Entries.put_of_not_mem hnew]

theorem get?_applyPatch (hk : k.ByName) (patch : Patch) (name : String) :
    Entries.get? name (k.applyPatch patch).params
      = if patch.name = name then (Entries.get? name k.params).map patch.apply else Entries.get? name k.params := by
  cases hget : Entries.get? patch.name k.params with
  | none =>
    rw [applyPatch_of_none hget]
    by_cases hname : patch.name = name
    · rw [if_pos hname, ← hname, hget]
      rfl
    · rw [if_neg hname]
  | some p =>
    rw [applyPatch, hget]
    dsimp only
    rw [Entries.get?_put, hk.name_of_get? hget]
    by_cases hname : patch.name = name
    · rw [if_pos hname, if_pos hname, ← hname, hget]
      rfl
    · rw [if_neg hname, if_neg hname, Entries.get?_erase_of_ne hname]

-- What the first patch does to an entry and what the others do are together what all of them do.
theorem patchedAt?_applyPatch (hk : k.ByName) (patch : Patch) (rest : List Patch) :
    patchedAt? rest (k.applyPatch patch).params = patchedAt? (patch :: rest) k.params := by
  funext name
  rw [patchedAt?, patchedAt?, get?_applyPatch hk]
  by_cases hname : patch.name = name
  · rw [if_pos hname, List.filter_cons_of_pos (by simpa using hname), Option.map_map]
    exact congrArg (Option.map · _) (funext fun p => by rw [Patch.applyLast_cons]; rfl)
  · rw [if_neg hname, List.filter_cons_of_neg (by simpa using hname)]

-- A patch without a parameter does not change what the others do.
theorem patched_of_none {patch : Patch} {m : Entries Param} (hget : Entries.get? patch.name m = none)
    (rest : List Patch) (hentries : patchedAt? rest m = patchedAt? (patch :: rest) m) :
    patched rest m = patched (patch :: rest) m := by
  have hothers : m.filter (fun e => e.1 ∉ rest.map (·.name))
      = m.filter (fun e => e.1 ∉ (patch :: rest).map (·.name)) := by
    refine List.filter_congr fun e he => ?_
    have hne : e.1 ≠ patch.name := by
      intro heq
      obtain ⟨p, hp⟩ := Entries.mem_keys_iff.mp (heq ▸ List.mem_map_of_mem (f := Prod.fst) he)
      rw [hget] at hp
      cases hp
    simp [hne]
  rw [patched, patched, hothers, hentries, List.map_cons]
  by_cases hmem : patch.name ∈ rest.map (·.name)
  · rw [List.dedup_cons_of_mem hmem]
  · have hnone : patchedAt? (patch :: rest) m patch.name = none := by
      rw [patchedAt?, hget]
      rfl
    rw [List.dedup_cons_of_notMem hmem, List.filterMap_cons_none hnone]

-- A parameter that a patch puts at the end stays there unless a later patch names it again.
theorem patched_of_some {patch : Patch} {m m' : Entries Param} {p : Param} (hm : (Entries.keys m).Nodup)
    (hm' : m' = Entries.erase patch.name m ++ [(patch.name, patch.apply p)])
    (hget : Entries.get? patch.name m = some p) (rest : List Patch)
    (hentries : patchedAt? rest m' = patchedAt? (patch :: rest) m) :
    patched rest m' = patched (patch :: rest) m := by
  have hothers : (Entries.erase patch.name m).filter (fun e => e.1 ∉ rest.map (·.name))
      = m.filter (fun e => e.1 ∉ (patch :: rest).map (·.name)) := by
    rw [Entries.erase_eq_filter hm, List.filter_filter]
    refine List.filter_congr fun e _ => ?_
    rw [Bool.eq_iff_iff]
    simp [and_comm]
  rw [patched, patched, hentries, hm', List.filter_append, hothers, List.append_assoc, List.map_cons]
  by_cases hmem : patch.name ∈ rest.map (·.name)
  · rw [List.dedup_cons_of_mem hmem, List.filter_cons_of_neg (by simpa using hmem), List.filter_nil, List.nil_append]
  · have hlater : rest.filter (·.name = patch.name) = [] := by
      rw [List.filter_eq_nil_iff]
      intro other hother heq
      exact hmem (List.mem_map.mpr ⟨other, hother, by simpa using heq⟩)
    have hlast : patchedAt? (patch :: rest) m patch.name = some (patch.name, patch.apply p) := by
      rw [patchedAt?, hget, List.filter_cons_of_pos (by simp), hlater, Option.map_some, Patch.applyLast_cons,
        Patch.applyLast_nil]
    rw [List.dedup_cons_of_notMem hmem, List.filterMap_cons_some hlast, List.filter_cons_of_pos (by simpa using hmem),
      List.filter_nil]
    rfl

theorem patched_applyPatch (hk : k.ByName) (patch : Patch) (rest : List Patch) :
    patched rest (k.applyPatch patch).params = patched (patch :: rest) k.params := by
  have hentries := patchedAt?_applyPatch hk patch rest
  cases hget : Entries.get? patch.name k.params with
  | none =>
    rw [applyPatch_of_none hget] at hentries ⊢
    exact patched_of_none hget rest hentries
  | some p => exact patched_of_some hk.distinct (params_applyPatch hk hget) hget rest hentries

/-- Patching the parameters one patch after the other gives the closed form. -/
theorem params_foldl_applyPatch (hk : k.ByName) (patches : List Patch) :
    (patches.foldl applyPatch k).params = patched patches k.params := by
  induction patches generalizing k with
  | nil => simp [patched]
  | cons patch rest ih => rw [List.foldl_cons, ih (byName_applyPatch hk patch), patched_applyPatch hk]

theorem properties_foldl_applyPatch (k : Content) (patches : List Patch) :
    (patches.foldl applyPatch k).properties = k.properties := by
  induction patches generalizing k with
  | nil => rfl
  | cons patch rest ih =>
    rw [List.foldl_cons, ih, applyPatch]
    cases Entries.get? patch.name k.params <;> rfl

end Content

/-! ## 3. The contract that is patched -/

namespace Resolution

/-- Patching a contract goes through.  Its parameters that no patch names come first, as they were, and then the patched
ones in the order of their last patches, each field as the last patch that sets it has it; and the patches that are
reported are those whose name none of its parameters has. -/
theorem applyPatches_closed_form (r : Registry) (c : ContractId) (w : Work) (hs : WellFormed r w.store)
    (hc : c < w.store.contracts.size) (hnames : w.store.HoldsByName (w.store.contract c)) :
    ∃ w', applyPatches c w = .ok () w' ∧
      (w'.store.content c).params = Content.patched (w.store.contract c).patches (w.store.content c).params ∧
      (w'.store.content c).properties = (w.store.content c).properties ∧
      w'.warnings = w.warnings ++
        danglingAmong (w.store.contract c).name (namesOf w.store c) (w.store.contract c).patches := by
  have hbyName := Content.byName_content hnames
  obtain ⟨w', hw', -, -, hcontent⟩ := forM_applyPatch_spec hs hc (hs.patches_settled c)
  refine ⟨w', hw', ?_, ?_, warnings_forM_applyPatch hs hc hbyName (hs.patches_settled c) hw'⟩
  · rw [hcontent, Content.params_foldl_applyPatch hbyName]
  · rw [hcontent, Content.properties_foldl_applyPatch]

namespace Patching

def params : Store :=
  ((({} : Store).pushParam { name := "note" }).pushParam { name := "id" }).pushParam { name := "total" }

/-- The patches of an order: two for one of its parameters, one for another, and one for none. -/
def patches : List Patch :=
  [{ name := "note", type? := some "Long", optional? := some true }, { name := "tax", mode? := some .output },
    { name := "id", mode? := some .output }, { name := "note", type? := some "", mode? := some .both }]

def order : Contract := { info := { name := "order" }, patches }

def store : Store := params.build order [0, 1, 2]

theorem wellFormed : WellFormed {} store := .of_lt (by decide) (by decide) (by decide)

end Patching

-- What the first patch sets stays set, the places are those of the last patches, and one patch is reported.
theorem applyPatches_closed_form_sample :
    ∃ w', applyPatches 0 { store := Patching.store } = .ok () w' ∧
      (w'.store.content 0).params.map (fun e => (e.1, e.2.type, e.2.mode, e.2.optional))
        = [("total", "String", .input, false), ("id", "String", .output, false), ("note", "Long", .both, true)] ∧
      w'.warnings = [.danglingPatch "order" "tax"] := by
  obtain ⟨w', hw', hparams, -, hwarnings⟩ :=
    applyPatches_closed_form {} 0 { store := Patching.store } Patching.wellFormed (by decide) ⟨by decide, by decide⟩
  refine ⟨w', hw', ?_, hwarnings.trans (by decide)⟩
  rw [hparams]
  decide

end Resolution

end CallContract
