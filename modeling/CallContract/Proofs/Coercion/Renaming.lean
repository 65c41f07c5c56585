import CallContract.Proofs.Coercion.Selection

/-!
# Renaming — words before the names

Words before the names in the source and in the target change where values are found and where they are written, and
nothing else: parameter by parameter, a run with words does what a run without them does.  Two names may become the
same name, since only their first letters need to differ in case.  Then the later parameter takes the place of the
earlier one, and the target has fewer entries; otherwise nothing is lost.
-/

namespace CallContract.Coercion

open CallContract.Calendar Context

/-! ## 1. Entries under new names -/

/-- The entries of a map, written one after the other under new names. -/
def renamed (rename : String → String) (m : Entries Value) : Entries Value :=
  Entries.ofPairs (m.map fun e => (rename e.1, e.2))

/-- A map has the entries of another one under new names.  Where several get one name, the last of them is there. -/
structure IsRenaming (rename : String → String) (m m' : Entries Value) : Prop where
  mem_keys_iff : ∀ key, key ∈ Entries.keys m' ↔ ∃ n ∈ Entries.keys m, rename n = key
  get?_eq : ∀ before n v after, m = before ++ (n, v) :: after → (∀ e ∈ after, rename e.1 ≠ rename n) →
    Entries.get? (rename n) m' = some v
  /-- Nothing is lost exactly if all names stay different. -/
  length_eq_iff : m'.length = m.length ↔
    ∀ n ∈ Entries.keys m, ∀ n' ∈ Entries.keys m, rename n = rename n' → n = n'

section

variable {rename : String → String} {m : Entries Value}

theorem map_renamed_keys (rename : String → String) (m : Entries Value) :
    (m.map fun e => (rename e.1, e.2)).map (·.1) = (Entries.keys m).map rename := by
  simp [Entries.keys, Function.comp_def]

theorem isRenaming_renamed (rename : String → String) (hm : (Entries.keys m).Nodup) :
    IsRenaming rename m (renamed rename m) where
  mem_keys_iff key := by rw [renamed, Entries.mem_keys_ofPairs, map_renamed_keys, List.mem_map]
  get?_eq before n v after hsplit hlast := by
    rw [renamed, hsplit, List.map_append, List.map_cons]
    apply Entries.get?_ofPairs_of_last
    intro e he
    obtain ⟨e', he', rfl⟩ := List.mem_map.mp he
    exact hlast e' he'
  length_eq_iff := by
    have hlength := Entries.length_ofPairs_eq_iff (m.map fun e => (rename e.1, e.2))
    rw [List.length_map, map_renamed_keys, List.nodup_map_iff_inj_on hm] at hlength
    exact hlength

theorem renamed_put {key : String} (hkey : key ∉ Entries.keys m) (v : Value) :
    renamed rename (Entries.put key v m) = Entries.put (rename key) v (renamed rename m) := by
  rw [Entries.put_of_not_mem hkey, renamed, List.map_append]
  exact Entries.ofPairs_snoc _ _

end

/-! ## 2. Two plans side by side -/

namespace Plan

/-- A plan does what another one does, under new names: every parameter meets the same value, which converts to the
same, and nothing stands in for it. -/
structure Renames (rename : String → String) (plan plan' : Plan) (ps : List Param) : Prop where
  service_eq : plan'.service = plan.service
  convert_eq : ∀ p v, plan'.convert p v = plan.convert p v
  met_eq : ∀ p ∈ ps, ∀ target target', plan'.met? p target' = plan.met? p target
  instead_eq : ∀ p ∈ ps, ∀ target, plan.instead? p target = none ∧ plan'.instead? p target = none
  key_eq : ∀ p, plan'.key p = rename (plan.key p)

/-- The work of a plan, and that of the plan under new names. -/
structure Renamed (rename : String → String) (w w' : ContextWork) : Prop where
  nodup : (Entries.keys w.entries).Nodup
  entries_eq : w'.entries = renamed rename w.entries
  failures_eq : w'.failures = w.failures

section

variable {rename : String → String} {plan plan' : Plan} {p : Param} {ps rest : List Param}
  {w w₁ w' : ContextWork}

theorem Renames.tail (h : Renames rename plan plan' (p :: rest)) : Renames rename plan plan' rest :=
  ⟨h.service_eq, h.convert_eq, fun q hq => h.met_eq q (List.mem_cons_of_mem p hq),
    fun q hq => h.instead_eq q (List.mem_cons_of_mem p hq), h.key_eq⟩

theorem Renamed.put (h : Renames rename plan plan' ps) (hrel : Renamed rename w w')
    (hfresh : plan.key p ∉ Entries.keys w.entries) (v : Value) :
    Renamed rename (plan.put p v w) (plan'.put p v w') where
  nodup := Entries.nodup_keys_put hrel.nodup (plan.key p) v
  entries_eq := by
    change Entries.put (plan'.key p) v w'.entries = renamed rename (Entries.put (plan.key p) v w.entries)
    rw [renamed_put hfresh, hrel.entries_eq, h.key_eq]
  failures_eq := hrel.failures_eq

-- A failure is noted in both.
theorem Renamed.note (hrel : Renamed rename w w') (service? : Option String) (m : Mismatch) :
    Renamed rename (noteFailure service? m w) (noteFailure service? m w') where
  nodup := hrel.nodup
  entries_eq := hrel.entries_eq
  failures_eq := by
    change w'.failures ++ [m] = w.failures ++ [m]
    rw [hrel.failures_eq]

/-- A visit of one plan is a visit of the other under a new name. -/
theorem Visit.renamed (h : Renames rename plan plan' (p :: rest)) (hvisit : plan.Visit p w w₁)
    (hrel : Renamed rename w w') (hfresh : plan.key p ∉ Entries.keys w.entries) :
    ∃ w₁', plan'.Visit p w' w₁' ∧ Renamed rename w₁ w₁' := by
  have hmet : plan'.met? p w'.entries = plan.met? p w.entries := h.met_eq p List.mem_cons_self _ _
  obtain ⟨hnone, hnone'⟩ := h.instead_eq p List.mem_cons_self w.entries
  cases hvisit with
  | converted hvalue hconvert =>
    exact ⟨_, .converted (hmet.trans hvalue) ((h.convert_eq p _).trans hconvert), hrel.put h hfresh _⟩
  | @kept v m hvalue hconvert hfield htype hkept =>
    have hvisit' := Visit.kept (hmet.trans hvalue) ((h.convert_eq p v).trans hconvert) hfield htype hkept
    rw [h.service_eq] at hvisit'
    exact ⟨_, hvisit', (hrel.note _ m).put h hfresh v⟩
  | gathered _ hinstead =>
    rw [hnone] at hinstead
    cases hinstead
  | passed hvalue _ =>
    exact ⟨w', .passed (hmet.trans hvalue) (h.instead_eq p List.mem_cons_self w'.entries).2, hrel⟩

-- A visit adds no other key than that of its parameter.
theorem Visit.mem_keys (hvisit : plan.Visit p w w₁) {key : String} (hkey : key ∈ Entries.keys w₁.entries) :
    key = plan.key p ∨ key ∈ Entries.keys w.entries := by
  have hput : ∀ v, key ∈ Entries.keys (Entries.put (plan.key p) v w.entries) →
      key = plan.key p ∨ key ∈ Entries.keys w.entries := by
    intro v hmem
    rw [Entries.keys_put] at hmem
    split at hmem
    · exact .inr hmem
    · exact (List.mem_append.mp hmem).symm.imp_left List.mem_singleton.mp
  cases hvisit with
  | converted => exact hput _ hkey
  | kept => exact hput _ hkey
  | gathered => exact hput _ hkey
  | passed => exact .inr hkey

/-- Visits under keys of their own are visits under new names as well. -/
theorem Visits.renamed (h : Renames rename plan plan' ps) (hvisits : plan.Visits ps w w₁) (hrel : Renamed rename w w')
    (hkeys : (ps.map plan.key).Nodup) (hfresh : ∀ p ∈ ps, plan.key p ∉ Entries.keys w.entries) :
    ∃ w₁', plan'.Visits ps w' w₁' ∧ Renamed rename w₁ w₁' := by
  induction hvisits generalizing w' with
  | nil w => exact ⟨w', .nil w', hrel⟩
  | @cons p rest w w₁ w₂ hvisit _ ih =>
    obtain ⟨hhead, htail⟩ := List.nodup_cons.mp hkeys
    obtain ⟨w₁', hvisit', hrel₁⟩ := hvisit.renamed h hrel (hfresh p List.mem_cons_self)
    have hrest : ∀ q ∈ rest, plan.key q ∉ Entries.keys w₁.entries := by
      intro q hq hkey
      rcases hvisit.mem_keys hkey with heq | hold
      · exact hhead (heq ▸ List.mem_map_of_mem hq)
      · exact hfresh q (List.mem_cons_of_mem p hq) hold
    obtain ⟨w₂', hvisits', hrel₂⟩ := ih h.tail hrel₁ htail hrest
    exact ⟨w₂', .cons hvisit' hvisits', hrel₂⟩

end

end Plan

/-! ## 3. Filling with words -/

section

variable {around : Surroundings} {s : Store} {c : Contract} {mode : Mode} {options : Options} {source source' : Value}
  {m m' : Entries Value} {w w' : ContextWork}

/-- Without groupings, filling with words does what filling without them does from a source that holds the same values
under the bare names. -/
theorem renames_filling (service : String) (guide : Locale × Zone) (ps : List Param)
    (hplain : ∀ p ∈ ps, gathers p = false) (hmap : entries (given source) = .ok m)
    (hmap' : entries (given source') = .ok m')
    (hread : ∀ p ∈ ps, Entries.get? p.name m' = Entries.get? (options.sourceKey p) m) :
    Plan.Renames (joinedName options.targetWord?)
      (filling around service { options with sourceWord? := none, targetWord? := none } (.value source') guide)
      (filling around service options (.value source) guide) ps where
  service_eq := rfl
  convert_eq _ _ := rfl
  met_eq p hp _ _ := by
    simp only [filling, Source.entriesIn, hmap, hmap']
    exact (hread p hp).symm
  instead_eq p hp target := by simp [filling, hplain p hp]
  key_eq _ := rfl

/-- With a locale and a zone given, filling that returns has visited the parameters. -/
theorem visits_of_fill {locale : Locale} {zone : Zone} {source : Source} (hsource : source.IsMap)
    (hlocale : options.locale? = some locale) (hzone : options.zone? = some zone) (hw : w.access = .writable)
    (hfill : fill around s c mode source options w = .ok () w') :
    (filling around c.name options source (locale, zone)).Visits (taken s c mode options) w w' := by
  have hends := fill_ends around s c mode source options w (isListed_of_fill hfill) hsource hw
  rw [hlocale, hzone] at hends
  exact hends.visits w' hfill

end

/-- Words before the names only rename: whenever filling a fresh target without words returns, filling one with words,
from a source that has the same values under the names with the word, returns the same entries under new names, and
tells the same failures.  Entries are lost exactly if two of the names become one, and then the last of them stays. -/
theorem prefixes_only_rename (around : Surroundings) (s : Store) (c : Contract) (mode : Mode) (options : Options)
    (locale : Locale) (zone : Zone) (source source' : Value) (m m' : Entries Value) (uses : Nat) (w₁ : ContextWork)
    (hc : s.HoldsByName c) (hplain : ∀ p ∈ s.paramsOf c, gathers p = false)
    (hlocale : options.locale? = some locale) (hzone : options.zone? = some zone)
    (hmap : entries (given source) = .ok m) (hmap' : entries (given source') = .ok m')
    (hread : ∀ p ∈ s.paramsOf c, Entries.get? p.name m' = Entries.get? (joinedName options.sourceWord? p.name) m)
    (hfill : fill around s c mode (.value source') { options with sourceWord? := none, targetWord? := none }
      (begin (.ofEntries []) uses) = .ok () w₁) :
    ∃ w₂, fill around s c mode (.value source) options (begin (.ofEntries []) uses) = .ok () w₂ ∧
      IsRenaming (joinedName options.targetWord?) w₁.entries w₂.entries ∧ w₂.failures = w₁.failures := by
  let plan := filling around c.name { options with sourceWord? := none, targetWord? := none } (.value source')
    (locale, zone)
  let worded := filling around c.name options (.value source) (locale, zone)
  let ps := taken s c mode options
  have hsource : (Source.value source).IsMap := ⟨m, hmap⟩
  have hsource' : (Source.value source').IsMap := ⟨m', hmap'⟩
  have hvisits : plan.Visits ps (begin (.ofEntries []) uses) w₁ := visits_of_fill hsource' hlocale hzone rfl hfill
  have hrenames : plan.Renames (joinedName options.targetWord?) worded ps :=
    renames_filling c.name (locale, zone) ps (fun p hp => hplain p (mem_paramsOf_of_taken hp)) hmap hmap'
      fun p hp => hread p (mem_paramsOf_of_taken hp)
  have hstart : Plan.Renamed (joinedName options.targetWord?) (begin (.ofEntries []) uses)
      (begin (.ofEntries []) uses) := ⟨List.nodup_nil, rfl, rfl⟩
  obtain ⟨w₂, hvisits₂, hrenamed⟩ := hvisits.renamed hrenames hstart (nodup_taken hc) fun p _ => List.not_mem_nil
  refine ⟨w₂, ?_, ?_, hrenamed.failures_eq⟩
  · rw [fill_of_given (isListed_of_fill hfill) hlocale hzone]
    have hfollows : worded.Follows (takeParam around c.name options locale zone (.value source)) :=
      follows_takeParam hsource
    exact hfollows.run_of_visits hvisits₂ rfl
  · rw [hrenamed.entries_eq]
    exact isRenaming_renamed _ hrenamed.nodup

namespace Sample

-- A service that tells a town from the one whose name is written with a capital.
def town : Param := { name := "city" }

def capital : Param := { name := "City" }

def travel : Contract := { info := { name := "travel" }, params := [("city", 0), ("City", 1)] }

def travels : Store := { params := #[town, capital], contracts := #[travel] }

-- Where the values for both stand, and the options with a word before the names in the target.
def towns : Value := .ofEntries [("city", .text "Rome"), ("City", .text "Oslo")]

theorem holdsByName_travel : travels.HoldsByName travel :=
  ⟨by simp [travel, travels, Store.param, town, capital], by simp [travel, Entries.keys]⟩

end Sample

-- From words before the names in the source to words before the names in the target.
theorem prefixes_only_rename_sample :
    ∃ w₂, fill Sample.around Sample.moves Sample.move .input
          (.value (.ofEntries [("toCity", .text "Rome"), ("toShipCity", .text "Oslo")]))
          { Sample.onward with sourceWord? := some "to" } Sample.work = .ok () w₂ ∧
      IsRenaming (joinedName (some "ship")) Sample.cities w₂.entries ∧ w₂.failures = [] := by
  have hread : ∀ p ∈ [Sample.city, Sample.shipCity, Sample.receipt], Entries.get? p.name Sample.cities
      = Entries.get? (joinedName (some "to") p.name) [("toCity", .text "Rome"), ("toShipCity", .text "Oslo")] := by
    simp only [List.forall_mem_cons, List.not_mem_nil, false_imp_iff, implies_true, and_true]
    exact ⟨rfl, rfl, rfl⟩
  exact prefixes_only_rename Sample.around Sample.moves Sample.move .input
    { Sample.onward with sourceWord? := some "to" } .enUS .utc
    (.ofEntries [("toCity", .text "Rome"), ("toShipCity", .text "Oslo")]) (.ofEntries Sample.cities) _ _ 0
    { entries := Sample.cities } Sample.holdsByName_move (by decide) rfl rfl rfl rfl hread rfl

/-- Names that differ in the case of their first letter become one behind a word, and the later value takes the place of
the earlier one. -/
theorem clashing_names_lose_a_value :
    Sample.travels.HoldsByName Sample.travel ∧ (∀ p ∈ Sample.travels.paramsOf Sample.travel, gathers p = false) ∧
      ∃ w₁ w₂, fill Sample.around Sample.travels Sample.travel .input (.value Sample.towns)
            { Sample.onward with targetWord? := none } Sample.work = .ok () w₁ ∧
        fill Sample.around Sample.travels Sample.travel .input (.value Sample.towns) Sample.onward Sample.work
          = .ok () w₂ ∧
        Entries.get? "city" w₁.entries = some (.text "Rome") ∧
        Entries.get? (joinedName (some "ship") "city") w₂.entries = some (.text "Oslo") ∧
        w₁.entries.length = 2 ∧ w₂.entries.length = 1 :=
  ⟨Sample.holdsByName_travel, by decide, _, _, rfl, rfl, rfl, rfl, rfl, rfl⟩

end CallContract.Coercion
