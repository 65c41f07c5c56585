import CallContract.Entries
import Mathlib.Data.List.Induction
import Mathlib.Data.List.Nodup

/-!
# Entries — reading through a change of values

A map whose values are replaced one by one keeps its keys, so writing, erasing and looking up commute with the
replacement.  Writing back what is there changes nothing.  Pairs that are written one after the other all stay if their
keys differ; otherwise the last one with a key remains.
-/

namespace CallContract.Entries

variable {α β : Type}

/-! ## 1. Writing and erasing -/

-- Writing back the value at a key changes nothing.
theorem put_of_get? {key : String} {value : α} {m : Entries α} (h : get? key m = some value) :
    put key value m = m := by
  induction m with
  | nil => simp [get?] at h
  | cons p rest ih =>
    obtain ⟨k, v⟩ := p
    rw [get?] at h
    rw [put]
    by_cases hk : k = key
    · rw [if_pos hk] at h ⊢
      cases h
      rfl
    · rw [if_neg hk] at h ⊢
      rw [ih h]

-- A key that a first part does not have is written to the second one.
theorem put_append {key : String} {m : Entries α} (h : key ∉ keys m) (value : α) (n : Entries α) :
    put key value (m ++ n) = m ++ put key value n := by
  induction m with
  | nil => rfl
  | cons p rest ih =>
    obtain ⟨k, v⟩ := p
    have hk : k ≠ key := fun e => h (List.mem_cons.mpr (.inl e.symm))
    rw [List.cons_append, put, if_neg hk, ih fun hrest => h (List.mem_cons_of_mem k hrest)]
    rfl

-- A new key goes to the end.
theorem put_of_not_mem {key : String} {m : Entries α} (h : key ∉ keys m) (value : α) :
    put key value m = m ++ [(key, value)] := by
  have hend := put_append h value []
  rwa [List.append_nil] at hend

theorem mem_values_of_get? {key : String} {value : α} {m : Entries α} (h : get? key m = some value) :
    value ∈ values m := by
  induction m with
  | nil => simp [get?] at h
  | cons p rest ih =>
    obtain ⟨k, v⟩ := p
    rw [get?] at h
    by_cases hk : k = key
    · rw [if_pos hk] at h
      cases h
      exact List.mem_cons_self
    · rw [if_neg hk] at h
      exact List.mem_cons_of_mem v (ih h)

-- A map that has been written to holds the new value and some of the old ones.
theorem mem_values_put {key : String} {value x : α} {m : Entries α} (h : x ∈ values (put key value m)) :
    x = value ∨ x ∈ values m := by
  induction m with
  | nil => exact Or.inl (by simpa [put, values] using h)
  | cons p rest ih =>
    obtain ⟨k, v⟩ := p
    rw [put] at h
    by_cases hk : k = key
    · rw [if_pos hk] at h
      rcases List.mem_cons.mp h with hx | hx
      · exact Or.inl hx
      · exact Or.inr (List.mem_cons_of_mem v hx)
    · rw [if_neg hk] at h
      rcases List.mem_cons.mp h with hx | hx
      · exact Or.inr (List.mem_cons.mpr (Or.inl hx))
      · exact (ih hx).imp_right (List.mem_cons_of_mem v)

theorem nodup_values_put {key : String} {value : α} {m : Entries α} (hm : (values m).Nodup)
    (hv : value ∉ values m) : (values (put key value m)).Nodup := by
  induction m with
  | nil => simp [put, values]
  | cons p rest ih =>
    obtain ⟨k, v⟩ := p
    have hrest : (values rest).Nodup := (List.nodup_cons.mp hm).2
    have hvr : value ∉ values rest := fun h => hv (List.mem_cons_of_mem v h)
    rw [put]
    by_cases hk : k = key
    · rw [if_pos hk]
      exact List.nodup_cons.mpr ⟨hvr, hrest⟩
    · rw [if_neg hk]
      refine List.nodup_cons.mpr ⟨fun h => ?_, ih hrest hvr⟩
      rcases mem_values_put h with hx | hx
      · exact hv (hx ▸ List.mem_cons_self)
      · exact (List.nodup_cons.mp hm).1 hx

theorem values_erase_sublist (key : String) (m : Entries α) : (values (erase key m)).Sublist (values m) := by
  induction m with
  | nil => exact List.Sublist.refl _
  | cons p rest ih =>
    obtain ⟨k, v⟩ := p
    rw [erase]
    by_cases hk : k = key
    · rw [if_pos hk]
      exact List.sublist_cons_self v (values rest)
    · rw [if_neg hk]
      exact ih.cons_cons v

theorem get?_append (key : String) (m n : Entries α) : get? key (m ++ n) = (get? key m).or (get? key n) := by
  induction m with
  | nil => rfl
  | cons p rest ih =>
    obtain ⟨k, v⟩ := p
    by_cases hk : k = key <;> simp [get?, hk, ih]

theorem has_append (key : String) (m n : Entries α) : has key (m ++ n) = (has key m || has key n) := by
  rw [has, get?_append]
  cases h : get? key m <;> simp [has, h]

-- A filter that accepts a key under any value leaves what stands under it.
theorem get?_filter {key : String} {accept : String × α → Bool} (ha : ∀ v, accept (key, v) = true) (m : Entries α) :
    get? key (m.filter accept) = get? key m := by
  induction m with
  | nil => rfl
  | cons p rest ih =>
    obtain ⟨k, v⟩ := p
    by_cases hk : k = key
    · subst hk
      rw [List.filter_cons_of_pos (ha v)]
      simp [get?]
    · by_cases hp : accept (k, v) = true
      · rw [List.filter_cons_of_pos hp]
        simpa [get?, hk] using ih
      · rw [List.filter_cons_of_neg hp]
        simpa [get?, hk] using ih

theorem has_filter {key : String} {m : Entries α} {accept : String × α → Bool} (h : has key m = true)
    (ha : ∀ v, accept (key, v) = true) : has key (m.filter accept) = true := by
  rw [has, get?_filter ha]
  exact h

/-! ## 2. Members -/

theorem mem_of_get? {key : String} {value : α} {m : Entries α} (h : get? key m = some value) : (key, value) ∈ m := by
  induction m with
  | nil => simp [get?] at h
  | cons p rest ih =>
    obtain ⟨k, v⟩ := p
    by_cases hk : k = key
    · simp only [get?, hk, if_true, Option.some.injEq] at h
      simp [hk, h]
    · simp only [get?, hk, if_false] at h
      exact List.mem_cons_of_mem _ (ih h)

theorem get?_of_mem {key : String} {value : α} {m : Entries α} (hm : (keys m).Nodup) (h : (key, value) ∈ m) :
    get? key m = some value := by
  induction m with
  | nil => cases h
  | cons p rest ih =>
    obtain ⟨k, v⟩ := p
    obtain ⟨hk, hrest⟩ := List.nodup_cons.mp hm
    rcases List.mem_cons.mp h with heq | h
    · cases heq
      simp [get?]
    · have hkey : key ∈ keys rest := List.mem_map_of_mem (f := Prod.fst) h
      have hne : k ≠ key := fun e => hk (e ▸ hkey)
      simp only [get?, hne, if_false]
      exact ih hrest h

theorem mem_put {key : String} {value : α} {e : String × α} {m : Entries α} (h : e ∈ put key value m) :
    e = (key, value) ∨ e ∈ m := by
  induction m with
  | nil => exact Or.inl (by simpa [put] using h)
  | cons p rest ih =>
    obtain ⟨k, v⟩ := p
    rw [put] at h
    by_cases hk : k = key
    · rw [if_pos hk] at h
      rcases List.mem_cons.mp h with he | he
      · exact Or.inl (by rw [he, hk])
      · exact Or.inr (List.mem_cons_of_mem _ he)
    · rw [if_neg hk] at h
      rcases List.mem_cons.mp h with he | he
      · exact Or.inr (he ▸ List.mem_cons_self)
      · exact (ih he).imp_right (List.mem_cons_of_mem _)

theorem erase_sublist (key : String) (m : Entries α) : (erase key m).Sublist m := by
  induction m with
  | nil => exact List.Sublist.refl _
  | cons p rest ih =>
    obtain ⟨k, v⟩ := p
    rw [erase]
    by_cases hk : k = key
    · rw [if_pos hk]
      exact List.sublist_cons_self _ rest
    · rw [if_neg hk]
      exact ih.cons_cons _

-- Where no key is there twice, erasing one leaves all the others.
theorem erase_eq_filter {key : String} {m : Entries α} (hm : (keys m).Nodup) :
    erase key m = m.filter fun e => e.1 ≠ key := by
  induction m with
  | nil => rfl
  | cons p rest ih =>
    obtain ⟨k, v⟩ := p
    obtain ⟨hk, hrest⟩ := List.nodup_cons.mp hm
    by_cases h : k = key
    · have hother : ∀ e ∈ rest, decide (e.1 ≠ key) = true := by
        intro e he
        have hkey : e.1 ∈ keys rest := List.mem_map_of_mem (f := Prod.fst) he
        exact decide_eq_true fun heq => hk (h.trans heq.symm ▸ hkey)
      rw [erase, if_pos h, List.filter_cons_of_neg (by simpa using h), List.filter_eq_self.mpr hother]
    · rw [erase, if_neg h, List.filter_cons_of_pos (by simpa using h), ih hrest]

-- Erasing a key leaves what stands under the others.
theorem get?_erase_of_ne {key other : String} (h : key ≠ other) (m : Entries α) :
    get? other (erase key m) = get? other m := by
  induction m with
  | nil => rfl
  | cons p rest ih =>
    obtain ⟨k, v⟩ := p
    by_cases hk : k = key
    · simp [erase, hk, get?, h]
    · simp [erase, hk, get?, ih]

-- A map that is made of elements under different names has what each of them gives.
theorem get?_filterMap {name : β → String} {give : β → Option α} {bs : List β} (h : (bs.map name).Nodup) {b : β}
    (hb : b ∈ bs) : get? (name b) (bs.filterMap fun b => (give b).map (name b, ·)) = give b := by
  induction bs with
  | nil => cases hb
  | cons c rest ih =>
    obtain ⟨hhead, htail⟩ := List.nodup_cons.mp h
    rcases List.mem_cons.mp hb with rfl | hb
    · cases hgive : give b with
      | some a => simp [hgive, get?]
      | none =>
        have hnone : ¬∃ a, get? (name b) (rest.filterMap fun b => (give b).map (name b, ·)) = some a := by
          rw [← mem_keys_iff]
          intro hkey
          obtain ⟨e, he, hname⟩ := List.mem_map.mp hkey
          obtain ⟨d, hd, hgiven⟩ := List.mem_filterMap.mp he
          obtain ⟨a, -, rfl⟩ := Option.map_eq_some_iff.mp hgiven
          exact hhead (List.mem_map.mpr ⟨d, hd, hname⟩)
        simpa [hgive, Option.eq_none_iff_forall_ne_some] using hnone
    · have hne : name c ≠ name b := fun e => hhead (List.mem_map.mpr ⟨b, hb, e.symm⟩)
      cases hgive : give c with
      | none => simpa [hgive] using ih htail hb
      | some a => simpa [hgive, get?, hne] using ih htail hb

/-! ## 3. Replacing values -/

/-- The map with each value replaced. -/
def mapValues (f : α → β) (m : Entries α) : Entries β := m.map fun p => (p.1, f p.2)

theorem values_mapValues (f : α → β) (m : Entries α) : values (mapValues f m) = (values m).map f := by
  simp [values, mapValues]

theorem keys_mapValues (f : α → β) (m : Entries α) : keys (mapValues f m) = keys m := by
  simp [keys, mapValues, Function.comp_def]

theorem get?_mapValues (f : α → β) (key : String) (m : Entries α) :
    get? key (mapValues f m) = (get? key m).map f := by
  induction m with
  | nil => rfl
  | cons p rest ih =>
    obtain ⟨k, v⟩ := p
    change (if k = key then some (f v) else get? key (mapValues f rest)) = _
    rw [ih, get?]
    by_cases hk : k = key <;> simp [hk]

theorem mapValues_put (f : α → β) (key : String) (value : α) (m : Entries α) :
    mapValues f (put key value m) = put key (f value) (mapValues f m) := by
  induction m with
  | nil => rfl
  | cons p rest ih =>
    obtain ⟨k, v⟩ := p
    change _ = if k = key then (k, f value) :: mapValues f rest
      else (k, f v) :: put key (f value) (mapValues f rest)
    rw [put, ← ih]
    by_cases hk : k = key
    · rw [if_pos hk, if_pos hk]
      rfl
    · rw [if_neg hk, if_neg hk]
      rfl

theorem mapValues_erase (f : α → β) (key : String) (m : Entries α) :
    mapValues f (erase key m) = erase key (mapValues f m) := by
  induction m with
  | nil => rfl
  | cons p rest ih =>
    obtain ⟨k, v⟩ := p
    change _ = if k = key then mapValues f rest else (k, f v) :: erase key (mapValues f rest)
    rw [erase, ← ih]
    by_cases hk : k = key
    · rw [if_pos hk, if_pos hk]
    · rw [if_neg hk, if_neg hk]
      rfl

theorem mapValues_congr {f g : α → β} {m : Entries α} (h : ∀ v ∈ values m, f v = g v) :
    mapValues f m = mapValues g m := by
  apply List.map_congr_left
  intro p hp
  rw [h p.2 (List.mem_map_of_mem hp)]

-- Replacing differently only the value that one key holds is writing to that key.
theorem mapValues_update {f g : α → β} {key : String} {value : α} {m : Entries α} (hm : (values m).Nodup)
    (hk : get? key m = some value) (hfg : ∀ v, v ≠ value → g v = f v) :
    mapValues g m = put key (g value) (mapValues f m) := by
  induction m with
  | nil => simp [get?] at hk
  | cons p rest ih =>
    obtain ⟨k, v⟩ := p
    have hv : v ∉ values rest := (List.nodup_cons.mp hm).1
    rw [get?] at hk
    change (k, g v) :: mapValues g rest = if k = key then (k, g value) :: mapValues f rest
      else (k, f v) :: put key (g value) (mapValues f rest)
    by_cases h : k = key
    · rw [if_pos h] at hk ⊢
      cases hk
      rw [mapValues_congr fun x hx => hfg x fun e => hv (e ▸ hx)]
    · rw [if_neg h] at hk ⊢
      have hne : v ≠ value := fun e => hv (e ▸ mem_values_of_get? hk)
      rw [hfg v hne, ih (List.nodup_cons.mp hm).2 hk]

/-! ## 4. Pairs written one after the other -/

theorem nodup_keys_put {m : Entries α} (hm : (keys m).Nodup) (key : String) (value : α) :
    (keys (put key value m)).Nodup := by
  rw [keys_put]
  split
  · exact hm
  · next hkey => exact List.nodup_append.mpr ⟨hm, by simp, by simpa using fun k hk (e : k = key) => hkey (e ▸ hk)⟩

theorem ofPairs_snoc (pairs : List (String × α)) (e : String × α) :
    ofPairs (pairs ++ [e]) = put e.1 e.2 (ofPairs pairs) := by
  simp [ofPairs]

theorem mem_keys_ofPairs {key : String} {pairs : List (String × α)} :
    key ∈ keys (ofPairs pairs) ↔ key ∈ pairs.map (·.1) := by
  induction pairs using List.reverseRecOn with
  | nil => rfl
  | append_singleton pairs e ih =>
    rw [ofPairs_snoc, keys_put, List.map_append, List.mem_append, ← ih]
    by_cases he : e.1 ∈ keys (ofPairs pairs)
    · rw [if_pos he]
      simp only [List.map_cons, List.map_nil, List.mem_singleton]
      exact (or_iff_left_of_imp fun hkey => hkey ▸ he).symm
    · rw [if_neg he, List.mem_append]
      rfl

theorem length_put (key : String) (value : α) (m : Entries α) :
    (put key value m).length = if key ∈ keys m then m.length else m.length + 1 := by
  have hlength : ∀ m : Entries α, (keys m).length = m.length := fun m => List.length_map ..
  rw [← hlength, keys_put]
  split <;> simp [hlength]

/-- Written pairs all stay apart exactly if no two of them have one key. -/
theorem length_ofPairs_eq_iff (pairs : List (String × α)) :
    (ofPairs pairs).length = pairs.length ↔ (pairs.map (·.1)).Nodup := by
  have hle : ∀ pairs : List (String × α), (ofPairs pairs).length ≤ pairs.length := by
    intro pairs
    induction pairs using List.reverseRecOn with
    | nil => exact Nat.le_refl _
    | append_singleton pairs e ih =>
      rw [ofPairs_snoc, length_put, List.length_append, List.length_singleton]
      split <;> omega
  induction pairs using List.reverseRecOn with
  | nil => simp [ofPairs]
  | append_singleton pairs e ih =>
    have hbound := hle pairs
    have hnodup : ((pairs ++ [e]).map (·.1)).Nodup ↔ (pairs.map (·.1)).Nodup ∧ e.1 ∉ pairs.map (·.1) := by
      rw [List.map_append, List.map_singleton, List.nodup_append_comm, List.singleton_append, List.nodup_cons, and_comm]
    rw [ofPairs_snoc, length_put, List.length_append, List.length_singleton, hnodup, ih.symm]
    split
    · next he => exact iff_of_false (by omega) fun h => h.2 (mem_keys_ofPairs.mp he)
    · next he => rw [Nat.add_right_cancel_iff, and_iff_left fun hmem => he (mem_keys_ofPairs.mpr hmem)]

/-- The last pair with a key decides what stands under it. -/
theorem get?_ofPairs_of_last {key : String} (value : α) (before : List (String × α)) {after : List (String × α)}
    (h : ∀ e ∈ after, e.1 ≠ key) : get? key (ofPairs (before ++ (key, value) :: after)) = some value := by
  induction after using List.reverseRecOn with
  | nil => rw [ofPairs_snoc, get?_put, if_pos rfl]
  | append_singleton after e ih =>
    have he : e.1 ≠ key := h e (by simp)
    rw [← List.cons_append, ← List.append_assoc, ofPairs_snoc, get?_put, if_neg he]
    exact ih fun e he => h e (List.mem_append_left _ he)

end CallContract.Entries
