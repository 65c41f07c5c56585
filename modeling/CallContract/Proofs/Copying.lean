import CallContract.Entries
import CallContract.Proofs.Writing

/-!
# Copying — which values can be copied

A copy is made of everything in a value, so a read-only map anywhere in it stands in the way, and so do collections
that lie too deep within each other; nothing else does.  A copy is null when the value is, and it can be written when
the value can.
-/

namespace CallContract.Value

/-! ## 1. Values in a value -/

/-- The values that a collection or a map is made of. -/
def members : Value → List Value
  | .list _ items | .tuple items | .set _ items => items
  | .map _ entries => Entries.values entries
  | _ => []

/-- The room inside of a value, for a walk through its members. -/
def inner? (room : Room) (walk : Walk) : Value → Option Room
  | .list _ _ => room.inside? walk .list
  | .tuple _ => room.inside? walk .tuple
  | .set _ _ => room.inside? walk .set
  | .map readOnly _ => room.inside? walk (mapShape readOnly)
  | _ => none

/-- A value is another one or stands somewhere in it. -/
inductive Occurs (u : Value) : Value → Prop
  | here : Occurs u u
  | within {w v : Value} (hw : w ∈ v.members) (h : Occurs u w) : Occurs u v

variable {room : Room} {u v w : Value}

theorem sizeOf_lt_of_mem_members (h : w ∈ v.members) : sizeOf w < sizeOf v := by
  cases v with
  | list _ items | tuple items | set _ items =>
    have hitem : sizeOf w < sizeOf items := List.sizeOf_lt_of_mem h
    simp only [list.sizeOf_spec, tuple.sizeOf_spec, set.sizeOf_spec]
    omega
  | map _ entries =>
    obtain ⟨e, he, rfl⟩ := List.mem_map.mp h
    have hentry : sizeOf e < sizeOf entries := List.sizeOf_lt_of_mem he
    have hvalue : sizeOf e.2 < sizeOf e := by
      rw [Prod.mk.sizeOf_spec]
      omega
    rw [map.sizeOf_spec]
    omega
  | _ => cases h

theorem allFit_iff {inside? : Option Room} {walk : Walk} {vs : List Value} :
    allFit inside? walk vs = true ↔ ∀ w ∈ vs, ∃ room, inside? = some room ∧ w.fits room walk = true := by
  induction vs with
  | nil => simp [allFit]
  | cons v rest ih =>
    rw [List.forall_mem_cons, ← ih]
    cases inside? <;> simp [allFit]

theorem entriesFit_iff {inside? : Option Room} {walk : Walk} {entries : List (String × Value)} :
    entriesFit inside? walk entries = true ↔
      ∀ w ∈ Entries.values entries, ∃ room, inside? = some room ∧ w.fits room walk = true := by
  induction entries with
  | nil => simp [entriesFit, Entries.values]
  | cons e rest ih =>
    change _ ↔ ∀ w ∈ e.2 :: Entries.values rest, _
    rw [List.forall_mem_cons, ← ih]
    cases inside? <;> simp [entriesFit]

-- There is room for a walk through a value when there is room for its members inside of it.
theorem fits_iff_members {walk : Walk} :
    v.fits room walk = true ↔
      ∀ w ∈ v.members, ∃ inside, v.inner? room walk = some inside ∧ w.fits inside walk = true := by
  cases v with
  | list _ items | tuple items | set _ items => exact allFit_iff
  | map readOnly entries => exact entriesFit_iff
  | _ => simp [fits, members]

theorem occurs_iff_members : Occurs u v ↔ u = v ∨ ∃ w ∈ v.members, Occurs u w := by
  constructor
  · intro h
    cases h with
    | here => exact .inl rfl
    | within hw h => exact .inr ⟨_, hw, h⟩
  · rintro (rfl | ⟨w, hw, h⟩)
    · exact .here
    · exact .within hw h

/-! ## 2. When there is a copy -/

theorem isOk_copyAll {inside? : Option Room} {vs : List Value} :
    (copyAll inside? vs).isOk = true ↔ ∀ w ∈ vs, ∃ room, inside? = some room ∧ (copy room w).isOk = true := by
  induction vs with
  | nil => simp [copyAll, Except.toBool]
  | cons v rest ih =>
    rw [List.forall_mem_cons, ← ih]
    cases inside? with
    | none => simp [copyAll, Except.toBool]
    | some room =>
      rw [copyAll, isOk_both, Bool.and_eq_true]
      simp

theorem isOk_copyEntries {inside? : Option Room} {entries : List (String × Value)} :
    (copyEntries inside? entries).isOk = true ↔
      ∀ w ∈ Entries.values entries, ∃ room, inside? = some room ∧ (copy room w).isOk = true := by
  induction entries with
  | nil => simp [copyEntries, Entries.values, Except.toBool]
  | cons e rest ih =>
    obtain ⟨k, v⟩ := e
    change _ ↔ ∀ w ∈ v :: Entries.values rest, _
    rw [List.forall_mem_cons, ← ih]
    cases inside? with
    | none => simp [copyEntries, Except.toBool]
    | some room =>
      rw [copyEntries, isOk_both, Bool.and_eq_true]
      simp

-- A value can be copied when its members can and it is no read-only map itself.
theorem isOk_copy_iff_members :
    (copy room v).isOk = true ↔ (∀ entries, v ≠ .map true entries) ∧
      ∀ w ∈ v.members, ∃ inside, v.inner? room .copying = some inside ∧ (copy inside w).isOk = true := by
  cases v with
  | list _ items | tuple items | set _ items =>
    rw [copy, isOk_map, isOk_copyAll]
    simp [members, inner?]
  | map readOnly entries =>
    cases readOnly with
    | true => simp [copy, Except.toBool]
    | false =>
      rw [copy, if_neg (by simp), isOk_map, isOk_copyEntries]
      simp [members, inner?, mapShape]
  | _ => simp [copy, members, Except.toBool]

/-- A value can be copied exactly if no read-only map stands anywhere in it and there is room for it. -/
theorem isOk_copy_iff (room : Room) (v : Value) :
    (copy room v).isOk = true ↔ (∀ entries, ¬Occurs (.map true entries) v) ∧ v.fits room .copying = true := by
  have ih : ∀ w ∈ v.members, ∀ inside, (copy inside w).isOk = true ↔
      (∀ entries, ¬Occurs (.map true entries) w) ∧ w.fits inside .copying = true :=
    fun w hw inside => isOk_copy_iff inside w
  rw [isOk_copy_iff_members, fits_iff_members]
  constructor
  · rintro ⟨hself, hmembers⟩
    refine ⟨fun entries hoccurs => ?_, fun w hw => ?_⟩
    · rcases occurs_iff_members.mp hoccurs with rfl | ⟨w, hw, hoccurs⟩
      · exact hself entries rfl
      · obtain ⟨inside, -, hcopy⟩ := hmembers w hw
        exact ((ih w hw inside).mp hcopy).1 entries hoccurs
    · obtain ⟨inside, hinside, hcopy⟩ := hmembers w hw
      exact ⟨inside, hinside, ((ih w hw inside).mp hcopy).2⟩
  · rintro ⟨hoccurs, hfits⟩
    refine ⟨fun entries hv => hoccurs entries (hv ▸ .here), fun w hw => ?_⟩
    obtain ⟨inside, hinside, hfit⟩ := hfits w hw
    exact ⟨inside, hinside, (ih w hw inside).mpr ⟨fun entries h => hoccurs entries (.within hw h), hfit⟩⟩
termination_by sizeOf v
decreasing_by exact sizeOf_lt_of_mem_members hw

/-! ## 3. What a copy keeps -/

theorem isNull_of_copy (h : copy room v = .ok u) : u.isNull = v.isNull := by
  cases v with
  | list _ items | tuple items | set _ items =>
    obtain ⟨_, -, rfl⟩ := ok_of_map h
    rfl
  | map readOnly entries =>
    cases readOnly with
    | true => cases h
    | false =>
      obtain ⟨_, -, rfl⟩ := ok_of_map h
      rfl
  | _ =>
    cases h
    rfl

/-- Two values have integers of the same lengths, and collections of the same kinds in the same places. -/
structure WrittenAlike (u v : Value) : Prop where
  integers : u.integersFit = v.integersFit
  room : ∀ room, u.fits room .writing = v.fits room .writing

mutual

theorem writtenAlike_of_copy (room : Room) (v : Value) {u : Value} (h : copy room v = .ok u) : WrittenAlike u v := by
  cases v with
  | list _ items | tuple items | set _ items =>
    obtain ⟨_, hitems, rfl⟩ := ok_of_map h
    have halike := writtenAlike_of_copyAll _ items hitems
    exact ⟨halike.1, fun room => halike.2 _⟩
  | map readOnly entries =>
    cases readOnly with
    | true => cases h
    | false =>
      obtain ⟨_, hentries, rfl⟩ := ok_of_map h
      have halike := writtenAlike_of_copyEntries _ entries hentries
      exact ⟨halike.1, fun room => halike.2 _⟩
  | _ =>
    cases h
    exact ⟨rfl, fun _ => rfl⟩

theorem writtenAlike_of_copyAll (inside? : Option Room) (vs : List Value) {us : List Value}
    (h : copyAll inside? vs = .ok us) :
    allIntegersFit us = allIntegersFit vs ∧ ∀ room?, allFit room? .writing us = allFit room? .writing vs := by
  cases vs with
  | nil =>
    cases h
    exact ⟨rfl, fun _ => rfl⟩
  | cons v rest =>
    cases inside? with
    | none => cases h
    | some room =>
      rw [copyAll] at h
      obtain ⟨u, hu, hrest⟩ := ok_of_bind h
      obtain ⟨us, hus, hcons⟩ := ok_of_bind hrest
      cases hcons
      have halike := writtenAlike_of_copy room v hu
      have hrest := writtenAlike_of_copyAll (some room) rest hus
      refine ⟨by rw [allIntegersFit, allIntegersFit, halike.integers, hrest.1], fun room? => ?_⟩
      cases room? with
      | none => rfl
      | some room => rw [allFit, allFit, halike.room, hrest.2]

theorem writtenAlike_of_copyEntries (inside? : Option Room) (entries : List (String × Value))
    {copies : List (String × Value)} (h : copyEntries inside? entries = .ok copies) :
    entryIntegersFit copies = entryIntegersFit entries ∧
      ∀ room?, entriesFit room? .writing copies = entriesFit room? .writing entries := by
  cases entries with
  | nil =>
    cases h
    exact ⟨rfl, fun _ => rfl⟩
  | cons e rest =>
    obtain ⟨k, v⟩ := e
    cases inside? with
    | none => cases h
    | some room =>
      rw [copyEntries] at h
      obtain ⟨u, hu, hrest⟩ := ok_of_bind h
      obtain ⟨us, hus, hcons⟩ := ok_of_bind hrest
      cases hcons
      have halike := writtenAlike_of_copy room v hu
      have hrest := writtenAlike_of_copyEntries (some room) rest hus
      refine ⟨by rw [entryIntegersFit, entryIntegersFit, halike.integers, hrest.1], fun room? => ?_⟩
      cases room? with
      | none => rfl
      | some room => rw [entriesFit, entriesFit, halike.room, hrest.2]

end

theorem canBeWritten_of_copy {room' : Room} (h : copy room v = .ok u) :
    u.canBeWritten room' = v.canBeWritten room' := by
  have halike := writtenAlike_of_copy room v h
  rw [canBeWritten, canBeWritten, halike.integers, halike.room]

end CallContract.Value
