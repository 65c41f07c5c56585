import CallContract.Text.Blank
import CallContract.Text.Split
import Mathlib.Data.List.Basic
import Mathlib.Data.List.DropRight

/-!
# Pieces — trimmed texts, and texts in pieces

Trimming takes away the blanks in front and behind, and nothing is left to take away then.  The pieces of a text are the
only texts without the separator that are joined to it, so that splitting and joining undo each other.
-/

namespace CallContract.Text

variable {sep c : Char} {s front back piece : List Char} {pieces : List (List Char)} {p : Char → Bool}

/-! ## 1. Trimming -/

/-- A text with no blank in front and none behind. -/
structure IsTrimmed (s : List Char) : Prop where
  head : ∀ c ∈ s.head?, isBlank c = false
  last : ∀ c ∈ s.getLast?, isBlank c = false

theorem isTrimmed_trim (s : List Char) : IsTrimmed (trim s) where
  head := by
    intro c hc
    obtain ⟨rest, hrest⟩ : trim s <+: s.dropWhile isBlank := List.rdropWhile_prefix isBlank _
    have hhead : (s.dropWhile isBlank).head? = some c := by
      rw [← hrest, List.head?_append, Option.mem_def.mp hc, Option.some_or]
    have hnot := List.head?_dropWhile_not isBlank s
    rwa [hhead] at hnot
  last := by
    intro c hc
    obtain ⟨hne, rfl⟩ := List.mem_getLast?_eq_getLast hc
    exact Bool.eq_false_iff.mpr (List.rdropWhile_last_not isBlank (s.dropWhile isBlank) hne)

theorem trim_of_isTrimmed (h : IsTrimmed s) : trim s = s := by
  have hfront : s.dropWhile isBlank = s := by
    cases s with
    | nil => rfl
    | cons c rest => exact List.dropWhile_cons_of_neg (by simp [h.head c rfl])
  have hback : s.rdropWhile isBlank = s :=
    List.rdropWhile_eq_self_iff.mpr fun hne => by simp [h.last _ (List.getLast?_eq_some_getLast hne)]
  change (s.dropWhile isBlank).rdropWhile isBlank = s
  rw [hfront, hback]

theorem trim_eq_self_iff : trim s = s ↔ IsTrimmed s := ⟨fun h => h ▸ isTrimmed_trim s, trim_of_isTrimmed⟩

theorem trim_trim (s : List Char) : trim (trim s) = trim s := trim_of_isTrimmed (isTrimmed_trim s)

theorem trim_append_left (hfront : ∀ c ∈ front, isBlank c = true) (s : List Char) : trim (front ++ s) = trim s := by
  rw [trim, List.dropWhile_append_of_pos hfront, trim]

theorem trim_append_right (hback : ∀ c ∈ back, isBlank c = true) (s : List Char) : trim (s ++ back) = trim s := by
  have hreverse : ∀ c ∈ back.reverse, isBlank c = true := fun c hc => hback c (List.mem_reverse.mp hc)
  rw [trim, trim, List.dropWhile_append]
  split
  · next hall =>
    rw [List.isEmpty_iff.mp hall, List.dropWhile_eq_nil_iff.mpr hback]
  · rw [List.reverse_append, List.dropWhile_append_of_pos hreverse]

/-- What holds of the blank code points holds of every blank. -/
theorem forall_blank {q : Nat → Prop} (h : ∀ r ∈ blankRuns, ∀ n ∈ List.range' r.1 (r.2 + 1 - r.1), q n)
    (hc : isBlank c = true) : q c.toNat := by
  obtain ⟨r, hr, hlow, hhigh⟩ := exists_of_inRuns hc
  exact h r hr c.toNat (List.mem_range'_1.mpr ⟨hlow, by omega⟩)

/-- A text is what is left between the characters that are dropped at its two ends. -/
theorem exists_ends (p : Char → Bool) (s : List Char) :
    ∃ front back, s = front ++ (((s.dropWhile p).reverse.dropWhile p).reverse ++ back)
      ∧ (∀ c ∈ front, p c = true) ∧ ∀ c ∈ back, p c = true := by
  refine ⟨s.takeWhile p, ((s.dropWhile p).reverse.takeWhile p).reverse, ?_, fun c hc => List.mem_takeWhile_imp hc,
    fun c hc => List.mem_takeWhile_imp (List.mem_reverse.mp hc)⟩
  rw [← List.reverse_append, List.takeWhile_append_dropWhile, List.reverse_reverse, List.takeWhile_append_dropWhile]

/-- What is left of a text lies between the blanks at its ends. -/
theorem exists_blanks (s : List Char) : ∃ front back, s = front ++ (trim s ++ back)
    ∧ (∀ c ∈ front, isBlank c = true) ∧ ∀ c ∈ back, isBlank c = true := exists_ends isBlank s

theorem mem_of_mem_trim (h : c ∈ trim s) : c ∈ s := by
  obtain ⟨front, back, hs, -⟩ := exists_blanks s
  rw [hs]
  exact List.mem_append_right _ (List.mem_append_left _ h)

-- Trimming comes before or after a change that leaves blanks blank, and nothing else.
theorem trim_map {f : Char → Char} (hf : ∀ c, isBlank (f c) = isBlank c) (s : List Char) :
    trim (s.map f) = (trim s).map f := by
  have hblank : isBlank ∘ f = isBlank := funext hf
  rw [trim, trim, List.dropWhile_map, hblank, ← List.map_reverse, List.dropWhile_map, hblank, ← List.map_reverse]

/-- Trimming is of no account where the blanks are left out anyway. -/
theorem filter_trim (hs : ∀ c ∈ s, isBlank c = true → p c = false) : (trim s).filter p = s.filter p := by
  obtain ⟨front, back, hparts, hfront, hback⟩ := exists_blanks s
  have hnone : ∀ t ⊆ s, (∀ c ∈ t, isBlank c = true) → t.filter p = [] := fun t ht hblank =>
    List.filter_eq_nil_iff.mpr fun c hc => by simp [hs c (ht hc) (hblank c hc)]
  have hfrontNone := hnone front (hparts ▸ List.subset_append_left ..) hfront
  have hbackNone := hnone back (hparts ▸ List.subset_append_of_subset_right _ (List.subset_append_right ..)) hback
  conv_rhs => rw [hparts]
  rw [List.filter_append, List.filter_append, hfrontNone, hbackNone, List.nil_append, List.append_nil]

/-! ## 2. Splitting and joining -/

theorem splitOnChar_eq_splitOn (sep : Char) (s : List Char) : splitOnChar sep s = s.splitOn sep := by
  induction s with
  | nil => rfl
  | cons c rest ih =>
    rw [splitOnChar, ih, List.splitOn_cons_eq_if_modifyHead]
    by_cases hc : c = sep
    · simp [hc]
    · obtain ⟨piece, pieces, hrest⟩ := List.exists_cons_of_ne_nil (List.splitOn_ne_nil sep rest)
      simp [hc, hrest]

theorem joinWith_cons {between part : List Char} {rest : List (List Char)} (hrest : rest ≠ []) :
    joinWith between (part :: rest) = part ++ between ++ joinWith between rest :=
  joinWith.eq_3 between part rest hrest

theorem joinWith_eq_intercalate (sep : List Char) (pieces : List (List Char)) :
    joinWith sep pieces = sep.intercalate pieces := by
  induction pieces using joinWith.induct with
  | case1 => rfl
  | case2 piece => simp [joinWith]
  | case3 piece rest hne ih =>
    obtain ⟨next, rest, rfl⟩ := List.exists_cons_of_ne_nil hne
    rw [joinWith_cons hne, ih, List.intercalate_cons_cons]

theorem notMem_of_mem_splitOnChar (h : piece ∈ splitOnChar sep s) : sep ∉ piece := by
  induction s generalizing piece with
  | nil => simp_all [splitOnChar]
  | cons c rest ih =>
    unfold splitOnChar at h
    split at h
    · rcases List.mem_cons.mp h with rfl | h
      · exact List.not_mem_nil
      · exact ih h
    · next hc =>
      split at h
      · next hrest => exact absurd hrest (splitOnChar_ne_nil sep rest)
      · next first others hrest =>
        rw [hrest] at ih
        rcases List.mem_cons.mp h with rfl | h
        · simp [Ne.symm hc, ih List.mem_cons_self]
        · exact ih (List.mem_cons_of_mem first h)

/-- The pieces of a text are the texts without the separator that are joined to it. -/
theorem splitOnChar_eq_iff :
    splitOnChar sep s = pieces ↔ pieces ≠ [] ∧ (∀ piece ∈ pieces, sep ∉ piece) ∧ joinWith [sep] pieces = s := by
  constructor
  · rintro rfl
    exact ⟨splitOnChar_ne_nil sep s, fun piece => notMem_of_mem_splitOnChar, joinWith_splitOnChar sep s⟩
  · rintro ⟨hne, hpieces, rfl⟩
    rw [splitOnChar_eq_splitOn, joinWith_eq_intercalate]
    exact List.splitOn_intercalate sep hpieces hne

theorem splitOnChar_of_notMem (h : sep ∉ s) : splitOnChar sep s = [s] :=
  splitOnChar_eq_iff.mpr ⟨List.cons_ne_nil s [], List.forall_mem_singleton.mpr h, rfl⟩

theorem splitOnChar_append_cons (s rest : List Char) :
    splitOnChar sep (s ++ sep :: rest) = splitOnChar sep s ++ splitOnChar sep rest := by
  simp only [splitOnChar_eq_splitOn, List.splitOn_append_cons_self]

/-- The pieces of a joined text are the pieces of its parts. -/
theorem splitOnChar_joinWith (hne : pieces ≠ []) :
    splitOnChar sep (joinWith [sep] pieces) = pieces.flatMap (splitOnChar sep) := by
  induction pieces using joinWith.induct with
  | case1 => exact absurd rfl hne
  | case2 piece => exact (List.flatMap_singleton ..).symm
  | case3 piece rest hrest ih =>
    rw [joinWith_cons hrest, List.append_assoc, List.singleton_append, splitOnChar_append_cons, ih hrest,
      List.flatMap_cons]

/-- A text is one piece, or a piece and a text behind the first separator. -/
theorem pieces_induction {motive : List Char → Prop} (sep : Char) (one : ∀ piece, sep ∉ piece → motive piece)
    (more : ∀ piece rest, sep ∉ piece → motive rest → motive (piece ++ sep :: rest)) (s : List Char) : motive s := by
  by_cases h : sep ∈ s
  · obtain ⟨piece, rest, hs, hpiece⟩ := List.eq_append_cons_of_mem h
    rw [hs]
    exact more piece rest hpiece (pieces_induction sep one more rest)
  · exact one s h
  termination_by s.length
  decreasing_by rw [hs]; simp only [List.length_append, List.length_cons]; omega

theorem splitOnFrom_singleton (current : List Char) :
    splitOnFrom [sep] current s = (splitOnChar sep s).modifyHead (current.reverse ++ ·) := by
  induction s generalizing current with
  | nil => simp [splitOnFrom, splitOnChar]
  | cons c rest ih =>
    obtain ⟨piece, pieces, hrest⟩ := List.exists_cons_of_ne_nil (splitOnChar_ne_nil sep rest)
    rw [splitOnFrom]
    by_cases hc : c = sep
    · simp [hc, ih, splitOnChar, hrest]
    · simp [hc, Ne.symm hc, ih, splitOnChar, hrest]

/-- Cutting at a text of one character is cutting at the character. -/
theorem splitOn_singleton (sep : Char) (s : List Char) : splitOn [sep] s = splitOnChar sep s := by
  obtain ⟨piece, pieces, hs⟩ := List.exists_cons_of_ne_nil (splitOnChar_ne_nil sep s)
  rw [splitOn, splitOnFrom_singleton, hs]
  rfl

/-! ## 3. Joined texts -/

section

variable {between : List Char} {parts : List (List Char)}

theorem mem_joinWith (h : c ∈ joinWith between parts) : c ∈ between ∨ ∃ part ∈ parts, c ∈ part := by
  induction parts using joinWith.induct with
  | case1 => cases h
  | case2 part => exact .inr ⟨part, List.mem_singleton_self part, h⟩
  | case3 part rest hrest ih =>
    rw [joinWith_cons hrest, List.mem_append, List.mem_append] at h
    rcases h with (h | h) | h
    · exact .inr ⟨part, List.mem_cons_self, h⟩
    · exact .inl h
    · exact (ih h).imp_right fun ⟨other, hother, hc⟩ => ⟨other, List.mem_cons_of_mem part hother, hc⟩

/-- What is joined behind the first part is the end of what is joined. -/
theorem joinWith_tail_isSuffix (between : List Char) (parts : List (List Char)) :
    joinWith between parts.tail <:+ joinWith between parts := by
  rcases parts with _ | ⟨part, _ | ⟨next, rest⟩⟩
  · exact List.suffix_rfl
  · exact List.nil_suffix
  · exact List.suffix_append ..

theorem joinWith_tail_ne (h : joinWith [sep] parts ≠ []) : joinWith [sep] parts.tail ≠ joinWith [sep] parts := by
  rcases parts with _ | ⟨part, _ | ⟨next, rest⟩⟩
  · exact absurd rfl h
  · exact h.symm
  · intro heq
    have hlength := congrArg List.length heq
    rw [List.tail_cons, joinWith_cons (List.cons_ne_nil next rest), List.length_append, List.length_append,
      List.length_singleton] at hlength
    omega

theorem head?_joinWith (hne : ∀ part ∈ parts, part ≠ []) :
    (joinWith between parts).head? = parts.head?.bind List.head? := by
  cases parts with
  | nil => rfl
  | cons part rest =>
    obtain ⟨c, tail, rfl⟩ := List.exists_cons_of_ne_nil (hne part List.mem_cons_self)
    cases rest <;> rfl

theorem getLast?_joinWith (hne : ∀ part ∈ parts, part ≠ []) :
    (joinWith between parts).getLast? = parts.getLast?.bind List.getLast? := by
  induction parts using joinWith.induct with
  | case1 => rfl
  | case2 part => rfl
  | case3 part rest hrest ih =>
    obtain ⟨next, others, rfl⟩ := List.exists_cons_of_ne_nil hrest
    have hlast : next :: others ≠ [] := List.cons_ne_nil next others
    have hne' : (next :: others).getLast hlast ≠ [] := hne _ (List.mem_cons_of_mem part (List.getLast_mem hlast))
    rw [joinWith_cons hrest, List.getLast?_append, ih fun other h => hne other (List.mem_cons_of_mem part h),
      List.getLast?_cons_cons, List.getLast?_eq_some_getLast hlast, Option.bind_some,
      List.getLast?_eq_some_getLast hne', Option.some_or]

/-- Joined parts are trimmed when the first one begins with no blank and the last one ends with none. -/
theorem isTrimmed_joinWith (hne : ∀ part ∈ parts, part ≠ [])
    (hhead : ∀ part ∈ parts.head?, ∀ c ∈ part.head?, isBlank c = false)
    (hlast : ∀ part ∈ parts.getLast?, ∀ c ∈ part.getLast?, isBlank c = false) : IsTrimmed (joinWith between parts) where
  head := by
    intro c hc
    rw [head?_joinWith hne] at hc
    obtain ⟨part, hpart, hc⟩ := Option.bind_eq_some_iff.mp hc
    exact hhead part hpart c hc
  last := by
    intro c hc
    rw [getLast?_joinWith hne] at hc
    obtain ⟨part, hpart, hc⟩ := Option.bind_eq_some_iff.mp hc
    exact hlast part hpart c hc

end

end CallContract.Text
