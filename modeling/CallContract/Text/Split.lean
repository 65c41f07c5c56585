/-!
# Split — cutting text at separators, and finding one text in another
-/

namespace CallContract.Text

/-- The pieces between the occurrences of a character; there is one more piece than occurrences. -/
def splitOnChar (sep : Char) : List Char → List (List Char)
  | [] => [[]]
  | c :: rest =>
    if c = sep then [] :: splitOnChar sep rest
    else match splitOnChar sep rest with
      | [] => [[c]]
      | piece :: pieces => (c :: piece) :: pieces

/-- The pieces between the occurrences of `sep`, found from the left without overlap; `current` is the piece
read so far, reversed. -/
def splitOnFrom (sep current : List Char) : List Char → List (List Char)
  | [] => [current.reverse]
  | c :: rest =>
    if _h : sep ≠ [] ∧ sep.isPrefixOf (c :: rest) then
      current.reverse :: splitOnFrom sep [] ((c :: rest).drop sep.length)
    else splitOnFrom sep (c :: current) rest
  termination_by s => s.length
  decreasing_by
    · have : 0 < sep.length := List.length_pos_iff.2 _h.1
      simp only [List.length_drop, List.length_cons]; omega
    · simp

-- The pieces of a text between the occurrences of a separator that is not empty.
def splitOn (sep s : List Char) : List (List Char) := splitOnFrom sep [] s

/-- The pieces joined with a separator between neighbours. -/
def joinWith (sep : List Char) : List (List Char) → List Char
  | [] => []
  | [piece] => piece
  | piece :: rest => piece ++ sep ++ joinWith sep rest

def occursIn (part : List Char) : List Char → Bool
  | [] => part.isEmpty
  | c :: rest => part.isPrefixOf (c :: rest) || occursIn part rest

-- An occurrence has a text before it and one after it.
theorem occursIn_eq_true_iff {part s : List Char} :
    occursIn part s = true ↔ ∃ before after, s = before ++ part ++ after := by
  induction s with
  | nil =>
    constructor
    · intro h; exact ⟨[], [], by simpa [occursIn] using h⟩
    · rintro ⟨before, after, h⟩; simp_all [occursIn]
  | cons c rest ih =>
    simp only [occursIn, Bool.or_eq_true, ih, List.isPrefixOf_iff_prefix]
    constructor
    · rintro (⟨after, h⟩ | ⟨before, after, h⟩)
      · exact ⟨[], after, h.symm⟩
      · exact ⟨c :: before, after, by simp [h]⟩
    · rintro ⟨before, after, h⟩
      cases before with
      | nil => exact .inl ⟨after, h.symm⟩
      | cons b before =>
        simp only [List.cons_append, List.cons.injEq] at h
        exact .inr ⟨before, after, h.2⟩

theorem splitOnChar_ne_nil (sep : Char) (s : List Char) : splitOnChar sep s ≠ [] := by
  induction s with
  | nil => simp [splitOnChar]
  | cons c rest ih =>
    unfold splitOnChar
    split
    · simp
    · split <;> simp_all

-- Joining the pieces again gives the text.
theorem joinWith_splitOnChar (sep : Char) (s : List Char) : joinWith [sep] (splitOnChar sep s) = s := by
  induction s with
  | nil => rfl
  | cons c rest ih =>
    unfold splitOnChar
    split
    · rename_i h
      cases hp : splitOnChar sep rest with
      | nil => exact absurd hp (splitOnChar_ne_nil sep rest)
      | cons piece pieces => rw [hp] at ih; simp [joinWith, ih, h]
    · cases hp : splitOnChar sep rest with
      | nil => exact absurd hp (splitOnChar_ne_nil sep rest)
      | cons piece pieces =>
        rw [hp] at ih
        cases pieces <;> simp_all [joinWith]

end CallContract.Text
