import CallContract.Proofs.Stateful
import CallContract.Value.Written

/-!
# Writing — which values have texts

An integer that is too long keeps a value from being written, and so do collections that lie too deep within each
other for the room there is; nothing else does.  The displayed form fails besides for a timestamp whose offset cannot
be used.
-/

namespace CallContract

namespace Value

open CallContract.Number

mutual

/-- Whether every integer in a value has at most `maxDigits` digits. -/
def integersFit : Value → Bool
  | .int n => (Text.natDigits n.natAbs).length ≤ Whole.maxDigits
  | .list _ items | .tuple items | .set _ items => allIntegersFit items
  | .map _ entries => entryIntegersFit entries
  | _ => true

def allIntegersFit : List Value → Bool
  | [] => true
  | v :: rest => integersFit v && allIntegersFit rest

def entryIntegersFit : List (String × Value) → Bool
  | [] => true
  | (_, v) :: rest => integersFit v && entryIntegersFit rest

end

/-- Whether a value can be written where there is some room: its integers are not too long, and its collections do not
lie too deep within each other. -/
def canBeWritten (room : Room) (v : Value) : Bool := v.integersFit && v.fits room .writing

/-- Whether a value is no timestamp with an offset of a day or more. -/
def hasUsableOffset : Value → Bool
  | .timestamp t => t.hasUsableOffset
  | _ => true

/-! ## 1. The written form -/

mutual

/-- A value has a written form exactly if it can be written. -/
theorem isOk_written (room : Room) (v : Value) : (written room v).isOk = canBeWritten room v := by
  rw [canBeWritten]
  cases v with
  | int n =>
    simp only [written, integersFit, fits, Whole.toText?, Bool.and_true]
    split <;> simp_all [Except.toBool]
  | list _ items => rw [written, isOk_map, isOk_writtenAll, integersFit, fits]
  | tuple items => rw [written, isOk_map, isOk_writtenAll, integersFit, fits]
  | set _ items => rw [written, isOk_map, isOk_writtenAll, integersFit, fits]
  | map _ entries => rw [written, isOk_map, isOk_writtenEntries, integersFit, fits]
  | _ => rfl

theorem isOk_writtenAll (inside? : Option Room) (items : List Value) :
    (writtenAll inside? items).isOk = (allIntegersFit items && allFit inside? .writing items) := by
  cases items with
  | nil => rfl
  | cons v rest =>
    cases inside? with
    | none => simp [writtenAll, allFit, Except.toBool]
    | some room =>
      rw [writtenAll, isOk_both, isOk_written, isOk_writtenAll, canBeWritten, allIntegersFit, allFit]
      ac_rfl

theorem isOk_writtenEntries (inside? : Option Room) (entries : List (String × Value)) :
    (writtenEntries inside? entries).isOk = (entryIntegersFit entries && entriesFit inside? .writing entries) := by
  cases entries with
  | nil => rfl
  | cons e rest =>
    obtain ⟨k, v⟩ := e
    cases inside? with
    | none => simp [writtenEntries, entriesFit, Except.toBool]
    | some room =>
      rw [writtenEntries, isOk_both, isOk_written, isOk_writtenEntries, canBeWritten, entryIntegersFit, entriesFit]
      ac_rfl

end

variable {room : Room} {v : Value}

theorem exists_written_iff : (∃ written, v.written room = .ok written) ↔ v.canBeWritten room = true := by
  rw [← isOk_written, isOk_iff]

theorem integersFit_of_mem {entries : List (String × Value)} (h : entryIntegersFit entries = true)
    {e : String × Value} (he : e ∈ entries) : integersFit e.2 = true := by
  induction entries with
  | nil => cases he
  | cons e' rest ih =>
    rw [entryIntegersFit, Bool.and_eq_true] at h
    rcases List.mem_cons.mp he with rfl | he
    · exact h.1
    · exact ih h.2 he

/-! ## 2. The displayed form -/

theorem isOk_displayed : (v.displayed room).isOk = (v.canBeWritten room && v.hasUsableOffset) := by
  cases v with
  | timestamp t =>
    simp only [displayed, canBeWritten, integersFit, fits, hasUsableOffset, Bool.true_and]
    split <;> simp_all [Except.toBool]
  | text | decimal | date | time | zone | locale => rfl
  | _ => rw [displayed, isOk_mapError, isOk_written, hasUsableOffset, Bool.and_true] <;> simp

end Value

end CallContract
