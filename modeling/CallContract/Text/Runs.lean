/-!
# Runs — sets of code points as ascending intervals

Properties of characters are tables of intervals.  A table ascends, so a look-up stops at the first
interval that begins above the character.
-/

namespace CallContract.Text

-- An interval of code points, both ends included.
abbrev Run := Nat × Nat

/-- Whether `n` lies in one of the intervals of an ascending table. -/
def inRuns (n : Nat) : List Run → Bool
  | [] => false
  | (first, last) :: rest => if n < first then false else n ≤ last || inRuns n rest

-- A look-up that succeeds names the interval.
theorem exists_of_inRuns {n : Nat} {runs : List Run} (h : inRuns n runs = true) :
    ∃ r ∈ runs, r.1 ≤ n ∧ n ≤ r.2 := by
  induction runs with
  | nil => simp [inRuns] at h
  | cons r rest ih =>
    obtain ⟨first, last⟩ := r
    unfold inRuns at h
    split at h
    · simp at h
    · rename_i hn
      simp only [Bool.or_eq_true, decide_eq_true_eq] at h
      rcases h with h | h
      · exact ⟨(first, last), by simp, by omega, h⟩
      · obtain ⟨r, hr, hb⟩ := ih h
        exact ⟨r, by simp [hr], hb⟩

end CallContract.Text
