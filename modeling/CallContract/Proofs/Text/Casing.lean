import CallContract.Text.Casing
import Mathlib.Data.List.Basic

/-!
# Casing — text in one case stays as it is

What a table of cases maps to is not mapped itself.  A set of code points is compared with another as a number that has
one bit for each of them, so the tables are searched once and not once for every entry.  Hence lower case text stays as
it is when it is lowered, whatever stands around a sigma, and upper case text when it is raised.
-/

namespace CallContract.Text

/-! ## 1. Code points as bits -/

/-- The number that has the bits of a list. -/
def mask (ns : List Nat) : Nat := ns.foldr (fun n m => m ||| 1 <<< n) 0

section

variable {n : Nat} {ns ms : List Nat} {r : CaseRun} {runs : List CaseRun}

theorem testBit_mask (h : n ∈ ns) : (mask ns).testBit n = true := by
  induction ns with
  | nil => cases h
  | cons m rest ih =>
    change (mask rest ||| 1 <<< m).testBit n = true
    rw [Nat.testBit_or, Nat.one_shiftLeft, Nat.testBit_two_pow, Bool.or_eq_true]
    rcases List.mem_cons.mp h with rfl | h
    · exact .inr (decide_eq_true rfl)
    · exact .inl (ih h)

/-- Lists whose numbers have no bit in common have no member in common. -/
theorem notMem_of_mask (h : mask ns &&& mask ms = 0) (hn : n ∈ ns) : n ∉ ms := by
  intro hm
  have hbit : (mask ns &&& mask ms).testBit n = true := by
    rw [Nat.testBit_and, testBit_mask hn, testBit_mask hm, Bool.and_self]
  rw [h, Nat.zero_testBit] at hbit
  cases hbit

/-! ## 2. Tables of intervals -/

/-- The code points that an interval maps. -/
def CaseRun.points (r : CaseRun) : List Nat :=
  (List.range ((r.last - r.first) / r.stride + 1)).map fun k => r.first + k * r.stride

/-- The code points that an interval maps to. -/
def CaseRun.images (r : CaseRun) : List Nat := r.points.map fun n : Nat => ((n : Int) + r.shift).toNat

theorem mem_points (hfirst : r.first ≤ n) (hlast : n ≤ r.last) (hstride : (n - r.first) % r.stride = 0) :
    n ∈ r.points := by
  refine List.mem_map.mpr ⟨(n - r.first) / r.stride, List.mem_range.mpr ?_, ?_⟩
  · exact Nat.lt_succ_of_le (Nat.div_le_div_right (by omega))
  · rw [Nat.div_mul_cancel (Nat.dvd_of_mod_eq_zero hstride)]
    omega

/-- A table maps a code point to itself or to an image. -/
theorem shiftCase_cases (n : Nat) (runs : List CaseRun) :
    shiftCase n runs = n ∨ shiftCase n runs ∈ runs.flatMap CaseRun.images := by
  induction runs with
  | nil => exact .inl rfl
  | cons r rest ih =>
    unfold shiftCase
    split
    · exact .inl rfl
    · split
      · next hfirst hin =>
        simp only [Bool.and_eq_true, decide_eq_true_eq, beq_iff_eq] at hin
        exact .inr (List.mem_flatMap.mpr ⟨r, List.mem_cons_self,
          List.mem_map.mpr ⟨n, mem_points (Nat.not_lt.mp hfirst) hin.1 hin.2, rfl⟩⟩)
      · rw [List.flatMap_cons]
        exact ih.imp_right (List.mem_append_right _)

theorem shiftCase_of_notMem (h : n ∉ runs.flatMap CaseRun.points) : shiftCase n runs = n := by
  induction runs with
  | nil => rfl
  | cons r rest ih =>
    obtain ⟨hr, hrest⟩ := not_or.mp (mt List.mem_append.mpr h)
    unfold shiftCase
    split
    · rfl
    · split
      · next hfirst hin =>
        simp only [Bool.and_eq_true, decide_eq_true_eq, beq_iff_eq] at hin
        exact absurd (mem_points (Nat.not_lt.mp hfirst) hin.1 hin.2) hr
      · exact ih hrest

-- A number that is no code point gives the code point zero.
theorem toNat_ofNat_cases (n : Nat) : (Char.ofNat n).toNat = n ∨ (Char.ofNat n).toNat = 0 := by
  by_cases h : n.isValidChar
  · exact .inl (by rw [Char.ofNat, dif_pos h]; rfl)
  · exact .inr (by rw [Char.ofNat, dif_neg h]; rfl)

/-- What a table maps to is not mapped, if the two have no bit in common. -/
theorem toNat_ofNat_notMem (h : mask (0 :: ns) &&& mask ms = 0) (hn : n ∈ ns) : (Char.ofNat n).toNat ∉ ms := by
  rcases toNat_ofNat_cases n with hsame | hzero
  · rw [hsame]
    exact notMem_of_mask h (List.mem_cons_of_mem 0 hn)
  · rw [hzero]
    exact notMem_of_mask h List.mem_cons_self

end

/-! ## 3. Lower case -/

/-- The code points that lower case changes, those with a rule of their own first. -/
def loweredPoints : List Nat := 0x130 :: 0x3A3 :: lowerRuns.flatMap CaseRun.points

/-- The code points that lower case makes. -/
def lowerPoints : List Nat := [0x69, 0x307, 0x3C2, 0x3C3] ++ lowerRuns.flatMap CaseRun.images

theorem mask_lower : mask (0 :: lowerPoints) &&& mask loweredPoints = 0 := by decide +kernel

/-- A character that lower case leaves as it is, wherever it stands. -/
structure IsLower (c : Char) : Prop where
  notSigma : c.toNat ≠ 0x3A3
  lowerChar_eq : lowerChar c = [c]

section

variable {n : Nat} {c d : Char} {s before : List Char}

theorem isLower_of_notMem (h : c.toNat ∉ loweredPoints) : IsLower c := by
  obtain ⟨hdotted, h⟩ := not_or.mp (mt List.mem_cons.mpr h)
  obtain ⟨hsigma, hruns⟩ := not_or.mp (mt List.mem_cons.mpr h)
  refine ⟨hsigma, ?_⟩
  rw [lowerChar, if_neg hdotted, shiftCase_of_notMem hruns, Char.ofNat_toNat]

theorem isLower_ofNat (h : n ∈ lowerPoints) : IsLower (Char.ofNat n) :=
  isLower_of_notMem (toNat_ofNat_notMem mask_lower h)

theorem isLower_of_mem_lowerChar (hc : c.toNat ≠ 0x3A3) (h : d ∈ lowerChar c) : IsLower d := by
  unfold lowerChar at h
  split at h
  · rcases List.mem_cons.mp h with rfl | h
    · exact isLower_ofNat (by simp [lowerPoints])
    · cases List.mem_singleton.mp h
      exact isLower_ofNat (by simp [lowerPoints])
  · next hdotted =>
    cases List.mem_singleton.mp h
    rcases shiftCase_cases c.toNat lowerRuns with hsame | himage
    · rw [hsame, Char.ofNat_toNat]
      exact ⟨hc, by rw [lowerChar, if_neg hdotted, hsame, Char.ofNat_toNat]⟩
    · exact isLower_ofNat (List.mem_append_right _ himage)

theorem isLower_of_mem_lowerFrom (h : d ∈ lowerFrom before s) : IsLower d := by
  induction s generalizing before with
  | nil => cases h
  | cons c rest ih =>
    rw [lowerFrom] at h
    rcases List.mem_append.mp h with h | h
    · split at h
      · rw [List.mem_singleton.mp h]
        split <;> exact isLower_ofNat (by simp [lowerPoints])
      · next hc => exact isLower_of_mem_lowerChar hc h
    · exact ih h

theorem lowerFrom_of_isLower (hs : ∀ c ∈ s, IsLower c) : lowerFrom before s = s := by
  induction s generalizing before with
  | nil => rfl
  | cons c rest ih =>
    obtain ⟨hc, hrest⟩ := List.forall_mem_cons.mp hs
    rw [lowerFrom, if_neg hc.notSigma, hc.lowerChar_eq, ih hrest]
    rfl

/-- What is in lower case is not lowered again. -/
theorem lower_lower (s : List Char) : lower (lower s) = lower s :=
  lowerFrom_of_isLower fun _ => isLower_of_mem_lowerFrom

end

/-! ## 4. Upper case -/

/-- The code points that upper case changes, to one or to several. -/
def raisedPoints : List Nat := upperSequences.map Prod.fst ++ upperRuns.flatMap CaseRun.points

/-- The code points that upper case makes. -/
def upperPoints : List Nat := upperSequences.flatMap Prod.snd ++ upperRuns.flatMap CaseRun.images

theorem mask_upper : mask (0 :: upperPoints) &&& mask raisedPoints = 0 := by decide +kernel

section

variable {n : Nat} {c d : Char} {s : List Char}

theorem upperChar_of_notMem (h : c.toNat ∉ raisedPoints) : upperChar c = [c] := by
  obtain ⟨hsequence, hruns⟩ := not_or.mp (mt List.mem_append.mpr h)
  have hlookup : upperSequences.lookup c.toNat = none := by
    refine List.lookup_eq_none_iff.mpr fun entry hentry => ?_
    have hne : c.toNat ≠ entry.1 := fun heq => hsequence (heq ▸ List.mem_map_of_mem hentry)
    simpa using hne
  rw [upperChar, hlookup]
  dsimp only
  rw [shiftCase_of_notMem hruns, Char.ofNat_toNat]

theorem upperChar_ofNat (h : n ∈ upperPoints) : upperChar (Char.ofNat n) = [Char.ofNat n] :=
  upperChar_of_notMem (toNat_ofNat_notMem mask_upper h)

theorem upperChar_of_mem_upperChar (h : d ∈ upperChar c) : upperChar d = [d] := by
  unfold upperChar at h
  split at h
  · next codes hcodes =>
    obtain ⟨n, hn, rfl⟩ := List.mem_map.mp h
    obtain ⟨before, after, hentries, -⟩ := List.lookup_eq_some_iff.mp hcodes
    have hentry : (c.toNat, codes) ∈ upperSequences := hentries ▸ List.mem_append_right _ List.mem_cons_self
    exact upperChar_ofNat (List.mem_append_left _ (List.mem_flatMap.mpr ⟨_, hentry, hn⟩))
  · next hnone =>
    cases List.mem_singleton.mp h
    rcases shiftCase_cases c.toNat upperRuns with hsame | himage
    · rw [hsame, Char.ofNat_toNat, upperChar, hnone]
      dsimp only
      rw [hsame, Char.ofNat_toNat]
    · exact upperChar_ofNat (List.mem_append_right _ himage)

/-- What is in upper case is not raised again. -/
theorem upper_upper (s : List Char) : upper (upper s) = upper s := by
  have hfixed : ∀ d ∈ upper s, upperChar d = [d] := by
    intro d hd
    obtain ⟨c, -, hc⟩ := List.mem_flatMap.mp hd
    exact upperChar_of_mem_upperChar hc
  exact (List.flatMap_congr hfixed).trans (List.flatMap_singleton' _)

end

end CallContract.Text
