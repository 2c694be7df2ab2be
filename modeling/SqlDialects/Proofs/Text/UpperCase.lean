/-
Upper case is final: what has been written in upper case stays as it is when it is written in upper case
again (`Text.upper_upper`), as no character of the upper case of a character has another one. For the tables
this is checked run against run: no run maps to a member of a run.
-/
import SqlDialects.Proofs.Text.Character

namespace SqlDialects

namespace Table

/-! ## Runs -/

variable {r r' : CaseRun} {n : Nat}

/-- Whether no member of the first run is mapped to a member of the second: the targets lie before it or behind
it, or have the other parity where both go in steps of two. -/
def CaseRun.avoids (r r' : CaseRun) : Bool :=
  Nat.blt (r.target + (r.last - r.first)) r'.first || (Nat.blt r'.last r.target ||
    (Nat.beq r'.stride 2 && ((Nat.beq r.stride 2 || Nat.beq r.first r.last) &&
      Nat.beq ((r.target + r'.first) % 2) 1)))

/-- Whether the targets of a run are code points of characters and no lower-case ASCII letters. -/
def CaseRun.targetsCharacters (r : CaseRun) : Bool :=
  (r.target + (r.last - r.first) < 0x61 || 0x7A < r.target) &&
    (r.target + (r.last - r.first) < 0xD800 || (0xDFFF < r.target && r.target + (r.last - r.first) < 0x110000))

theorem CaseRun.bounds_of_holds (h : r.holds n = true) : r.first ≤ n ∧ n ≤ r.last := by
  simp only [holds, Bool.and_eq_true, decide_eq_true_eq] at h
  exact h.1

theorem CaseRun.holds_eq_false_of_avoids (havoids : r.avoids r' = true) (h : r.holds n = true) :
    r'.holds (r.target + (n - r.first)) = false := by
  have hbounds := bounds_of_holds h
  simp only [avoids, Bool.or_eq_true, Bool.and_eq_true, Nat.blt_eq, Nat.beq_eq] at havoids
  simp only [holds, Bool.and_eq_true, decide_eq_true_eq, beq_iff_eq] at h
  rw [Bool.eq_false_iff]
  intro hholds
  simp only [holds, Bool.and_eq_true, decide_eq_true_eq, beq_iff_eq] at hholds
  rcases havoids with hbefore | hbehind | ⟨hstride', hstride, hparity⟩
  · omega
  · omega
  · rw [hstride'] at hholds
    have hsame : (n - r.first) % 2 = 0 := by
      rcases hstride with hstride | hsingle
      · rw [← hstride]
        exact h.2
      · omega
    omega

theorem avoids_upperRuns : ∀ r ∈ upperRuns, ∀ r' ∈ upperRuns, r.avoids r' = true := by
  have h : (upperRuns.all fun r => upperRuns.all r.avoids) = true := by decide +kernel
  intro r hr r' hr'
  exact List.all_eq_true.1 (List.all_eq_true.1 h r hr) r' hr'

theorem targetsCharacters_upperRuns : ∀ r ∈ upperRuns, r.targetsCharacters = true := by decide +kernel

/-- No run maps to a character that has several characters for its upper case. -/
theorem avoids_upperExpansions : ∀ r ∈ upperRuns, ∀ e ∈ upperExpansions,
    e.1 < r.target ∨ r.target + (r.last - r.first) < e.1 := by
  have h : (upperRuns.all fun r => upperExpansions.all fun e =>
      Nat.blt e.1 r.target || Nat.blt (r.target + (r.last - r.first)) e.1) = true := by decide +kernel
  intro r hr e he
  simpa using List.all_eq_true.1 (List.all_eq_true.1 h r hr) e he

theorem lookup_eq_none_of_forall_ne {l : List (Nat × List Nat)} (h : ∀ e ∈ l, n ≠ e.1) : l.lookup n = none := by
  rw [List.lookup_eq_none_iff]
  exact fun e he => bne_iff_ne.2 (h e he)

end Table

/-! ## Characters -/

namespace Character

open Table

theorem upper_of_isAscii {a : Char} (ha : isAscii a = true) : upper a = [a.toUpper] := if_pos ha

theorem isAscii_toUpper {a : Char} (ha : isAscii a = true) : isAscii a.toUpper = true := by
  by_cases hlower : a.isLower = true
  · refine isAscii_of_isAlpha ?_
    rw [Char.isAlpha, Char.isUpper_toUpper_eq_isAlpha, Char.isAlpha, hlower, Bool.or_true, Bool.true_or]
  · rwa [Char.toUpper_eq_of_not_isLower hlower]

theorem upper_upperExpansions :
    ∀ e ∈ upperExpansions, ∀ n ∈ e.2, upper (Char.ofNat n) = [Char.ofNat n] := by
  decide +kernel

/-- The target of a member of a run is its own upper case. -/
theorem upper_target {r : CaseRun} (hr : r ∈ upperRuns) {n : Nat} (hn : r.holds n = true) :
    upper (Char.ofNat (r.target + (n - r.first))) = [Char.ofNat (r.target + (n - r.first))] := by
  have hbounds := CaseRun.bounds_of_holds hn
  have htargets := targetsCharacters_upperRuns r hr
  simp only [CaseRun.targetsCharacters, Bool.and_eq_true, Bool.or_eq_true, decide_eq_true_eq] at htargets
  have hcode : (Char.ofNat (r.target + (n - r.first))).toNat = r.target + (n - r.first) := by
    rw [Char.ofNat, dif_pos (show Nat.isValidChar _ by unfold Nat.isValidChar; omega)]
    rfl
  generalize Char.ofNat (r.target + (n - r.first)) = b at hcode
  unfold upper
  split
  · rename_i hascii
    have hlower : ¬ b.isLower = true := by
      intro h
      simp only [Char.isLower, Bool.and_eq_true, decide_eq_true_eq, UInt32.le_iff_toNat_le] at h
      have hlow : 0x61 ≤ b.toNat := h.1
      have hhigh : b.toNat ≤ 0x7A := h.2
      omega
    rw [Char.toUpper_eq_of_not_isLower hlower]
  · have hexpansion : upperExpansions.lookup b.toNat = none := by
      refine lookup_eq_none_of_forall_ne fun e he => ?_
      have := avoids_upperExpansions r hr e he
      omega
    have hrun : upperRuns.find? (·.holds b.toNat) = none := by
      rw [List.find?_eq_none]
      intro r' hr'
      rw [hcode, CaseRun.holds_eq_false_of_avoids (avoids_upperRuns r hr r' hr') hn]
      exact Bool.false_ne_true
    rw [mapCase, hexpansion]
    dsimp only
    rw [hrun]

/-- A character of the upper case of a character has no other upper case. -/
theorem upper_of_mem_upper {a b : Char} (hb : b ∈ upper a) : upper b = [b] := by
  by_cases hascii : isAscii a = true
  · rw [upper_of_isAscii hascii, List.mem_singleton] at hb
    rw [hb, upper_of_isAscii (isAscii_toUpper hascii), Char.toUpper_toUpper_eq_toUpper]
  · have hupper : upper a = mapCase upperRuns upperExpansions a := if_neg hascii
    have hself := hupper
    rw [hupper] at hb
    unfold mapCase at hb hself
    split at hb
    · rename_i image himage
      obtain ⟨n, hn, rfl⟩ := List.mem_map.1 hb
      obtain ⟨before, after, hsplit, -⟩ := List.lookup_eq_some_iff.1 himage
      exact upper_upperExpansions (a.toNat, image) (by rw [hsplit]; simp) n hn
    · rename_i hnone
      rw [hnone] at hself
      dsimp only at hself
      split at hb
      · rename_i r hr
        have hholds : r.holds a.toNat = true := List.find?_some (p := fun r : CaseRun => r.holds a.toNat) hr
        rw [List.mem_singleton.1 hb]
        exact upper_target (List.mem_of_find?_eq_some hr) hholds
      · rename_i hr
        obtain rfl := List.mem_singleton.1 hb
        rw [hself, hr]

end Character

/-- What is in upper case stays as it is in upper case. -/
theorem Text.upper_upper (s : Text) : s.upper.upper = s.upper := by
  unfold upper
  rw [List.flatMap_assoc]
  refine List.flatMap_congr fun a _ => ?_
  have heach : ∀ b ∈ Character.upper a, Character.upper b = [b] := fun b => Character.upper_of_mem_upper
  rw [List.flatMap_congr heach, List.flatMap_singleton']

end SqlDialects
