/-
Texts that differ only in the case of ASCII letters. A test that gives the same answer for both cases of each
letter does not tell them apart (`Character.eq_of_caseBlind`), nor does a mark without letters
(`Text.SameLetters.isPrefixOf_eq`), and in upper case they are equal (`Text.SameLetters.upper_eq`).
-/
import SqlDialects.Proofs.Text.UpperCase

namespace SqlDialects

/-! ## Characters -/

namespace Character

variable {a b : Char} {q : Char → Bool}

/-- The characters are the same, or the same ASCII letter in either case. -/
def SameLetter (a b : Char) : Prop := a.toUpper = b.toUpper

def smallLetters : List Char :=
  ['a', 'b', 'c', 'd', 'e', 'f', 'g', 'h', 'i', 'j', 'k', 'l', 'm', 'n', 'o', 'p', 'q', 'r', 's', 't', 'u', 'v', 'w',
    'x', 'y', 'z']

theorem mem_smallLetters (ha : a.isLower = true) : a ∈ smallLetters := by
  have hcodes : ∀ n < 26, Char.ofNat (n + 97) ∈ smallLetters := by decide
  simp only [Char.isLower, Bool.and_eq_true, decide_eq_true_eq, UInt32.le_iff_toNat_le] at ha
  have hlow : 97 ≤ a.toNat := ha.1
  have hhigh : a.toNat ≤ 122 := ha.2
  have hmem := hcodes (a.toNat - 97) (by omega)
  rwa [Nat.sub_add_cancel hlow, Char.ofNat_toNat] at hmem

/-- Whether a test gives the same answer for both cases of each ASCII letter. -/
def caseBlind (q : Char → Bool) : Bool := smallLetters.all fun a => q a == q a.toUpper

theorem eq_of_caseBlind (hq : caseBlind q = true) (h : SameLetter a b) : q a = q b := by
  have hupper (c : Char) : q c = q c.toUpper := by
    by_cases hc : c.isLower = true
    · exact beq_iff_eq.1 (List.all_eq_true.1 hq c (mem_smallLetters hc))
    · rw [Char.toUpper_eq_of_not_isLower hc]
  rw [hupper a, show a.toUpper = b.toUpper from h, ← hupper b]

/-- Small letters and their capitals are letters, so a test has to be checked for letters only. -/
theorem caseBlind_iff {q : Char → Bool} :
    caseBlind q = true ↔ ∀ a, a.isAlpha = true → a.toUpper.isAlpha = true → q a = q a.toUpper := by
  constructor
  · exact fun hq a _ _ => eq_of_caseBlind hq (Char.toUpper_toUpper_eq_toUpper a).symm
  · intro h
    have hlower : (smallLetters.all fun a => a.isAlpha && a.toUpper.isAlpha) = true := rfl
    refine List.all_eq_true.2 fun a ha => beq_iff_eq.2 ?_
    obtain ⟨ha, hupper⟩ := Bool.and_eq_true_iff.1 (List.all_eq_true.1 hlower a ha)
    exact h a ha hupper

theorem contains_eq_false_of_isAlpha {ds : List Char} (hds : (ds.all fun d => !d.isAlpha) = true) {a : Char}
    (ha : a.isAlpha = true) : ds.contains a = false := by
  rw [List.contains_eq_mem, decide_eq_false_iff_not]
  intro hmem
  have hnot := List.all_eq_true.1 hds a hmem
  rw [ha] at hnot
  cases hnot

/-- What is no letter is the same character. -/
theorem SameLetter.eq (h : SameLetter a b) (ha : a.isAlpha = false) : b = a := by
  have hb : b.isLower = false := by
    rw [Bool.eq_false_iff]
    intro hlower
    have hupper : a.toUpper.isUpper = true := by
      rw [show a.toUpper = b.toUpper from h, Char.isUpper_toUpper_eq_isAlpha, Char.isAlpha, hlower, Bool.or_true]
    rw [Char.isUpper_toUpper_eq_isAlpha, ha] at hupper
    cases hupper
  rw [Char.isAlpha, Bool.or_eq_false_iff] at ha
  have hself : a.toUpper = b.toUpper := h
  rwa [Char.toUpper_eq_of_not_isLower (by simp [ha.2]), Char.toUpper_eq_of_not_isLower (by simp [hb]),
    eq_comm] at hself

theorem SameLetter.upper_eq (h : SameLetter a b) : upper a = upper b := by
  have hself {c : Char} (hc : ¬ isAscii c = true) : c.toUpper = c := by
    refine Char.toUpper_eq_of_not_isLower fun hlower => hc (isAscii_of_isAlpha ?_)
    rw [Char.isAlpha, hlower, Bool.or_true]
  have hascii : isAscii a = isAscii b := eq_of_caseBlind (by decide) h
  by_cases ha : isAscii a = true
  · rw [upper_of_isAscii ha, upper_of_isAscii (hascii ▸ ha), show a.toUpper = b.toUpper from h]
  · obtain rfl : a = b := by
      rw [← hself ha, show a.toUpper = b.toUpper from h, hself (hascii ▸ ha)]
    rfl

end Character

/-! ## Texts -/

namespace Text

open Character

variable {s t u v mark : Text} {q : Char → Bool}

/-- The texts are the same but for the case of ASCII letters. -/
def SameLetters (s t : Text) : Prop := s.map Char.toUpper = t.map Char.toUpper

instance (s t : Text) : Decidable (SameLetters s t) := inferInstanceAs (Decidable (_ = _))

namespace SameLetters

theorem nil : SameLetters [] [] := rfl

theorem cons {a b : Char} (hab : SameLetter a b) (h : SameLetters s t) : SameLetters (a :: s) (b :: t) := by
  rw [SameLetters, List.map_cons, List.map_cons, show a.toUpper = b.toUpper from hab,
    show s.map Char.toUpper = t.map Char.toUpper from h]

theorem refl (s : Text) : s.SameLetters s := Eq.refl _

theorem symm (h : s.SameLetters t) : t.SameLetters s := Eq.symm h

theorem length_eq (h : s.SameLetters t) : s.length = t.length := by
  rw [← List.length_map Char.toUpper, show s.map Char.toUpper = t.map Char.toUpper from h, List.length_map]

theorem append (hs : s.SameLetters t) (hu : u.SameLetters v) : SameLetters (s ++ u) (t ++ v) := by
  rw [SameLetters, List.map_append, List.map_append, show s.map Char.toUpper = t.map Char.toUpper from hs,
    show u.map Char.toUpper = v.map Char.toUpper from hu]

/-- Texts with the same letters are empty together, or have first characters and rests with the same letters. -/
theorem cases_cons (h : s.SameLetters t) :
    (s = [] ∧ t = []) ∨
      ∃ (a b : Char) (s' t' : Text), s = a :: s' ∧ t = b :: t' ∧ SameLetter a b ∧ s'.SameLetters t' := by
  cases s with
  | nil => exact .inl ⟨rfl, List.map_eq_nil_iff.1 h.symm⟩
  | cons a s =>
    obtain ⟨b, t', rfl, hab, hrest⟩ := List.map_eq_cons_iff.1 h.symm
    exact .inr ⟨a, b, s, t', rfl, rfl, Eq.symm hab, Eq.symm hrest⟩

theorem exists_cons {a : Char} (h : SameLetters (a :: s) t) :
    ∃ (b : Char) (t' : Text), t = b :: t' ∧ SameLetter a b ∧ s.SameLetters t' := by
  rcases h.cases_cons with ⟨hnil, -⟩ | ⟨_, b, _, t', hs, rfl, hab, hrest⟩
  · cases hnil
  · obtain ⟨rfl, rfl⟩ := List.cons_eq_cons.1 hs
    exact ⟨b, t', rfl, hab, hrest⟩

theorem exists_append (h : SameLetters (u ++ v) t) :
    ∃ u' v' : Text, t = u' ++ v' ∧ u.SameLetters u' ∧ v.SameLetters v' := by
  rw [SameLetters, List.map_append] at h
  obtain ⟨u', v', rfl, hu, hv⟩ := List.map_eq_append_iff.1 h.symm
  exact ⟨u', v', rfl, hu.symm, hv.symm⟩

/-- What is no letter is in both texts or in none. -/
theorem mem {a : Char} (ha : a.isAlpha = false) (h : s.SameLetters t) (hs : a ∈ s) : a ∈ t := by
  obtain ⟨u, v, rfl⟩ := List.append_of_mem hs
  obtain ⟨u', v', rfl, -, hv⟩ := h.exists_append
  obtain ⟨b, v', rfl, hab, -⟩ := hv.exists_cons
  rw [hab.eq ha]
  exact List.mem_append_right u' List.mem_cons_self

theorem isEmpty_eq (h : s.SameLetters t) : s.isEmpty = t.isEmpty := by
  rw [Bool.eq_iff_iff, List.isEmpty_iff_length_eq_zero, List.isEmpty_iff_length_eq_zero, h.length_eq]

theorem take (h : s.SameLetters t) (n : Nat) : SameLetters (s.take n) (t.take n) := by
  rw [SameLetters, List.map_take, List.map_take, show s.map Char.toUpper = t.map Char.toUpper from h]

theorem drop (h : s.SameLetters t) (n : Nat) : SameLetters (s.drop n) (t.drop n) := by
  rw [SameLetters, List.map_drop, List.map_drop, show s.map Char.toUpper = t.map Char.toUpper from h]

theorem reverse (h : s.SameLetters t) : SameLetters s.reverse t.reverse := by
  rw [SameLetters, List.map_reverse, List.map_reverse, show s.map Char.toUpper = t.map Char.toUpper from h]

theorem upper_eq (h : s.SameLetters t) : s.upper = t.upper := by
  induction s generalizing t with
  | nil =>
    rcases h.cases_cons with ⟨-, rfl⟩ | ⟨_, _, _, _, hs, -⟩
    · rfl
    · cases hs
  | cons a s ih =>
    obtain ⟨b, t, rfl, hab, hrest⟩ := h.exists_cons
    rw [upper, upper, List.flatMap_cons, List.flatMap_cons, hab.upper_eq]
    exact congrArg (Character.upper b ++ ·) (ih hrest)

/-! ### Tests that do not see the case -/

theorem all_eq (hq : caseBlind q = true) (h : s.SameLetters t) : s.all q = t.all q := by
  induction s generalizing t with
  | nil =>
    rcases h.cases_cons with ⟨-, rfl⟩ | ⟨_, _, _, _, hs, -⟩
    · rfl
    · cases hs
  | cons a s ih =>
    obtain ⟨b, t, rfl, hab, hrest⟩ := h.exists_cons
    rw [List.all_cons, List.all_cons, eq_of_caseBlind hq hab, ih hrest]

theorem head?_any_eq (hq : caseBlind q = true) (h : s.SameLetters t) : s.head?.any q = t.head?.any q := by
  rcases h.cases_cons with ⟨rfl, rfl⟩ | ⟨a, b, s', t', rfl, rfl, hab, -⟩
  · rfl
  · exact eq_of_caseBlind hq hab

theorem takeWhile (hq : caseBlind q = true) (h : s.SameLetters t) : SameLetters (s.takeWhile q) (t.takeWhile q) := by
  induction s generalizing t with
  | nil =>
    rcases h.cases_cons with ⟨-, rfl⟩ | ⟨_, _, _, _, hs, -⟩
    · exact .nil
    · cases hs
  | cons a s ih =>
    obtain ⟨b, t, rfl, hab, hrest⟩ := h.exists_cons
    rw [List.takeWhile_cons, List.takeWhile_cons, eq_of_caseBlind hq hab]
    split
    · exact .cons hab (ih hrest)
    · exact .nil

theorem dropWhile (hq : caseBlind q = true) (h : s.SameLetters t) : SameLetters (s.dropWhile q) (t.dropWhile q) := by
  induction s generalizing t with
  | nil =>
    rcases h.cases_cons with ⟨-, rfl⟩ | ⟨_, _, _, _, hs, -⟩
    · exact .nil
    · cases hs
  | cons a s ih =>
    obtain ⟨b, t, rfl, hab, hrest⟩ := h.exists_cons
    rw [List.dropWhile_cons, List.dropWhile_cons, eq_of_caseBlind hq hab]
    split
    · exact ih hrest
    · exact .cons hab hrest

theorem trim (h : s.SameLetters t) : SameLetters s.trim t.trim := by
  have hblank : caseBlind isBlank = true := by decide
  exact ((h.dropWhile hblank).reverse.dropWhile hblank).reverse

/-! ### Marks without letters -/

theorem isPrefixOf_eq (hmark : mark.any Char.isAlpha = false) (h : s.SameLetters t) :
    mark.isPrefixOf s = mark.isPrefixOf t := by
  induction mark generalizing s t with
  | nil => rw [List.isPrefixOf_nil_left, List.isPrefixOf_nil_left]
  | cons a mark ih =>
    rw [List.any_cons, Bool.or_eq_false_iff] at hmark
    rcases h.cases_cons with ⟨rfl, rfl⟩ | ⟨b, c, s', t', rfl, rfl, hbc, hrest⟩
    · rfl
    · have hfirst : (a == b) = (a == c) := by
        rw [Bool.eq_iff_iff, beq_iff_eq, beq_iff_eq]
        constructor
        · rintro rfl
          exact (hbc.eq hmark.1).symm
        · rintro rfl
          exact (SameLetter.eq (Eq.symm hbc) hmark.1).symm
      rw [List.isPrefixOf_cons_cons, List.isPrefixOf_cons_cons, hfirst, ih hmark.2 hrest]

theorem opensWith_eq (hmark : mark.any Char.isAlpha = false) (h : s.SameLetters t) :
    s.opensWith mark = t.opensWith mark := by
  rw [opensWith, opensWith, h.isPrefixOf_eq hmark]

theorem endsWith_eq (hmark : mark.any Char.isAlpha = false) (h : s.SameLetters t) :
    s.endsWith mark = t.endsWith mark :=
  isPrefixOf_eq (List.any_reverse.trans hmark) h.reverse

end SameLetters

end Text

end SqlDialects
