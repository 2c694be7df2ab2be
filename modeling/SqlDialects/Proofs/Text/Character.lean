/-
Facts about single characters: capital letters and the letters that they are the upper case of, and
blanks, which are no part of a word, no digit and no beginning of a name. Blanks at the ends of a text are
trimmed away.
-/
import Mathlib
import SqlDialects.Proofs.Text.Run
import SqlDialects.Statement.Pattern
import SqlDialects.Text.CaseMapping

namespace SqlDialects

/-! ## Capital letters -/

theorem toUpper_eq_iff {a b : Char} (hb : b.isUpper = true) :
    a.toUpper = b ↔ a = b ∨ a = b.toLower := by
  constructor
  · intro h
    by_cases ha : a.isLower = true
    · refine .inr ?_
      rw [← h, Char.toLower_toUpper_eq_toLower,
        Char.toLower_eq_of_not_isUpper (Char.not_isUpper_of_isLower ha)]
    · exact .inl (by rw [← h, Char.toUpper_eq_of_not_isLower ha])
  · have hself : b.toUpper = b := Char.toUpper_eq_of_not_isLower (Char.not_isLower_of_isUpper hb)
    rintro (rfl | rfl)
    · exact hself
    · rw [Char.toUpper_toLower_eq_toUpper, hself]

theorem isAscii_of_isAlpha {a : Char} (ha : a.isAlpha = true) : Character.isAscii a = true := by
  simp only [Char.isAlpha, Char.isUpper, Char.isLower, Bool.or_eq_true, Bool.and_eq_true,
    decide_eq_true_eq, UInt32.le_iff_toNat_le] at ha
  simp only [Character.isAscii, decide_eq_true_eq]
  show a.val.toNat < 128
  rcases ha with ⟨-, h⟩ | ⟨-, h⟩
  · exact Nat.lt_of_le_of_lt h (by decide)
  · exact Nat.lt_of_le_of_lt h (by decide)

/-- The letter is written with a capital in upper case, whichever case it has here. -/
theorem isAlpha_of_toUpper {a b : Char} (h : a.toUpper = b) (hb : b.isUpper = true) :
    a.isAlpha = true := by
  rw [← Char.isUpper_toUpper_eq_isAlpha, h, hb]

theorem isWordChar_of_isAlpha {a : Char} (ha : a.isAlpha = true) : Character.isWordChar a = true := by
  simp [Character.isWordChar, Character.isAlphanumeric, Character.isLetter, isAscii_of_isAlpha ha, ha]

/-! ## Blanks -/

namespace Table

/-- Whether no code point lies in a range of both tables. -/
def disjoint (ranges others : List (Nat × Nat)) : Bool :=
  ranges.all fun range => others.all fun other => Nat.blt range.2 other.1 || Nat.blt other.2 range.1

theorem holds_eq_false_of_disjoint {ranges others : List (Nat × Nat)} (h : disjoint ranges others = true) {a : Char}
    (ha : holds ranges a = true) : holds others a = false := by
  obtain ⟨range, hrange, hin⟩ := List.any_eq_true.1 ha
  rw [holds, List.any_eq_false]
  intro other hother
  have hout := List.all_eq_true.1 (List.all_eq_true.1 h range hrange) other hother
  simp only [Bool.or_eq_true, Nat.blt_eq] at hout
  simp only [Bool.and_eq_true, decide_eq_true_eq] at hin ⊢
  omega

end Table

namespace Character

/-- The code points of the blanks. -/
def blankCodes : List Nat :=
  List.range' 9 5 ++ List.range' 0x1C 5 ++ [0x85, 0xA0, 0x1680] ++ List.range' 0x2000 11 ++
    [0x2028, 0x2029, 0x202F, 0x205F, 0x3000]

theorem toNat_mem_blankCodes {a : Char} (ha : isBlank a = true) : a.toNat ∈ blankCodes := by
  unfold isBlank at ha
  simp only [Bool.or_eq_true, Bool.and_eq_true, decide_eq_true_eq, beq_iff_eq] at ha
  simp only [blankCodes, List.mem_append, List.mem_range'_1, List.mem_cons, List.not_mem_nil, or_false]
  omega

/-- A test that no character with the code point of a blank passes is passed by no blank. -/
theorem eq_false_of_isBlank (q : Char → Bool) (h : ∀ n ∈ blankCodes, q (Char.ofNat n) = false) {a : Char}
    (ha : isBlank a = true) : q a = false := by
  have := h _ (toNat_mem_blankCodes ha)
  rwa [Char.ofNat_toNat] at this

/-- The ranges of the code points of the blanks. -/
def blankRanges : List (Nat × Nat) :=
  [(9, 13), (0x1C, 0x20), (0x85, 0x85), (0xA0, 0xA0), (0x1680, 0x1680), (0x2000, 0x200A), (0x2028, 0x2029),
    (0x202F, 0x202F), (0x205F, 0x205F), (0x3000, 0x3000)]

theorem holds_blankRanges {a : Char} (ha : isBlank a = true) : Table.holds blankRanges a = true := by
  unfold isBlank at ha
  simp only [Bool.or_eq_true, Bool.and_eq_true, decide_eq_true_eq, beq_iff_eq] at ha
  simp only [Table.holds, blankRanges, List.any_cons, List.any_nil, Bool.or_eq_true, Bool.and_eq_true,
    decide_eq_true_eq]
  omega

theorem isWordChar_of_isBlank {a : Char} (ha : isBlank a = true) : isWordChar a = false := by
  have hletters : Table.holds Table.letters a = false :=
    Table.holds_eq_false_of_disjoint (by decide +kernel) (holds_blankRanges ha)
  have hnumerals : Table.holds Table.numerals a = false :=
    Table.holds_eq_false_of_disjoint (by decide) (holds_blankRanges ha)
  have halpha : a.isAlpha = false := eq_false_of_isBlank Char.isAlpha (by decide) ha
  have hdigit : a.isDigit = false := eq_false_of_isBlank Char.isDigit (by decide) ha
  have hunderscore : (a == '_') = false := eq_false_of_isBlank (· == '_') (by decide) ha
  simp only [isWordChar, isAlphanumeric, isLetter, isNumeral, hletters, hnumerals, halpha, hdigit, hunderscore,
    ite_self, Bool.or_self]

theorem isDecimalDigit_of_isBlank {a : Char} (ha : isBlank a = true) : isDecimalDigit a = false :=
  eq_false_of_isBlank isDecimalDigit (by decide) ha

theorem isNameStart_of_isBlank {a : Char} (ha : isBlank a = true) : isNameStart a = false :=
  eq_false_of_isBlank isNameStart (by decide) ha

theorem isBlank_of_isWordChar {a : Char} (ha : isWordChar a = true) : isBlank a = false := by
  cases hb : isBlank a with
  | false => rfl
  | true => rw [isWordChar_of_isBlank hb] at ha; cases ha

end Character

/-! ## Blanks at the ends of a text -/

namespace Text

theorem trim_prefix (s : Text) : s.trim <+: s.dropWhile Character.isBlank := List.rdropWhile_prefix _ _

theorem length_trim_le (s : Text) : s.trim.length ≤ s.length :=
  s.trim_prefix.length_le.trans (List.dropWhile_suffix _).length_le

theorem trim_append_of_isBlank {u : Text} (hu : ∀ a ∈ u, Character.isBlank a = true) (s : Text) :
    (u ++ s).trim = s.trim := by
  rw [trim, List.dropWhile_append_of_pos hu, trim]

/-- Only blanks behind it go from a text that begins with none and has another character that is none. -/
theorem trim_append_cons {u : Text} {a : Char} (hfirst : ∀ b ∈ (u ++ [a]).head?, Character.isBlank b = false)
    (ha : Character.isBlank a = false) (rest : Text) :
    ∃ rest', (u ++ a :: rest).trim = u ++ a :: rest' ∧ rest' <+: rest := by
  have hfront : (u ++ a :: rest).dropWhile Character.isBlank = u ++ a :: rest := by
    cases u with
    | nil => exact List.dropWhile_cons_of_neg (by simp [ha])
    | cons b u => exact List.dropWhile_cons_of_neg (by simp [hfirst b rfl])
  refine ⟨rest.rdropWhile Character.isBlank, ?_, List.rdropWhile_prefix _ _⟩
  show ((u ++ a :: rest).dropWhile Character.isBlank).rdropWhile Character.isBlank = _
  rw [hfront]
  clear hfront
  induction rest using List.reverseRecOn with
  | nil => rw [List.rdropWhile_concat_neg _ _ _ (by simp [ha]), List.rdropWhile_nil]
  | append_singleton rest b ih =>
    rw [← List.cons_append, ← List.append_assoc]
    by_cases hb : Character.isBlank b = true
    · rw [List.rdropWhile_concat_pos _ _ _ hb, List.rdropWhile_concat_pos _ _ _ hb, ih]
    · rw [List.rdropWhile_concat_neg _ _ _ hb, List.rdropWhile_concat_neg _ _ _ hb, List.append_assoc]
      rfl

/-- Only blanks behind it go from a text that begins with what has none. -/
theorem trim_append {w : Text} (hne : w ≠ []) (hw : ∀ a ∈ w, Character.isBlank a = false)
    (rest : Text) : ∃ rest', (w ++ rest).trim = w ++ rest' ∧ rest' <+: rest := by
  obtain ⟨u, a, rfl⟩ := (List.eq_nil_or_concat' w).resolve_left hne
  obtain ⟨rest', htrim, hrest⟩ := trim_append_cons (u := u) (a := a)
    (fun b hb => hw b (List.mem_of_mem_head? hb)) (hw a (by simp)) rest
  exact ⟨rest', by simpa using htrim, hrest⟩

end Text

/-! ## Words in any case -/

namespace Text

/-- The text spells a word in capital letters, each of its ASCII letters in either case. -/
def Spells (s word : Text) : Prop := s.map Char.toUpper = word

variable {s word : Text}

theorem Spells.length_eq (h : s.Spells word) : s.length = word.length := by
  rw [← h, List.length_map]

theorem Spells.isAlpha (h : s.Spells word) (hword : word.all Char.isUpper = true) :
    ∀ a ∈ s, a.isAlpha = true := by
  intro a ha
  refine isAlpha_of_toUpper rfl (List.all_eq_true.1 hword _ ?_)
  rw [← h]
  exact List.mem_map_of_mem ha

theorem Spells.upper (h : s.Spells word) (hword : word.all Char.isUpper = true) : s.upper = word := by
  have heach : ∀ a ∈ s, Character.upper a = [a.toUpper] := by
    intro a ha
    rw [Character.upper, if_pos (isAscii_of_isAlpha (h.isAlpha hword a ha))]
  rw [← h, Text.upper, List.map_eq_flatMap, List.flatMap_def, List.flatMap_def,
    List.map_congr_left heach]

end Text

end SqlDialects
