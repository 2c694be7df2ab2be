/-
The lengths that columns are declared with. The length of a binary type or of content is always below the
greatest 32-bit integer when it is written, and so is that of a string type unless the type is overlong: nothing
keeps its length from being written, and no cap brings it down (`suffixInRange_iff`). For string types only two
lengths stand for an unbounded one, so that others as great get through.
-/
import Mathlib.Data.Rat.Floor
import SqlDialects.Column.Feature

namespace SqlDialects

/-! ## Caps -/

/-- A number without its fraction. -/
def truncate (value : ℚ) : ℤ := if 0 ≤ value then ⌊value⌋ else ⌈value⌉

theorem tdiv_num_den (value : ℚ) : value.num.tdiv value.den = truncate value := by
  unfold truncate
  split
  · rename_i hvalue
    rw [Rat.floor_def', Int.tdiv_eq_ediv_of_nonneg (Rat.num_nonneg.2 hvalue)]
  · rename_i hvalue
    have hnum : 0 ≤ -value.num := by
      have := Rat.num_nonneg.not.2 hvalue
      omega
    rw [Rat.ceil_def', ← Int.tdiv_eq_ediv_of_nonneg hnum, Int.neg_tdiv, neg_neg]

/-- A finite cap counts without its fraction. -/
theorem LengthLimit.truncated_finite (value : ℚ) : (finite value).truncated = .ok (truncate value) := by
  rw [truncated, tdiv_num_den]

namespace ColumnType

variable {c : ColumnType} {f : SourceFeatures}

/-! ## String types -/

/-- Nothing keeps the length of a string type from being written. -/
structure SpellsLength (c : ColumnType) : Prop where
  string : c.kind = .string
  ownType : c.isUserType = false
  bare : '(' ∉ c.upperName
  positive : 0 < c.maxLength
  bounded : c.maxLength ∉ unboundedLengths

theorem spellsLength_iff : c.SpellsLength ↔ c.kind = .string ∧ c.isUserType = false ∧
    (c.upperName.contains '(' || c.maxLength ≤ 0 || unboundedLengths.contains c.maxLength) = false := by
  rw [Bool.or_eq_false_iff, Bool.or_eq_false_iff, List.contains_eq_mem, List.contains_eq_mem,
    decide_eq_false_iff_not, decide_eq_false_iff_not, decide_eq_false_iff_not, Int.not_le]
  constructor
  · rintro ⟨hkind, hown, hbare, hpositive, hbounded⟩
    exact ⟨hkind, hown, ⟨hbare, hpositive⟩, hbounded⟩
  · rintro ⟨hkind, hown, ⟨hbare, hpositive⟩, hbounded⟩
    exact ⟨hkind, hown, hbare, hpositive, hbounded⟩

theorem suffix_of_string (hkind : c.kind = .string) (limit : Option LengthLimit) :
    c.suffix limit = if c.isUserType then .ok none else c.stringSuffix limit := by
  rw [suffix, hkind]

theorem suffix_of_not_spellsLength (hkind : c.kind = .string) (h : ¬ c.SpellsLength) (limit : Option LengthLimit) :
    c.suffix limit = .ok none := by
  rw [suffix_of_string hkind]
  split
  · rfl
  · rename_i hown
    unfold stringSuffix
    rw [if_pos]
    by_contra hguard
    exact h (spellsLength_iff.2 ⟨hkind, Bool.eq_false_iff.2 hown, Bool.eq_false_iff.2 hguard⟩)

/-- Without a cap the length itself is written. -/
theorem SpellsLength.suffix_none (h : c.SpellsLength) :
    c.suffix none = .ok (some (inParentheses (Text.ofInt c.maxLength))) := by
  obtain ⟨hkind, hown, hguard⟩ := spellsLength_iff.1 h
  rw [suffix_of_string hkind, hown, if_neg Bool.false_ne_true]
  unfold stringSuffix
  rw [hguard, if_neg Bool.false_ne_true]

/-- Under a cap, which has to be a number that can be cut to an integer, the smaller of the two is written. A cap
that is not positive stands for none at all, and nothing is written. -/
theorem SpellsLength.suffix_some (h : c.SpellsLength) (limit : LengthLimit) :
    c.suffix (some limit) = limit.truncated.map fun cap =>
      if cap ≤ 0 then none else some (inParentheses (Text.ofInt (min c.maxLength cap))) := by
  obtain ⟨hkind, hown, hguard⟩ := spellsLength_iff.1 h
  rw [suffix_of_string hkind, hown, if_neg Bool.false_ne_true]
  unfold stringSuffix
  rw [hguard, if_neg Bool.false_ne_true]
  cases limit <;> rfl

/-! ## Lengths in range -/

/-- The length that the column asks for, which a finite cap bounds if the type is a string type. -/
def lengthUnder (c : ColumnType) (f : SourceFeatures) : ℤ :=
  match c.kind, f.lengthLimit? with
  | .string, some (.finite value) => min c.maxLength (truncate value)
  | _, _ => c.maxLength

theorem lengthUnder_of_none (hreported : f.lengthLimit? = none) : c.lengthUnder f = c.maxLength := by
  rw [lengthUnder, hreported]
  cases c.kind <;> rfl

theorem lengthUnder_of_finite {value : ℚ} (hkind : c.kind = .string)
    (hreported : f.lengthLimit? = some (.finite value)) : c.lengthUnder f = min c.maxLength (truncate value) := by
  rw [lengthUnder, hkind, hreported]

theorem lengthUnder_le (c : ColumnType) (f : SourceFeatures) : c.lengthUnder f ≤ c.maxLength := by
  unfold lengthUnder
  split
  · exact min_le_left _ _
  · exact le_rfl

theorem lengthUnder_of_ne (h : c.kind ≠ .string) : c.lengthUnder f = c.maxLength := by
  unfold lengthUnder
  split
  · rename_i hkind _
    exact absurd hkind h
  · rfl

/-- The suffix, if there is one, is the length that the column asks for, and this is positive and below the
greatest 32-bit integer. -/
def SuffixInRange (c : ColumnType) (f : SourceFeatures) : Prop :=
  c.suffixUnder f = .ok none ∨
    c.suffixUnder f = .ok (some (inParentheses (Text.ofInt (c.lengthUnder f)))) ∧
      0 < c.lengthUnder f ∧ c.lengthUnder f < greatestInt

/-- Nothing keeps a length from being written that is not below the greatest 32-bit integer. -/
structure Overlong (c : ColumnType) (f : SourceFeatures) : Prop extends c.SpellsLength where
  long : greatestInt ≤ c.lengthUnder f

/-- What is written for a string type is the length that it asks for, if this is positive. -/
theorem SpellsLength.suffixUnder_eq (h : c.SpellsLength)
    (hlimit : ∀ limit ∈ f.lengthLimit?, ∃ value, limit = .finite value) :
    c.suffixUnder f =
      .ok (if 0 < c.lengthUnder f then some (inParentheses (Text.ofInt (c.lengthUnder f))) else none) := by
  have hpositive := h.positive
  unfold suffixUnder
  cases hreported : f.lengthLimit? with
  | none => rw [h.suffix_none, lengthUnder_of_none hreported, if_pos hpositive]
  | some limit =>
    obtain ⟨value, rfl⟩ := hlimit limit hreported
    rw [h.suffix_some, LengthLimit.truncated_finite, lengthUnder_of_finite h.string hreported, Except.map]
    by_cases hcap : truncate value ≤ 0
    · rw [if_pos hcap, if_neg (by omega)]
    · rw [if_neg hcap, if_pos (by omega)]

/-- A binary type and content are written with a length in range or with none. -/
theorem suffixInRange_of_binary (h : c.kind = .binary ∨ c.kind = .content) : c.SuffixInRange f := by
  have hlength : c.lengthUnder f = c.maxLength := lengthUnder_of_ne (by rcases h with h | h <;> rw [h] <;> decide)
  have hsuffix : c.suffixUnder f = .ok (if c.isUserType then none else c.binarySuffix) := by
    unfold suffixUnder suffix
    rcases h with h | h <;> rw [h] <;> split <;> rfl
  unfold SuffixInRange
  rw [hsuffix, hlength]
  split
  · exact .inl rfl
  · unfold binarySuffix
    split
    · rename_i hguard
      simp only [Bool.and_eq_true, decide_eq_true_eq] at hguard
      exact .inr ⟨rfl, hguard.1.2, hguard.2⟩
    · exact .inl rfl

/-- The suffix of a string type, of a binary type or of content is in range, whatever finite cap is reported and
whether one is, exactly if the type is not overlong. -/
theorem suffixInRange_iff (hkind : c.kind ∈ [DataKind.string, .binary, .content])
    (hlimit : ∀ limit ∈ f.lengthLimit?, ∃ value, limit = .finite value) :
    c.SuffixInRange f ↔ ¬ c.Overlong f := by
  by_cases hspells : c.SpellsLength
  · have hlong : c.Overlong f ↔ greatestInt ≤ c.lengthUnder f := ⟨Overlong.long, fun h => ⟨hspells, h⟩⟩
    rw [hlong, SuffixInRange, hspells.suffixUnder_eq hlimit, not_le]
    split
    · rename_i hpositive
      simp [hpositive]
    · rename_i hnot
      have : c.lengthUnder f < greatestInt := by
        unfold greatestInt
        omega
      simp [this]
  · have hnot : ¬ c.Overlong f := fun h => hspells h.toSpellsLength
    refine iff_of_true ?_ hnot
    cases hc : c.kind with
    | string => exact .inl (suffix_of_not_spellsLength hc hspells _)
    | binary => exact suffixInRange_of_binary (.inl hc)
    | content => exact suffixInRange_of_binary (.inr hc)
    | numeric | boolean | datetime | other =>
      rw [hc] at hkind
      exact absurd hkind (by decide)

/-- A half is cut off the cap, and the cap is written. -/
theorem suffixInRange_iff_half :
    DataKind.string ∈ [DataKind.string, .binary, .content] ∧
      (∀ limit ∈ SourceFeatures.lengthLimit? [(LengthLimit.feature, .fraction (511 / 2))],
        ∃ value, limit = .finite value) ∧
      SuffixInRange { typeName := some "VARCHAR", kind := .string, maxLength := 4000 }
        [(LengthLimit.feature, .fraction (511 / 2))] := by
  have hkind : DataKind.string ∈ [DataKind.string, .binary, .content] := by decide
  have hlimit : ∀ limit ∈ SourceFeatures.lengthLimit? [(LengthLimit.feature, .fraction (511 / 2))],
      ∃ value, limit = .finite value := by
    intro limit hlimit
    exact ⟨511 / 2, (Option.some.inj hlimit).symm⟩
  refine ⟨hkind, hlimit, (suffixInRange_iff hkind hlimit).2 fun hoverlong => ?_⟩
  have hlong := hoverlong.long.trans (lengthUnder_le _ _)
  revert hlong
  decide

/-- The length of a long text stands for no unbounded one and is written, though it is out of range. -/
theorem not_suffixInRange_longText :
    suffixUnder { typeName := some "LONGTEXT", kind := .string, maxLength := 0xFFFFFFFF } [] =
        .ok (some "(4294967295)".toList) ∧
      ¬ SuffixInRange { typeName := some "LONGTEXT", kind := .string, maxLength := 0xFFFFFFFF } [] := by
  have hsuffix : suffixUnder { typeName := some "LONGTEXT", kind := .string, maxLength := 0xFFFFFFFF } [] =
      .ok (some "(4294967295)".toList) := by decide
  refine ⟨hsuffix, ?_⟩
  rintro (hnone | ⟨-, -, hlt⟩)
  · rw [hsuffix] at hnone
    cases hnone
  · revert hlt
    decide

end ColumnType

end SqlDialects
