/-
What a reported cap does to the lengths that columns are declared with. It bears on nothing but the length of a
string type that is written without it. There a finite cap, cut to an integer, is written if it is smaller, and one
that is not positive keeps the length from being written; a cap that cannot be cut to an integer is complained of,
and what is no number is passed over (`suffixUnder_of_features`).
-/
import SqlDialects.Proofs.Column.Length

namespace SqlDialects

/-! ## Integers as texts -/

namespace Text

theorem hyphen_notMem_toDigits (n : ℕ) : '-' ∉ Nat.toDigits 10 n := by
  intro hmem
  exact absurd (Nat.isDigit_of_mem_toDigits (by decide) (by decide) hmem) (by decide)

theorem toDigits_ne_hyphen_cons (n : ℕ) (s : Text) : Nat.toDigits 10 n ≠ '-' :: s := by
  intro h
  apply hyphen_notMem_toDigits n
  rw [h]
  exact List.mem_cons_self

theorem toDigits_inj {m n : ℕ} (h : Nat.toDigits 10 m = Nat.toDigits 10 n) : m = n := by
  rw [← Nat.ofDigitChars_ten_toDigits (n := m), h, Nat.ofDigitChars_ten_toDigits]

/-- An integer can be told from its digits and its sign. -/
theorem ofInt_injective : Function.Injective ofInt := by
  rintro (m | m) (n | n) h
  · exact congrArg Int.ofNat (toDigits_inj h)
  · exact absurd h (toDigits_ne_hyphen_cons m _)
  · exact absurd h.symm (toDigits_ne_hyphen_cons n _)
  · have hsucc := toDigits_inj (List.cons.inj h).2
    rw [Nat.succ.inj hsucc]

end Text

/-! ## Numbers without their fractions -/

/-- The numbers between -1 and 1 count as zero, on whichever side of it they are. -/
theorem truncate_eq_zero_iff {value : ℚ} : truncate value = 0 ↔ -1 < value ∧ value < 1 := by
  unfold truncate
  split
  · rename_i hvalue
    rw [Int.floor_eq_zero_iff, Set.mem_Ico]
    exact and_congr_left fun _ => iff_of_true hvalue (by linarith)
  · rename_i hvalue
    rw [Int.ceil_eq_zero_iff, Set.mem_Ioc]
    have hneg := not_le.1 hvalue
    exact and_congr_right fun _ => iff_of_true hneg.le (by linarith)

/-! ## Reports -/

namespace FeatureValue

/-- What is reported is a finite number. -/
inductive IsFinite : FeatureValue → ℚ → Prop
  | integer (n : ℤ) : IsFinite (.integer n) n
  | fraction (value : ℚ) : IsFinite (.fraction value) value
  | double {d : Double} {value : ℚ} (h : d.value? = some value) : IsFinite (.double d) value
  | decimal (value : ℚ) : IsFinite (.decimal (.finite value)) value

/-- What is reported stands for a number without bound. -/
inductive IsInfinite : FeatureValue → Radix → Prop
  | double (negative : Bool) : IsInfinite (.double (.infinite negative)) .binary
  | decimal : IsInfinite (.decimal .infinite) .decimal

/-- What is reported stands for a number that there is not. -/
inductive IsUndefined : FeatureValue → Radix → Prop
  | double : IsUndefined (.double .undefined) .binary
  | decimal : IsUndefined (.decimal .undefined) .decimal

/-- What is reported is a flag or no number. -/
inductive IsNoNumber : FeatureValue → Prop
  | flag (b : Bool) : IsNoNumber (.flag b)
  | other : IsNoNumber .other

variable {v : FeatureValue} {value : ℚ} {radix : Radix}

theorem IsFinite.limit?_eq (h : v.IsFinite value) : v.limit? = some (.finite value) := by
  cases h with
  | integer | fraction | decimal => rfl
  | @double d value h =>
    cases d with
    | finite negative m e => rw [limit?, LengthLimit.ofDouble, Option.some.inj h]
    | infinite | undefined => cases h

theorem IsInfinite.limit?_eq (h : v.IsInfinite radix) : v.limit? = some (.infinite radix) := by
  cases h <;> rfl

theorem IsUndefined.limit?_eq (h : v.IsUndefined radix) : v.limit? = some (.undefined radix) := by
  cases h <;> rfl

theorem IsNoNumber.limit?_eq (h : v.IsNoNumber) : v.limit? = none := by
  cases h <;> rfl

/-- Nothing else can be reported. -/
theorem exists_report (v : FeatureValue) : (∃ value, v.IsFinite value) ∨ (∃ radix, v.IsInfinite radix) ∨
    (∃ radix, v.IsUndefined radix) ∨ v.IsNoNumber := by
  cases v with
  | flag b => exact .inr (.inr (.inr (.flag b)))
  | other => exact .inr (.inr (.inr .other))
  | integer n => exact .inl ⟨_, .integer n⟩
  | fraction value => exact .inl ⟨_, .fraction value⟩
  | double d =>
    cases d with
    | finite => exact .inl ⟨_, .double rfl⟩
    | infinite negative => exact .inr (.inl ⟨_, .double negative⟩)
    | undefined => exact .inr (.inr (.inl ⟨_, .double⟩))
  | decimal d =>
    cases d with
    | finite value => exact .inl ⟨_, .decimal value⟩
    | infinite => exact .inr (.inl ⟨_, .decimal⟩)
    | undefined => exact .inr (.inr (.inl ⟨_, .decimal⟩))

end FeatureValue

/-- A finite number is reported, and this is what is left of it without its fraction. -/
def SourceFeatures.ReportsCap (f : SourceFeatures) (cap : ℤ) : Prop :=
  ∃ v ∈ f.lookup LengthLimit.feature, ∃ value, v.IsFinite value ∧ truncate value = cap

/-! ## Suffixes under a cap -/

namespace ColumnType

variable {c : ColumnType} {f : SourceFeatures} {n cap : ℤ} {r : Option Text}

theorem inParentheses_injective : Function.Injective inParentheses := by
  intro s t h
  exact List.append_cancel_right (List.cons.inj h).2

/-- The suffix of a type that is no string type does not depend on a cap, and there is no complaint about one. -/
theorem exists_suffix_of_ne (h : c.kind ≠ .string) : ∃ r, ∀ limit, c.suffix limit = .ok r := by
  unfold suffix
  cases hown : c.isUserType with
  | true => exact ⟨none, fun limit => rfl⟩
  | false =>
    cases hkind : c.kind with
    | string => exact absurd hkind h
    | binary | content | numeric | boolean | datetime | other => exact ⟨_, fun limit => rfl⟩

/-- Without a cap there is never a complaint. -/
theorem exists_suffix_none (c : ColumnType) : ∃ r, c.suffix none = .ok r := by
  by_cases hkind : c.kind = .string
  · by_cases hspells : c.SpellsLength
    · exact ⟨_, hspells.suffix_none⟩
    · exact ⟨none, suffix_of_not_spellsLength hkind hspells none⟩
  · obtain ⟨r, hr⟩ := exists_suffix_of_ne hkind
    exact ⟨r, hr none⟩

/-- A length is written for a string type without a cap only if nothing keeps it from being written, and it is the
length of the type. -/
theorem suffix_none_eq_iff (hkind : c.kind = .string) :
    c.suffix none = .ok (some (inParentheses (Text.ofInt n))) ↔ c.SpellsLength ∧ n = c.maxLength := by
  constructor
  · intro h
    by_cases hspells : c.SpellsLength
    · rw [hspells.suffix_none] at h
      have htext := inParentheses_injective (Option.some.inj (Except.ok.inj h))
      exact ⟨hspells, (Text.ofInt_injective htext).symm⟩
    · rw [suffix_of_not_spellsLength hkind hspells] at h
      cases h
  · rintro ⟨hspells, rfl⟩
    exact hspells.suffix_none

/-- Where no length is written for want of a cap, none is written under one, and there is no complaint. -/
theorem suffix_of_suffix_none (h : c.suffix none = .ok r) (hr : c.kind ≠ .string ∨ r = none)
    (limit : Option LengthLimit) : c.suffix limit = .ok r := by
  by_cases hkind : c.kind = .string
  · obtain rfl := hr.resolve_left (not_not_intro hkind)
    refine suffix_of_not_spellsLength hkind (fun hspells => ?_) limit
    rw [hspells.suffix_none] at h
    cases h
  · obtain ⟨own, hown⟩ := exists_suffix_of_ne hkind
    rw [hown, ← h, hown]

theorem suffixUnder_of_absent (c : ColumnType) (h : f.lookup LengthLimit.feature = none) :
    c.suffixUnder f = c.suffix none := by
  rw [suffixUnder, SourceFeatures.lengthLimit?, h, Option.bind_none]

theorem suffixUnder_of_mem (c : ColumnType) {v : FeatureValue} (hv : v ∈ f.lookup LengthLimit.feature) :
    c.suffixUnder f = c.suffix v.limit? := by
  rw [suffixUnder, SourceFeatures.lengthLimit?, Option.mem_def.1 hv, Option.bind_some]

/-- What each report does to a length `n` that is written without it. -/
structure CapsLength (c : ColumnType) (n : ℤ) (f : SourceFeatures) : Prop where
  absent : f.lookup LengthLimit.feature = none → c.suffixUnder f = .ok (some (inParentheses (Text.ofInt n)))
  noNumber : ∀ v ∈ f.lookup LengthLimit.feature, v.IsNoNumber →
    c.suffixUnder f = .ok (some (inParentheses (Text.ofInt n)))
  finite : ∀ cap, f.ReportsCap cap →
    c.suffixUnder f = .ok (if cap ≤ 0 then none else some (inParentheses (Text.ofInt (min n cap))))
  infinite : ∀ v ∈ f.lookup LengthLimit.feature, ∀ radix, v.IsInfinite radix →
    c.suffixUnder f = .error (.infiniteLimit radix)
  undefined : ∀ v ∈ f.lookup LengthLimit.feature, ∀ radix, v.IsUndefined radix →
    c.suffixUnder f = .error (.undefinedLimit radix)

theorem SpellsLength.capsLength (h : c.SpellsLength) (f : SourceFeatures) : c.CapsLength c.maxLength f where
  absent habsent := by rw [c.suffixUnder_of_absent habsent, h.suffix_none]
  noNumber v hv hno := by rw [c.suffixUnder_of_mem hv, hno.limit?_eq, h.suffix_none]
  finite := by
    rintro _ ⟨v, hv, value, hfinite, rfl⟩
    rw [c.suffixUnder_of_mem hv, hfinite.limit?_eq, h.suffix_some, LengthLimit.truncated_finite, Except.map]
  infinite v hv radix hinfinite := by
    rw [c.suffixUnder_of_mem hv, hinfinite.limit?_eq, h.suffix_some]
    rfl
  undefined v hv radix hundefined := by
    rw [c.suffixUnder_of_mem hv, hundefined.limit?_eq, h.suffix_some]
    rfl

theorem CapsLength.of_pos (h : c.CapsLength n f) (hcap : f.ReportsCap cap) (hpositive : 0 < cap) :
    c.suffixUnder f = .ok (some (inParentheses (Text.ofInt (min n cap)))) := by
  rw [h.finite cap hcap, if_neg (not_le.2 hpositive)]

/-- Whatever is reported, no greater length is written. -/
theorem CapsLength.exists_le (h : c.CapsLength n f) (hr : c.suffixUnder f = .ok r) :
    ∀ t ∈ r, ∃ k ≤ n, t = inParentheses (Text.ofInt k) := by
  rintro t rfl
  cases hreported : f.lookup LengthLimit.feature with
  | none =>
    rw [h.absent hreported] at hr
    exact ⟨n, le_rfl, (Option.some.inj (Except.ok.inj hr)).symm⟩
  | some v =>
    obtain ⟨value, hv⟩ | ⟨radix, hv⟩ | ⟨radix, hv⟩ | hv := v.exists_report
    · rw [h.finite _ ⟨v, hreported, value, hv, rfl⟩] at hr
      split at hr
      · cases hr
      · exact ⟨_, min_le_left _ _, (Option.some.inj (Except.ok.inj hr)).symm⟩
    · rw [h.infinite v hreported radix hv] at hr
      cases hr
    · rw [h.undefined v hreported radix hv] at hr
      cases hr
    · rw [h.noNumber v hreported hv] at hr
      exact ⟨n, le_rfl, (Option.some.inj (Except.ok.inj hr)).symm⟩

/-- A report bears on nothing but the length of a string type that is written without it; there it does what
`CapsLength` says, and the length grows with a positive cap. -/
theorem suffixUnder_of_features (c : ColumnType) :
    ∃ r, c.suffixUnder [] = .ok r ∧
      (c.kind ≠ .string ∨ r = none → ∀ f, c.suffixUnder f = .ok r) ∧
      (c.kind = .string → ∀ n, r = some (inParentheses (Text.ofInt n)) →
        (∀ f, c.CapsLength n f) ∧
        ∀ f f' cap cap', SourceFeatures.ReportsCap f cap → SourceFeatures.ReportsCap f' cap' →
          0 < cap → cap ≤ cap' → ∃ k k',
            c.suffixUnder f = .ok (some (inParentheses (Text.ofInt k))) ∧
            c.suffixUnder f' = .ok (some (inParentheses (Text.ofInt k'))) ∧ k ≤ k' ∧ k' ≤ n) := by
  obtain ⟨r, hr⟩ := exists_suffix_none c
  refine ⟨r, hr, fun hno f => suffix_of_suffix_none hr hno _, ?_⟩
  rintro hkind n rfl
  obtain ⟨hspells, rfl⟩ := (suffix_none_eq_iff hkind).1 hr
  refine ⟨hspells.capsLength, fun f f' cap cap' hcap hcap' hpositive hle => ?_⟩
  refine ⟨min c.maxLength cap, min c.maxLength cap', (hspells.capsLength f).of_pos hcap hpositive,
    (hspells.capsLength f').of_pos hcap' (hpositive.trans_le hle), min_le_min_left _ hle, min_le_left _ _⟩

/-- A string type of a length that a small cap brings down. -/
def varchar : ColumnType := { typeName := some "VARCHAR", kind := .string, maxLength := 4000 }

/-- A half counts as zero above zero and below it, and a cap of zero keeps the length from being written. -/
theorem suffixUnder_of_features_varchar :
    varchar.suffixUnder [] = .ok (some "(4000)") ∧
      varchar.suffixUnder [(LengthLimit.feature, .flag true)] = .ok (some "(4000)") ∧
      varchar.suffixUnder [(LengthLimit.feature, .fraction (511 / 2))] = .ok (some "(255)") ∧
      varchar.suffixUnder [(LengthLimit.feature, .fraction (1 / 2))] = .ok none ∧
      varchar.suffixUnder [(LengthLimit.feature, .decimal (.finite (-1 / 2)))] = .ok none ∧
      varchar.suffixUnder [(LengthLimit.feature, .double (.infinite true))] = .error (.infiniteLimit .binary) ∧
      varchar.suffixUnder [(LengthLimit.feature, .decimal .undefined)] = .error (.undefinedLimit .decimal) := by
  obtain ⟨r, hr, -, hstring⟩ := suffixUnder_of_features varchar
  have hlength : r = some (inParentheses (Text.ofInt 4000)) :=
    (Except.ok.inj (hr.symm.trans (by decide : varchar.suffixUnder [] = .ok (some "(4000)"))))
  obtain ⟨hcaps, -⟩ := hstring rfl 4000 hlength
  refine ⟨(hcaps []).absent rfl, (hcaps _).noNumber _ rfl (.flag true), ?_, ?_, ?_,
    (hcaps _).infinite _ rfl _ (.double true), (hcaps _).undefined _ rfl _ .decimal⟩
  · exact (hcaps _).finite 255 ⟨_, rfl, _, .fraction _, by norm_num [truncate]⟩
  · exact (hcaps _).finite 0 ⟨_, rfl, _, .fraction _, truncate_eq_zero_iff.2 (by norm_num)⟩
  · exact (hcaps _).finite 0 ⟨_, rfl, _, .decimal _, truncate_eq_zero_iff.2 (by norm_num)⟩

end ColumnType

end SqlDialects
