/-
Which names count as quoted. Any text between the two marks of a pair does, whatever stands between them,
and is left as it is; it is what the dialect itself would have written for some name exactly if the mark
that the dialect doubles between that pair occurs in pairs there (`isQuoted_iff_and_enquote_iff`). So what
has been quoted once stays as it is when it is quoted again, in whatever way (`quote_quote_and_isQuoted`).
-/
import SqlDialects.Proofs.Dialect.Unquoting

namespace SqlDialects

/-! ## Doubled marks -/

namespace Text

/-- A text in which the mark occurs in pairs only is the doubling of another one. -/
theorem InPairs.exists_double {mark : Char} {s : Text} (h : InPairs mark s) : ∃ t, s = double mark t := by
  induction h with
  | nil => exact ⟨[], rfl⟩
  | pair _ ih =>
    obtain ⟨t, rfl⟩ := ih
    exact ⟨mark :: t, by simp [double]⟩
  | @other c _ hc _ ih =>
    obtain ⟨t, rfl⟩ := ih
    exact ⟨c :: t, by simp [double, hc]⟩

theorem exists_double_iff {mark : Char} {s : Text} : (∃ t, s = double mark t) ↔ InPairs mark s := by
  constructor
  · rintro ⟨t, rfl⟩
    exact inPairs_double mark t
  · exact InPairs.exists_double

end Text

/-! ## Marks around a text -/

namespace Delimiters

variable {q : Delimiters} {s : Text}

/-- A text between the two marks is anything at all with one of them at each end. -/
theorem enclose_iff : q.enclose s = true ↔ ∃ inside, s = q.opening ++ inside ++ q.closing := by
  constructor
  · intro h
    unfold enclose Text.beginsWith Text.endsWith at h
    simp only [Bool.and_eq_true, decide_eq_true_eq, List.isPrefixOf_iff_prefix,
      List.isSuffixOf_iff_suffix] at h
    obtain ⟨⟨hlength, t, rfl⟩, hends⟩ := h
    -- the marks do not overlap, so the closing one ends what follows the opening one
    rw [List.length_append] at hlength
    obtain ⟨inside, rfl⟩ := List.suffix_of_suffix_length_le hends (List.suffix_append q.opening t) (by omega)
    exact ⟨inside, (List.append_assoc _ _ _).symm⟩
  · rintro ⟨inside, rfl⟩
    exact q.enclose_append inside

end Delimiters

namespace Profile

variable {p : Profile} {name : Text}

theorem isQuoted_iff :
    p.isQuoted name = true ↔ ∃ q ∈ p.identifierQuotes, ∃ inside, name = q.opening ++ inside ++ q.closing := by
  simp only [isQuoted, enclosingQuotes?, List.find?_isSome, Delimiters.enclose_iff]

end Profile

theorem Dialect.quote_of_isQuoted {d : Dialect} {name : Text} (h : d.profile.isQuoted name = true)
    (caseSensitive force : Bool) : d.quote name caseSensitive force = name := by
  rw [quote, h, Bool.or_true, if_pos rfl]

/-! ## Quoting again -/

theorem Dialect.isQuoted_quote_of_ne {d : Dialect} {name : Text} {caseSensitive force : Bool}
    (h : d.quote name caseSensitive force ≠ name) :
    d.profile.isQuoted (d.quote name caseSensitive force) = true := by
  rcases d.quote_cases name caseSensitive force with hkept | ⟨q, hq, hwritten⟩
  · exact absurd hkept h
  · rw [hwritten]
    exact Profile.isQuoted_enquote_of_head hq name

/-- Quoting twice is quoting once. A name that quoting has changed counts as quoted and is left as it is from
then on, in whatever way it is quoted. -/
theorem quote_quote_and_isQuoted (d : Dialect) (name : Text) (caseSensitive force : Bool) :
    d.quote (d.quote name caseSensitive force) caseSensitive force = d.quote name caseSensitive force ∧
      (d.quote name caseSensitive force ≠ name →
        d.profile.isQuoted (d.quote name caseSensitive force) = true ∧
          ∀ caseSensitive' force', d.quote (d.quote name caseSensitive force) caseSensitive' force' =
            d.quote name caseSensitive force) := by
  by_cases h : d.quote name caseSensitive force = name
  · constructor
    · rw [h]
      exact h
    · intro hne
      exact absurd h hne
  · have hquoted := Dialect.isQuoted_quote_of_ne h
    have hkept := Dialect.quote_of_isQuoted hquoted
    exact ⟨hkept caseSensitive force, fun _ => ⟨hquoted, hkept⟩⟩

/-- A dialect whose marks overlap and whose policy keeps nothing of a name. -/
def Dialect.overlappingMarks : Dialect where
  profile :=
    { Profile.generic with
      name := "overlapping", identifierQuotes := [⟨"aba", "ba"⟩], escapeIdentifier := fun _ _ => [] }
  words := Builder.build {}

/-- A name that begins with the one mark and ends with the other, but is too short for both. -/
theorem quote_quote_and_isQuoted_overlapping :
    Dialect.overlappingMarks.profile.isQuoted "aba" = false ∧
      Dialect.overlappingMarks.quote "aba" false true ≠ "aba".toList ∧
      Dialect.overlappingMarks.profile.isQuoted (Dialect.overlappingMarks.quote "aba" false true) = true ∧
      Dialect.overlappingMarks.quote (Dialect.overlappingMarks.quote "aba" false true) true false =
        Dialect.overlappingMarks.quote "aba" false true := by
  have hne : Dialect.overlappingMarks.quote "aba" false true ≠ "aba".toList := by decide
  obtain ⟨-, hchanged⟩ := quote_quote_and_isQuoted .overlappingMarks "aba" false true
  obtain ⟨hquoted, hkept⟩ := hchanged hne
  exact ⟨by decide, hne, hquoted, hkept true false⟩

/-! ## The built-in engines -/

namespace Engine

/-- The mark that the engine doubles between a pair of quotes, if it doubles one there. -/
def doubledMark? (e : Engine) (q : Delimiters) : Option Char :=
  if q = ⟨"\"", "\""⟩ then some '"' else if e = mssql ∧ q = ⟨"[", "]"⟩ then some ']' else none

theorem escapeIdentifier_eq (e : Engine) (name : Text) : ∀ q ∈ e.dialect.profile.identifierQuotes,
    e.dialect.profile.escapeIdentifier q name =
      match e.doubledMark? q with
      | some mark => name.double mark
      | none => name := by
  cases e with
  | generic | postgres | oracle | mysql => exact List.forall_mem_singleton.2 rfl
  | mssql => exact List.forall_mem_cons.2 ⟨rfl, List.forall_mem_singleton.2 rfl⟩
  | sqlite => exact List.forall_mem_cons.2 ⟨rfl, List.forall_mem_cons.2 ⟨rfl, List.forall_mem_singleton.2 rfl⟩⟩

/-- What stands between the marks of a pair has been written by the engine for some name exactly if the mark
that it doubles there occurs in pairs. -/
theorem exists_enquote_iff (e : Engine) {q : Delimiters} (hq : q ∈ e.dialect.profile.identifierQuotes)
    (inside : Text) :
    (∃ name, q.opening ++ inside ++ q.closing = e.dialect.profile.enquote q name) ↔
      ∀ mark ∈ e.doubledMark? q, Text.InPairs mark inside := by
  have hinside (name : Text) : q.opening ++ inside ++ q.closing = e.dialect.profile.enquote q name ↔
      inside = e.dialect.profile.escapeIdentifier q name := by
    rw [Profile.enquote, List.append_left_inj, List.append_right_inj]
  simp only [hinside, e.escapeIdentifier_eq _ q hq]
  cases e.doubledMark? q with
  | none => simp
  | some mark => simp [Text.exists_double_iff]

end Engine

/-- A name counts as quoted, and is left as it is, exactly if it is any text between the two marks of a pair;
and between the marks of a pair the engine could have written it exactly if the mark that it doubles there
occurs in pairs. -/
theorem isQuoted_iff_and_enquote_iff (e : Engine) (name : Text) :
    (e.dialect.profile.isQuoted name = true ↔
        ∃ q ∈ e.dialect.profile.identifierQuotes, ∃ inside, name = q.opening ++ inside ++ q.closing) ∧
      (e.dialect.profile.isQuoted name = true →
        ∀ caseSensitive force, e.dialect.quote name caseSensitive force = name) ∧
      ∀ q ∈ e.dialect.profile.identifierQuotes, ∀ inside, name = q.opening ++ inside ++ q.closing →
        ((∃ body, name = e.dialect.profile.enquote q body) ↔
          ∀ mark ∈ e.doubledMark? q, Text.InPairs mark inside) := by
  refine ⟨Profile.isQuoted_iff, Dialect.quote_of_isQuoted, ?_⟩
  rintro q hq inside rfl
  exact e.exists_enquote_iff hq inside

theorem isQuoted_iff_and_enquote_iff_brackets :
    Policy.brackets ∈ Engine.mssql.dialect.profile.identifierQuotes ∧
      Engine.mssql.dialect.profile.isQuoted "[a]]b]" = true ∧
      Engine.mssql.dialect.quote "[a]]b]" false true = "[a]]b]".toList ∧
      ("[a]]b]" : Text) = Policy.brackets.opening ++ "a]]b".toList ++ Policy.brackets.closing ∧
      ((∃ body, ("[a]]b]" : Text) = Engine.mssql.dialect.profile.enquote Policy.brackets body) ↔
        ∀ mark ∈ Engine.mssql.doubledMark? Policy.brackets, Text.InPairs mark "a]]b") := by
  have hpair : Policy.brackets ∈ Engine.mssql.dialect.profile.identifierQuotes := by decide
  have hquoted : Engine.mssql.dialect.profile.isQuoted "[a]]b]" = true := by decide
  obtain ⟨-, hkept, hwritten⟩ := isQuoted_iff_and_enquote_iff .mssql "[a]]b]"
  exact ⟨hpair, hquoted, hkept hquoted false true, by decide, hwritten _ hpair "a]]b" (by decide)⟩

/-- A single mark inside counts as quoted, though no dialect would have written it. -/
theorem not_enquote_singleMark :
    Engine.generic.dialect.profile.isQuoted "\"a\"b\"" = true ∧
      ¬ ∃ q ∈ Engine.generic.dialect.profile.identifierQuotes, ∃ body,
          ("\"a\"b\"" : Text) = Engine.generic.dialect.profile.enquote q body := by
  refine ⟨by decide, ?_⟩
  rintro ⟨q, hq, hbody⟩
  obtain rfl : q = ⟨"\"", "\""⟩ := List.mem_singleton.1 hq
  have hpairs : Text.InPairs '"' "a\"b" := (Engine.generic.exists_enquote_iff hq "a\"b").1 hbody '"' rfl
  obtain ⟨r, hr⟩ := hpairs.exists_readQuoted
  have hstop : Text.readQuoted '"' none ("a\"b" ++ ['"']) = some ("a".toList, "b\"".toList) := by decide
  rw [hstop] at hr
  cases hr

end SqlDialects
