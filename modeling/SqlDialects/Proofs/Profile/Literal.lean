/-
String literals as the engines read them. A literal that a profile has written stands for the string it
was written for, also in the middle of a statement, and taking its quotes off gives the string back
(`readLiteral_quoteLiteral`). Of the pairs of quotes that a built-in dialect has, only the default one is
taken for the quotes of a literal (`isLiteral_iff_and_unquoteLiteral_iff`).
-/
import SqlDialects.Dialect.BuiltIn
import SqlDialects.Profile.Literal
import SqlDialects.Proofs.Text.Quotation

namespace SqlDialects

/-! ## The rules of the engines -/

namespace Engine

/-- The character behind which a string literal takes any character as it is. -/
def literalEscape : Engine → Option Char
  | mysql => some '\\'
  | _ => none

/-- Reading the string literal at the beginning of a text: the string it stands for, and what follows
it. -/
def readLiteral (e : Engine) : Text → Option (Text × Text)
  | [] => none
  | c :: rest => if c = '\'' then Text.readQuoted '\'' e.literalEscape rest else none

theorem literalMark_profile (e : Engine) : e.dialect.profile.literalMark = ['\''] := by
  cases e <;> rfl

/-- Behind an opening mark, the engine reads what its profile has escaped up to the closing mark. -/
theorem readQuoted_escapeString (e : Engine) (s : Text) {rest : Text} (hrest : rest.head? ≠ some '\'') :
    Text.readQuoted '\'' e.literalEscape (e.dialect.profile.escapeString s ++ '\'' :: rest) =
      some (s, rest) := by
  cases e with
  | mysql => exact Text.readQuoted_double_double (by decide) s hrest
  | generic | postgres | sqlite | oracle | mssql => exact Text.readQuoted_double s hrest

theorem unescapeString_escapeString (e : Engine) (s : Text) :
    e.dialect.profile.unescapeString (e.dialect.profile.escapeString s) = s := by
  cases e with
  | mysql =>
    show ((((s.double '\'').double '\\').undouble '\\').undouble '\'') = s
    rw [Text.undouble_double, Text.undouble_double]
  | generic | postgres | sqlite | oracle | mssql => exact Text.undouble_double '\'' s

theorem length_le_length_escapeString (e : Engine) (s : Text) :
    s.length ≤ (e.dialect.profile.escapeString s).length := by
  cases e with
  | mysql =>
    calc s.length ≤ (s.double '\'').length := Text.length_le_length_double '\'' s
      _ ≤ ((s.double '\'').double '\\').length := Text.length_le_length_double '\\' _
  | generic | postgres | sqlite | oracle | mssql => exact Text.length_le_length_double '\'' s

/-- Every pair of quotes is one character at both ends, and the default pair is that of the apostrophe. -/
theorem exists_mark_of_mem_stringQuotes (e : Engine) {q : Delimiters}
    (hq : q ∈ e.dialect.profile.stringQuotes) :
    ∃ mark, q = ⟨[mark], [mark]⟩ ∧ (e.dialect.profile.stringQuotes.head? = some q ↔ mark = '\'') := by
  cases e with
  | mysql =>
    rcases List.mem_cons.1 hq with rfl | hq
    · exact ⟨'\'', rfl, by decide⟩
    · obtain rfl := List.mem_singleton.1 hq
      exact ⟨'"', rfl, by decide⟩
  | generic | postgres | sqlite | oracle | mssql =>
    obtain rfl := List.mem_singleton.1 hq
    exact ⟨'\'', rfl, by decide⟩

end Engine

/-! ## Putting quotes on and taking them off -/

namespace Profile

variable {p : Profile} {mark : Char}

/-- Between two characters of a kind, any text is a literal if and only if they are the mark. -/
theorem isLiteral_between_iff (hmark : p.literalMark = [mark]) (c : Char) (s : Text) :
    p.isLiteral ([c] ++ s ++ [c]) = true ↔ c = mark := by
  have htwo : 2 ≤ ([c] ++ s ++ [c]).length := by
    simp only [List.length_append, List.length_singleton]
    omega
  unfold isLiteral Text.beginsWith Text.endsWith
  simp only [hmark, Bool.and_eq_true, decide_eq_true_eq, List.isPrefixOf_iff_prefix, List.isSuffixOf_iff_suffix]
  constructor
  · rintro ⟨⟨-, hbegins⟩, -⟩
    exact (List.cons_prefix_cons.1 hbegins).1.symm
  · rintro rfl
    exact ⟨⟨htwo, s ++ [c], (List.append_assoc _ _ _).symm⟩, List.suffix_append _ _⟩

/-- The marks are taken off; a text between two other characters is left as it is. -/
theorem unquoteLiteral_between (hmark : p.literalMark = [mark]) (c : Char) (s : Text) :
    p.unquoteLiteral ([c] ++ s ++ [c]) = if c = mark then p.unescapeString s else [c] ++ s ++ [c] := by
  have hbody : ([c] ++ s ++ [c]).tail.dropLast = s := by
    rw [List.append_assoc, List.singleton_append, List.tail_cons, List.dropLast_concat]
  unfold unquoteLiteral
  simp only [isLiteral_between_iff hmark, hbody]

/-- A profile whose mark is one character and that can undo its own escaping gets back what it has
quoted. -/
theorem unquoteLiteral_quoteLiteral (hmark : p.literalMark = [mark]) {s : Text}
    (hs : p.unescapeString (p.escapeString s) = s) : p.unquoteLiteral (p.quoteLiteral s) = s := by
  unfold quoteLiteral
  rw [hmark, unquoteLiteral_between hmark, if_pos rfl, hs]

end Profile

/-! ## Literals in statements -/

/-- A literal ends exactly where the rest of the statement begins and stands for the string it has been
written for, and without its quotes it is that string again. -/
theorem readLiteral_quoteLiteral (e : Engine) (s : Text) {rest : Text} (hrest : rest.head? ≠ some '\'') :
    e.readLiteral (e.dialect.profile.quoteLiteral s ++ rest) = some (s, rest) ∧
      e.dialect.profile.unquoteLiteral (e.dialect.profile.quoteLiteral s) = s := by
  constructor
  · unfold Profile.quoteLiteral
    rw [e.literalMark_profile, List.append_assoc, List.append_assoc, List.singleton_append,
      List.singleton_append, Engine.readLiteral, if_pos rfl]
    exact e.readQuoted_escapeString s hrest
  · exact Profile.unquoteLiteral_quoteLiteral e.literalMark_profile (e.unescapeString_escapeString s)

/-- Runs of marks and escape characters, in an engine that knows both. -/
theorem readLiteral_quoteLiteral_mysql :
    (" OR 1" : Text).head? ≠ some '\'' ∧
      Engine.mysql.readLiteral (Engine.mysql.dialect.profile.quoteLiteral "\\''\\\\' --" ++ " OR 1") =
        some ("\\''\\\\' --".toList, " OR 1".toList) ∧
      Engine.mysql.dialect.profile.unquoteLiteral
        (Engine.mysql.dialect.profile.quoteLiteral "\\''\\\\' --") = "\\''\\\\' --".toList :=
  ⟨by decide, readLiteral_quoteLiteral .mysql _ (by decide)⟩

/-! ## Pairs of quotes -/

/-- Any text between the quotes of a pair is taken for a literal, and what has been escaped there is read back,
exactly if the pair is the default one of the dialect. -/
theorem isLiteral_iff_and_unquoteLiteral_iff (e : Engine) {q : Delimiters}
    (hq : q ∈ e.dialect.profile.stringQuotes) :
    (∀ inside, e.dialect.profile.isLiteral (q.opening ++ inside ++ q.closing) = true ↔
        e.dialect.profile.stringQuotes.head? = some q) ∧
      ∀ s, e.dialect.profile.unquoteLiteral (q.opening ++ e.dialect.profile.escapeString s ++ q.closing) = s ↔
        e.dialect.profile.stringQuotes.head? = some q := by
  obtain ⟨mark, rfl, hdefault⟩ := e.exists_mark_of_mem_stringQuotes hq
  rw [hdefault]
  constructor
  · intro inside
    exact Profile.isLiteral_between_iff e.literalMark_profile mark inside
  · intro s
    rw [Profile.unquoteLiteral_between e.literalMark_profile]
    split
    · rename_i hmark
      exact iff_of_true (e.unescapeString_escapeString s) hmark
    · rename_i hmark
      refine iff_of_false (fun h => ?_) hmark
      -- with the quotes left on, the text is longer than the string
      have hlength := congrArg List.length h
      have hlong := e.length_le_length_escapeString s
      simp only [List.length_append, List.length_singleton] at hlength
      omega

/-- Between apostrophes, quotes of both pairs and a backslash. -/
theorem isLiteral_iff_and_unquoteLiteral_iff_apostrophes :
    (⟨"'", "'"⟩ : Delimiters) ∈ Engine.mysql.dialect.profile.stringQuotes ∧
      Engine.mysql.dialect.profile.isLiteral ("'" ++ "'\"'".toList ++ "'") = true ∧
      Engine.mysql.dialect.profile.unquoteLiteral
        ("'" ++ Engine.mysql.dialect.profile.escapeString "'\\\"" ++ "'") = "'\\\"".toList := by
  have hpair : (⟨"'", "'"⟩ : Delimiters) ∈ Engine.mysql.dialect.profile.stringQuotes := by decide
  have hdefault : Engine.mysql.dialect.profile.stringQuotes.head? = some ⟨"'", "'"⟩ := rfl
  obtain ⟨hliteral, hread⟩ := isLiteral_iff_and_unquoteLiteral_iff .mysql hpair
  exact ⟨hpair, (hliteral "'\"'").2 hdefault, (hread "'\\\"").2 hdefault⟩

/-- The other pair of the table is not recognized: the text keeps its quotes. -/
theorem not_isLiteral_quotationMarks :
    (⟨"\"", "\""⟩ : Delimiters) ∈ Engine.mysql.dialect.profile.stringQuotes ∧
      Engine.mysql.dialect.profile.isLiteral ("\"" ++ "abc".toList ++ "\"") = false ∧
      Engine.mysql.dialect.profile.unquoteLiteral
        ("\"" ++ Engine.mysql.dialect.profile.escapeString "abc" ++ "\"") ≠ "abc".toList := by
  decide

end SqlDialects
