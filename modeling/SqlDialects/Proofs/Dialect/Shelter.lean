/-
Quoted names and string literals among comments. A statement stays as it is when the comments are taken out exactly
if there is no comment in it and no blank at its ends (`Profile.stripComments_eq_self_iff`): neither for the pass over
block comments that one engine makes first, nor for the lexer.

So what a dialect has quoted stays as it is, whatever marks of comments are in it, as long as the lexer takes it for
one piece. It does not where a backslash stands in front of a mark, where a mark is not doubled, or where a bracket
stands in a name between brackets; then comments are found in the rest (`Engine.Exposes`). And the pass over block
comments knows string literals, but no quoted names. Quoted texts are left alone otherwise
(`stripComments_quote_and_quoteLiteral`).
-/
import SqlDialects.Proofs.Dialect.Comment
import SqlDialects.Proofs.Dialect.Identifier
import SqlDialects.Proofs.Profile.Literal
import SqlDialects.Proofs.Statement.Comment.Uncommented
import SqlDialects.Proofs.Statement.Quoted

namespace SqlDialects

open Cursor

/-! ## Statements without comments -/

namespace Profile

variable {p : Profile} {s : Text}

/-- There is no comment in the text: none opens where block comments are taken out before the lexer reads it, and none
of its lexemes is one. -/
structure Uncommented (p : Profile) (s : Text) : Prop where
  erased : ∀ m ∈ p.extraBlockComments, m.Uncommented .outside s
  lexed : ∀ l ∈ lexemes s, l.kind ≠ .comment

theorem uncommented_of_length_eraseExtraComments (hlines : p.extraLineComments = [])
    (h : s.length ≤ (p.eraseExtraComments s).length) : ∀ m ∈ p.extraBlockComments, m.Uncommented .outside s := by
  intro m hm
  rw [eraseExtraComments_of_nil hlines, Option.mem_def.1 hm] at h
  exact BlockComments.uncommented_of_length_le (by simp) h

theorem eraseExtraComments_eq_self (hlines : p.extraLineComments = [])
    (h : ∀ m ∈ p.extraBlockComments, m.Uncommented .outside s) : p.eraseExtraComments s = s := by
  rw [eraseExtraComments_of_nil hlines]
  cases hm : p.extraBlockComments with
  | none => rfl
  | some m => exact BlockComments.erase_eq_self_iff.2 (h m hm)

/-- Every comment that is taken out leaves less than there was, so a statement stays as it is only if there is none. -/
theorem stripComments_eq_self_iff (hlines : p.extraLineComments = []) :
    p.stripComments s = s ↔ p.Uncommented s ∧ s.trim = s := by
  constructor
  · intro h
    have hleft : s.length ≤ ((lexemes (p.eraseExtraComments s)).flatMap Lexeme.withoutComment).length :=
      calc s.length = (p.stripComments s).length := by rw [h]
        _ ≤ _ := Text.length_trim_le _
    have hcut : ((lexemes (p.eraseExtraComments s)).flatMap Lexeme.withoutComment).length ≤
        (p.eraseExtraComments s).length := length_flatMap_withoutComment_le (start (p.eraseExtraComments s))
    have herased := uncommented_of_length_eraseExtraComments hlines (hleft.trans hcut)
    have hsame := eraseExtraComments_eq_self hlines herased
    rw [hsame] at hleft
    have hlexed : ∀ l ∈ lexemes s, l.kind ≠ .comment := kind_ne_comment_of_length_le hleft
    refine ⟨⟨herased, hlexed⟩, ?_⟩
    rw [stripComments, hsame, flatMap_withoutComment_eq hlexed, flatMap_text_lexemes] at h
    exact h
  · rintro ⟨⟨herased, hlexed⟩, htrim⟩
    rw [stripComments, eraseExtraComments_eq_self hlines herased, flatMap_withoutComment_eq hlexed,
      flatMap_text_lexemes, htrim]

end Profile

/-! ## Behind a word -/

namespace Rule

theorem reach_before_word_select : ∀ r ∈ before word, ∀ i ∈ (Outline.ofWord "SELECT").reach r.pattern 0,
    i = 6 ∧ (r.kind = .keyword ∨ r.kind = .name) := by
  decide

theorem reach_openers_select : (Outline.ofWord "SELECT").reach dollarOpener 0 = [] ∧
    (Outline.ofWord "SELECT").reach blockOpener 0 = [] := by
  decide

end Rule

/-- The word and the blank behind it are lexemes by themselves. -/
theorem Cursor.lexemes_select (s : Text) :
    ∃ k, k ≠ .comment ∧
      (start ("SELECT " ++ s)).lexemes = ⟨k, "SELECT"⟩ :: ⟨.blank, " "⟩ :: (start s).lexemes := by
  have hstops : ∀ a ∈ (' ' :: s).head?, Character.isBlank a = true := by simp [Character.isBlank]
  have hfits : (Outline.ofWord "SELECT").Fits (start ("SELECT" ++ ' ' :: s)) := Outline.fits_ofWord rfl rfl hstops
  have hbefore : ∀ r ∈ Rule.word.before, ∀ d, r.pattern.Leads (start ("SELECT" ++ ' ' :: s)) d →
      d = (start ("SELECT" ++ ' ' :: s)).skip 6 ∧ (r.kind = .keyword ∨ r.kind = .name) := by
    intro r hr d hd
    have hreach := Rule.reach_before_word_select r hr
    have hwithin : ∀ i ∈ (Outline.ofWord "SELECT").reach r.pattern 0, i < (Outline.ofWord "SELECT").size := by
      intro i hi
      rw [(hreach i hi).1]
      decide
    obtain ⟨i, hi, rfl⟩ := Outline.exists_mem_reach hfits hwithin hd
    rw [(hreach i hi).1]
    exact ⟨rfl, (hreach i hi).2⟩
  obtain ⟨k, hword, hk⟩ := next?_word (by decide) (List.all_eq_true.1 (by decide)) hstops
    (Outline.span?_eq_none hfits Rule.reach_openers_select) hbefore
  have hpass : (start ("SELECT" ++ ' ' :: s)).Passes "SELECT" (mk (some 'T') (' ' :: s)) := ⟨rfl, rfl⟩
  obtain ⟨u, d, hblank, hpass', rfl | rfl⟩ := next?_blank (x := some 'T') (a := ' ') (s := s) rfl
  · refine ⟨k, ?_, ?_⟩
    · rcases hk with rfl | rfl
      · decide
      · decide
    · have hd : d.Detached := by
        rw [Detached, hpass'.before_eq (u := [])]
        rfl
      show (start ("SELECT" ++ ' ' :: s)).lexemes = _
      rw [lexemes_eq_cons hword, ← hpass.2, hpass.upTo_eq, lexemes_eq_cons hblank, hpass'.upTo_eq,
        lexemes_eq_of_detached (d := start s) (hpass'.ahead_eq rfl) hd rfl]
      rfl
  · cases hpass'.1

theorem Text.trim_eq_self {a b : Char} (ha : Character.isBlank a = false) (hb : Character.isBlank b = false)
    (s : Text) : Text.trim (a :: (s ++ [b])) = a :: (s ++ [b]) := by
  rw [trim, List.dropWhile_cons_of_neg (by simp [ha])]
  show List.rdropWhile Character.isBlank (a :: s ++ [b]) = _
  rw [List.rdropWhile_concat_neg _ _ _ (by simp [hb])]
  rfl

namespace Profile

variable {p : Profile}

/-- The word and the blank behind it have nothing to do with comments. -/
theorem uncommented_select_iff (hp : p.MarksArePunctuation) (s : Text) :
    p.Uncommented ("SELECT " ++ s) ↔ p.Uncommented s := by
  have hchars : ("SELECT " : Text).all (fun a => Character.isWordChar a || Character.isBlank a) = true := by decide
  have hword : ∀ a ∈ ("SELECT " : Text), Character.isWordChar a = true ∨ Character.isBlank a = true :=
    fun a ha => Bool.or_eq_true_iff.1 (List.all_eq_true.1 hchars a ha)
  have herased : ∀ m ∈ p.extraBlockComments,
      (m.Uncommented .outside ("SELECT " ++ s) ↔ m.Uncommented .outside s) := by
    intro m hm
    rw [← BlockComments.erase_eq_self_iff, ← BlockComments.erase_eq_self_iff, hp.erase_append hm hword,
      List.append_cancel_left_eq]
  have hlexed : (∀ l ∈ lexemes ("SELECT " ++ s), l.kind ≠ .comment) ↔ ∀ l ∈ lexemes s, l.kind ≠ .comment := by
    obtain ⟨k, hk, hlexemes⟩ := lexemes_select s
    rw [SqlDialects.lexemes, hlexemes, List.forall_mem_cons, List.forall_mem_cons]
    exact ⟨fun h => h.2.2, fun h => ⟨hk, by decide, h⟩⟩
  constructor
  · exact fun h => ⟨fun m hm => (herased m hm).1 (h.erased m hm), hlexed.1 h.lexed⟩
  · exact fun h => ⟨fun m hm => (herased m hm).2 (h.erased m hm), hlexed.2 h.lexed⟩

/-- A statement of the word and one more piece is left alone exactly if there is no comment in the piece. -/
theorem stripComments_select_iff (hp : p.MarksArePunctuation) {a b : Char} (hb : Character.isBlank b = false)
    (s : Text) :
    p.stripComments ("SELECT " ++ a :: (s ++ [b])) = "SELECT " ++ a :: (s ++ [b]) ↔
      p.Uncommented (a :: (s ++ [b])) := by
  have htrim : Text.trim ("SELECT " ++ a :: (s ++ [b])) = "SELECT " ++ a :: (s ++ [b]) :=
    Text.trim_eq_self (a := 'S') (b := b) rfl hb ("ELECT " ++ a :: s)
  rw [stripComments_eq_self_iff hp.1, and_iff_left htrim, uncommented_select_iff hp]

end Profile

/-! ## Engines -/

namespace Engine

/-- The characters that the engine doubles in a name that it quotes. -/
def doubledInNames : Engine → List Char
  | mysql => []
  | e => [e.quotationMarks.2]

/-- The characters that the engine doubles in a string literal. -/
def doubledInLiterals : Engine → List Char
  | mysql => ['\'', '\\']
  | _ => ['\'']

/-- The name between the marks of the engine. -/
def quoted (e : Engine) (name : Text) : Text :=
  e.quotationMarks.1 :: (name.doubleEach e.doubledInNames ++ [e.quotationMarks.2])

/-- The part of a name that the lexer does not take for the name any more when the engine has quoted it: what
stands behind a backslash and a mark, behind a mark that is in no pair, or, between brackets, behind the first
bracket if that is a closing one; an opening one exposes the whole name. -/
def Exposes (e : Engine) (name exposed : Text) : Prop :=
  match e with
  | generic | postgres | sqlite | oracle => ∃ u : Text, name = u ++ '\\' :: '"' :: exposed
  | mysql => ∃ u : Text, name = u ++ '`' :: exposed ∧ Text.InPairs '`' u ∧ exposed.head? ≠ some '`'
  | mssql => ∃ u : Text, (∀ a ∈ u, a ∉ [']', '[']) ∧
      (name = u ++ ']' :: exposed ∨ exposed = name ∧ ∃ v, name = u ++ '[' :: v)

/-- No comment begins in an exposed part of the name, and where block comments are taken out before the lexer reads
the statement, none opens in the quoted name. -/
structure Shelters (e : Engine) (name : Text) : Prop where
  exposed : ∀ exposed, e.Exposes name exposed → exposed.FreeOf commentMarks
  erased : ∀ m ∈ e.dialect.profile.extraBlockComments, m.Uncommented .outside (e.quoted name)

/-- No comment begins behind a backslash and an apostrophe. -/
def SheltersLiteral (s : Text) : Prop :=
  ∀ u v : Text, s = u ++ '\\' :: '\'' :: v → v.FreeOf commentMarks

variable (e : Engine) {name : Text}

theorem quote_force (hn : name ≠ []) (hquoted : e.dialect.profile.isQuoted name = false) (caseSensitive : Bool) :
    e.dialect.quote name caseSensitive true = e.quoted name := by
  rw [Dialect.quote_eq_ite e.head?_identifierQuotes hn hquoted, Bool.true_or, if_pos rfl, Profile.enquote]
  by_cases he : e = mysql
  · subst he
    rw [quoted, doubledInNames, Text.doubleEach_nil]
    rfl
  · rw [e.escapeIdentifier_profile he, Text.double_eq_doubleEach]
    cases e with
    | mysql => exact absurd rfl he
    | generic | postgres | sqlite | oracle | mssql => rfl

theorem quoteLiteral_eq (s : Text) :
    e.dialect.profile.quoteLiteral s = '\'' :: (s.doubleEach e.doubledInLiterals ++ ['\'']) := by
  have hescape : e.dialect.profile.escapeString s = s.doubleEach e.doubledInLiterals := by
    cases e with
    | mysql => exact Text.double_double_eq_doubleEach (by decide) s
    | generic | postgres | sqlite | oracle | mssql => exact Text.double_eq_doubleEach '\'' s
  rw [Profile.quoteLiteral, e.literalMark_profile, hescape]
  rfl

/-! ### The pass over block comments -/

variable {e} in
/-- One engine alone takes block comments out before the lexer reads the statement. -/
theorem eq_of_mem_extraBlockComments {m : BlockComments} (hm : m ∈ e.dialect.profile.extraBlockComments) :
    e = postgres ∧ m = postgres.blockComments := by
  rw [extraBlockComments_dialect] at hm
  split at hm
  · rename_i he
    cases hm
    exact ⟨he, rfl⟩
  · cases hm

/-- The pass finds a comment in no string literal. -/
theorem uncommented_quoteLiteral (s : Text) :
    ∀ m ∈ e.dialect.profile.extraBlockComments, m.Uncommented .outside (e.dialect.profile.quoteLiteral s) := by
  intro m hm
  obtain ⟨rfl, rfl⟩ := eq_of_mem_extraBlockComments hm
  have hquoted : postgres.dialect.profile.quoteLiteral s = '\'' :: (s.double '\'' ++ ['\'']) := by
    rw [quoteLiteral_eq, Text.double_eq_doubleEach]
    rfl
  rw [hquoted, ← BlockComments.erase_eq_self_iff, BlockComments.erase, BlockComments.eraseFrom, if_pos rfl,
    BlockComments.eraseFrom_double, BlockComments.eraseFrom]

/-! ### The lexer -/

theorem flatMap_withoutComment_quoted (hn : name ≠ []) (h : e.Shelters name) :
    (start (e.quoted name)).lexemes.flatMap Lexeme.withoutComment = e.quoted name := by
  have hexposed := h.exposed
  cases e with
  | generic | postgres | sqlite | oracle =>
    exact flatMap_withoutComment_escaped (by decide) (by decide) (by decide)
      (List.forall_mem_singleton.2 (by decide)) fun u v hsplit => hexposed v ⟨u, hsplit⟩
  | mysql =>
    have hname : name.doubleEach mysql.doubledInNames = name := Text.doubleEach_nil name
    rw [quoted, hname]
    exact flatMap_withoutComment_backticks fun u v hsplit hu hv => hexposed v ⟨u, hsplit, hu, hv⟩
  | mssql =>
    exact flatMap_withoutComment_brackets hn (fun u v hsplit hu => hexposed v ⟨u, hu, .inl hsplit⟩)
      fun u v hsplit hu => hexposed name ⟨u, hu, .inr ⟨rfl, v, hsplit⟩⟩

theorem flatMap_withoutComment_literal {s : Text} (h : SheltersLiteral s) :
    (start (e.dialect.profile.quoteLiteral s)).lexemes.flatMap Lexeme.withoutComment =
      e.dialect.profile.quoteLiteral s := by
  have hmarks : ∀ a ∈ e.doubledInLiterals, ∀ mark ∈ commentMarks, a ∉ mark := by
    cases e with
    | mysql => exact List.forall_mem_cons.2 ⟨by decide, List.forall_mem_singleton.2 (by decide)⟩
    | generic | postgres | sqlite | oracle | mssql => exact List.forall_mem_singleton.2 (by decide)
  rw [quoteLiteral_eq]
  refine flatMap_withoutComment_escaped (by decide) (by decide) ?_ hmarks h
  cases e with
  | mysql | generic | postgres | sqlite | oracle | mssql => exact List.mem_cons_self

/-! ### Names and strings that shelter comments -/

theorem Shelters.uncommented_quoted (h : e.Shelters name) (hn : name ≠ []) :
    e.dialect.profile.Uncommented (e.quoted name) := by
  refine ⟨h.erased, kind_ne_comment_of_length_le (c := start (e.quoted name)) ?_⟩
  rw [e.flatMap_withoutComment_quoted hn h]
  exact le_rfl

theorem SheltersLiteral.uncommented_quoteLiteral {s : Text} (h : SheltersLiteral s) :
    e.dialect.profile.Uncommented (e.dialect.profile.quoteLiteral s) := by
  refine ⟨e.uncommented_quoteLiteral s, kind_ne_comment_of_length_le (c := start (e.dialect.profile.quoteLiteral s)) ?_⟩
  rw [e.flatMap_withoutComment_literal h]
  exact le_rfl

/-- The characters without which nothing of a name is exposed. -/
def exposing : Engine → List Char
  | mysql => ['`']
  | mssql => ['[', ']']
  | generic | postgres | sqlite | oracle => ['\\']

variable {e}

theorem not_exposes {exposed : Text} (h : ∀ a ∈ e.exposing, a ∉ name) : ¬ e.Exposes name exposed := by
  cases e with
  | generic | postgres | sqlite | oracle =>
    rintro ⟨u, rfl⟩
    exact h '\\' (List.mem_singleton.2 rfl) (by simp)
  | mysql =>
    rintro ⟨u, rfl, -⟩
    exact h '`' (List.mem_singleton.2 rfl) (by simp)
  | mssql =>
    rintro ⟨u, -, rfl | ⟨-, v, rfl⟩⟩
    · exact h ']' (List.mem_pair.2 (.inr rfl)) (by simp)
    · exact h '[' (List.mem_pair.2 (.inl rfl)) (by simp)

/-- A name shelters the comments in it if it has none of those characters, and for the one engine no mark with which
block comments open. -/
theorem shelters_of_notMem (h : ∀ a ∈ e.exposing, a ∉ name) (hopening : e = postgres → name.FreeOf ["/*"]) :
    e.Shelters name := by
  refine ⟨fun exposed hexposed => absurd hexposed (not_exposes h), fun m hm => ?_⟩
  obtain ⟨rfl, rfl⟩ := eq_of_mem_extraBlockComments hm
  have hmarks : ∀ q ∈ ['"', '"'], ∀ mark ∈ (["/*"] : List Text), q ∉ mark :=
    List.forall_mem_cons.2 ⟨by decide, List.forall_mem_singleton.2 (by decide)⟩
  have hfree : Text.FreeOf ["/*"] ('"' :: (name.doubleEach ['"'] ++ ['"'])) :=
    ((hopening rfl).doubleEach_append (by decide) hmarks).cons (by decide) (by decide)
  exact BlockComments.erase_eq_self_iff.1 (BlockComments.eraseFrom_eq_self (by simp) (hfree _ List.mem_cons_self))

theorem sheltersLiteral_of_notMem {s : Text} (h : '\\' ∉ s) : SheltersLiteral s := by
  rintro u v rfl
  exact absurd (by simp) h

end Engine

/-- What a dialect has quoted stays as it is when the comments are taken out of a statement exactly if there is no
comment in it, neither for the pass over block comments nor for the lexer. A name that shelters the comments in it,
quoted by force, stays as it is, and so does a string literal that does. -/
theorem stripComments_quote_and_quoteLiteral (e : Engine) :
    (∀ name : Text, name ≠ [] → e.dialect.profile.isQuoted name = false → ∀ caseSensitive,
        (e.dialect.reader.stripComments ("SELECT " ++ e.dialect.quote name caseSensitive true) =
            "SELECT " ++ e.dialect.quote name caseSensitive true ↔
          e.dialect.profile.Uncommented (e.dialect.quote name caseSensitive true)) ∧
        (e.Shelters name →
          e.dialect.reader.stripComments ("SELECT " ++ e.dialect.quote name caseSensitive true) =
            "SELECT " ++ e.dialect.quote name caseSensitive true)) ∧
      ∀ s : Text,
        (e.dialect.reader.stripComments ("SELECT " ++ e.dialect.profile.quoteLiteral s) =
            "SELECT " ++ e.dialect.profile.quoteLiteral s ↔
          e.dialect.profile.Uncommented (e.dialect.profile.quoteLiteral s)) ∧
        (Engine.SheltersLiteral s →
          e.dialect.reader.stripComments ("SELECT " ++ e.dialect.profile.quoteLiteral s) =
            "SELECT " ++ e.dialect.profile.quoteLiteral s) := by
  rw [e.reader_dialect]
  constructor
  · intro name hn hquoted caseSensitive
    have hmark : Character.isBlank e.quotationMarks.2 = false := by cases e <;> rfl
    have hexact := Profile.stripComments_select_iff e.marksArePunctuation (a := e.quotationMarks.1) hmark
      (name.doubleEach e.doubledInNames)
    rw [e.quote_force hn hquoted]
    exact ⟨hexact, fun h => hexact.2 (h.uncommented_quoted e hn)⟩
  · intro s
    have hexact := Profile.stripComments_select_iff e.marksArePunctuation (a := '\'') (b := '\'') rfl
      (s.doubleEach e.doubledInLiterals)
    rw [← e.quoteLiteral_eq] at hexact
    exact ⟨hexact, fun h => hexact.2 (h.uncommented_quoteLiteral e)⟩

/-- Marks of comments, and the marks around the text, in a name and in a string. The pass over block comments finds
none behind a mark of line comments. -/
theorem stripComments_quote_and_quoteLiteral_postgres :
    ("--/*a\"# b" : Text) ≠ [] ∧ Engine.postgres.dialect.profile.isQuoted "--/*a\"# b" = false ∧
      Engine.postgres.Shelters "--/*a\"# b" ∧ Engine.SheltersLiteral "/*'--" ∧
      Engine.postgres.dialect.reader.stripComments
          ("SELECT " ++ Engine.postgres.dialect.quote "--/*a\"# b" false true) =
        "SELECT " ++ Engine.postgres.dialect.quote "--/*a\"# b" false true ∧
      Engine.postgres.dialect.profile.Uncommented (Engine.postgres.dialect.quote "--/*a\"# b" false true) ∧
      Engine.postgres.dialect.reader.stripComments
          ("SELECT " ++ Engine.postgres.dialect.profile.quoteLiteral "/*'--") =
        "SELECT " ++ Engine.postgres.dialect.profile.quoteLiteral "/*'--" := by
  have hn : ("--/*a\"# b" : Text) ≠ [] := by decide
  have hquoted : Engine.postgres.dialect.profile.isQuoted "--/*a\"# b" = false := by decide
  have hname : Engine.postgres.Shelters "--/*a\"# b" := by
    refine ⟨fun exposed h => absurd h (Engine.not_exposes (List.forall_mem_singleton.2 (by decide))), fun m hm => ?_⟩
    obtain ⟨-, rfl⟩ := Engine.eq_of_mem_extraBlockComments hm
    exact BlockComments.erase_eq_self_iff.1 (by decide +kernel)
  have hliteral : Engine.SheltersLiteral "/*'--" := Engine.sheltersLiteral_of_notMem (by decide)
  obtain ⟨hnames, hliterals⟩ := stripComments_quote_and_quoteLiteral .postgres
  obtain ⟨hexact, hkeeps⟩ := hnames _ hn hquoted false
  obtain ⟨-, hkeepsLiteral⟩ := hliterals "/*'--"
  exact ⟨hn, hquoted, hname, hliteral, hkeeps hname, hexact.1 (hkeeps hname), hkeepsLiteral hliteral⟩

/-- Names and strings of which something is taken out: by the pass over block comments, and behind a mark that the
lexer takes for the closing one. -/
theorem stripComments_quote_ne :
    Engine.postgres.dialect.profile.isQuoted "a/*b*/c" = false ∧
      Engine.postgres.dialect.reader.stripComments
          ("SELECT " ++ Engine.postgres.dialect.quote "a/*b*/c" false true) = "SELECT \"a c\"" ∧
      Engine.generic.dialect.reader.stripComments
          ("SELECT " ++ Engine.generic.dialect.quote "\\\"--" false true) = "SELECT \"\\\"\"" ∧
      Engine.mysql.dialect.reader.stripComments
          ("SELECT " ++ Engine.mysql.dialect.quote "a`--" false true) = "SELECT `a`" ∧
      Engine.mssql.dialect.reader.stripComments
          ("SELECT " ++ Engine.mssql.dialect.quote "a]--" false true) = "SELECT [a]]" ∧
      Engine.generic.dialect.reader.stripComments
          ("SELECT " ++ Engine.generic.dialect.profile.quoteLiteral "\\'--") = "SELECT '\\''" ∧
      Engine.mysql.dialect.reader.stripComments
          ("SELECT " ++ Engine.mysql.dialect.profile.quoteLiteral "\\'--") = "SELECT '\\\\''" := by
  decide +kernel

end SqlDialects
