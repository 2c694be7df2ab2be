/-
Quoted names as one token. What a dialect makes of a name that is not quoted yet is exactly one
identifier token: the name itself, made of the characters of names and no reserved word, or a text
between the marks of the default pair in which a reader stops at the last character only. The engines
that double their closing mark keep this for every name; the one that does not keeps it exactly for the
names in which the mark occurs in pairs (`isToken_quote_iff`).
-/
import SqlDialects.Dialect.BuiltIn
import SqlDialects.Dialect.Identifier
import SqlDialects.Proofs.Text.Quotation

namespace SqlDialects

/-! ## Tokens -/

/-- A text that is exactly one identifier token of the dialect, written for the name. -/
inductive Dialect.IsToken (d : Dialect) (name : Text) : Text → Prop
  /-- The bare name: characters of names, and no word that is reserved for something else. -/
  | bare (c : Char) (rest : Text) :
      name = c :: rest → d.profile.validStart c = true → (∀ x ∈ rest, d.profile.validPart x = true) →
      (∀ kind ∈ d.words.classify name, kind = .function) → IsToken d name name
  /-- A body between the marks of the default pair, in which the closing mark is always doubled, so that
  a reader stops at the last character and not before. -/
  | quoted (q : Delimiters) (mark : Char) (body : Text) :
      d.profile.identifierQuotes.head? = some q → q.closing = [mark] → Text.InPairs mark body →
      (∃ inside, Text.readQuoted mark none (body ++ q.closing) = some (inside, [])) →
      IsToken d name (q.opening ++ body ++ q.closing)

/-! ## Deciding and quoting -/

namespace Dialect

variable {d : Dialect} {q : Delimiters} {name : Text}

/-- Whatever is asked for, a name stays as it is or is put between the default marks. -/
theorem quote_cases (d : Dialect) (name : Text) (caseSensitive force : Bool) :
    d.quote name caseSensitive force = name ∨
      ∃ q, d.profile.identifierQuotes.head? = some q ∧
        d.quote name caseSensitive force = d.profile.enquote q name := by
  unfold quote
  split
  · exact .inl rfl
  · cases d.profile.identifierQuotes with
    | nil => exact .inl rfl
    | cons q others =>
      by_cases hmust : (force || d.mustBeQuoted name caseSensitive) = true
      · exact .inr ⟨q, rfl, if_pos hmust⟩
      · exact .inl (if_neg hmust)

/-- A name that is not quoted yet is quoted if it has to be, or if that is asked for. -/
theorem quote_eq_ite (hq : d.profile.identifierQuotes.head? = some q) (hn : name ≠ [])
    (hquoted : d.profile.isQuoted name = false) (caseSensitive force : Bool) :
    d.quote name caseSensitive force =
      if force || d.mustBeQuoted name caseSensitive then d.profile.enquote q name else name := by
  obtain ⟨others, hpairs⟩ := List.head?_eq_some_iff.1 hq
  have hkeep : (name.isEmpty || d.profile.isQuoted name) = false := by simp [hn, hquoted]
  rw [quote, hkeep, hpairs]
  rfl

/-- A name that is not quoted yet stays as it is, or is put between the default marks. -/
theorem quote_eq_or (hq : d.profile.identifierQuotes.head? = some q) (hn : name ≠ [])
    (hquoted : d.profile.isQuoted name = false) (caseSensitive force : Bool) :
    d.quote name caseSensitive force = d.profile.enquote q name ∨
      d.quote name caseSensitive force = name ∧ d.mustBeQuoted name caseSensitive = false := by
  rw [quote_eq_ite hq hn hquoted]
  split
  · exact .inl rfl
  · rename_i hbare
    rw [Bool.not_eq_true, Bool.or_eq_false_iff] at hbare
    exact .inr ⟨rfl, hbare.2⟩

/-- What a name that need not be quoted is like. -/
theorem of_mustBeQuoted_eq_false {c : Char} {rest : Text} {caseSensitive : Bool}
    (hwords : d.profile.quoteReservedWords = true)
    (h : d.mustBeQuoted (c :: rest) caseSensitive = false) :
    d.profile.validStart c = true ∧ (∀ x ∈ rest, d.profile.validPart x = true) ∧
      ∀ kind ∈ d.words.classify (c :: rest), kind = .function := by
  unfold mustBeQuoted at h
  simp only [hwords, Bool.true_and, Bool.or_eq_false_iff, Bool.not_eq_false', List.any_eq_false,
    Bool.not_eq_true', Bool.not_eq_false] at h
  obtain ⟨⟨⟨hreserved, hstart⟩, -⟩, hrest⟩ := h
  refine ⟨hstart, hrest, fun kind hkind => ?_⟩
  rw [isReserved, Option.mem_def.1 hkind] at hreserved
  cases kind with
  | function => rfl
  | keyword | dataType | other => cases hreserved

theorem isToken_of_mustBeQuoted_eq_false {caseSensitive : Bool} (hn : name ≠ [])
    (hwords : d.profile.quoteReservedWords = true) (h : d.mustBeQuoted name caseSensitive = false) :
    d.IsToken name name := by
  obtain ⟨c, rest, rfl⟩ := List.exists_cons_of_ne_nil hn
  obtain ⟨hstart, hrest, hclass⟩ := of_mustBeQuoted_eq_false hwords h
  exact .bare c rest rfl hstart hrest hclass

/-- Between the default marks, what has been written is one token if and only if the closing mark occurs
in pairs. -/
theorem isToken_quoted_iff {mark : Char} {body : Text} (hq : d.profile.identifierQuotes.head? = some q)
    (hclosing : q.closing = [mark]) (hlong : name.length ≤ body.length) :
    d.IsToken name (q.opening ++ body ++ q.closing) ↔ Text.InPairs mark body := by
  constructor
  · intro h
    generalize ht : q.opening ++ body ++ q.closing = t at h
    cases h with
    | bare =>
      -- the closing mark makes the text longer than the name
      have hlength := congrArg List.length ht
      simp only [List.length_append, hclosing, List.length_singleton] at hlength
      omega
    | quoted q' mark' body' hq' hclosing' hpairs hread =>
      have hqq : q' = q := Option.some.inj (hq'.symm.trans hq)
      subst hqq
      have hmark : mark = mark' := by simpa [hclosing] using hclosing'
      have hbody : body = body' := List.append_cancel_left (List.append_cancel_right ht)
      rw [hmark, hbody]
      exact hpairs
  · intro h
    exact .quoted q mark body hq hclosing h (hclosing ▸ h.exists_readQuoted)

end Dialect

/-! ## The built-in engines -/

namespace Engine

/-- The marks between which the engine puts a name. -/
def quotationMarks : Engine → Char × Char
  | mysql => ('`', '`')
  | mssql => ('[', ']')
  | generic | postgres | sqlite | oracle => ('"', '"')

theorem head?_identifierQuotes (e : Engine) :
    e.dialect.profile.identifierQuotes.head? = some ⟨[e.quotationMarks.1], [e.quotationMarks.2]⟩ := by
  cases e <;> rfl

theorem quoteReservedWords_profile (e : Engine) : e.dialect.profile.quoteReservedWords = true := by
  cases e <;> rfl

/-- The closing mark is doubled inside, but for one engine. -/
theorem escapeIdentifier_profile {e : Engine} (he : e ≠ mysql) (name : Text) :
    e.dialect.profile.escapeIdentifier ⟨[e.quotationMarks.1], [e.quotationMarks.2]⟩ name =
      name.double e.quotationMarks.2 := by
  cases e with
  | mysql => exact absurd rfl he
  | generic | postgres | sqlite | oracle | mssql => rfl

theorem isToken_enquote {e : Engine} (he : e ≠ mysql) (name : Text) :
    e.dialect.IsToken name
      (e.dialect.profile.enquote ⟨[e.quotationMarks.1], [e.quotationMarks.2]⟩ name) := by
  have hpairs := Text.inPairs_double e.quotationMarks.2 name
  unfold Profile.enquote
  rw [escapeIdentifier_profile he]
  exact .quoted _ e.quotationMarks.2 _ e.head?_identifierQuotes rfl hpairs hpairs.exists_readQuoted

/-- Where nothing is doubled, the name itself has to have its marks in pairs. -/
theorem isToken_enquote_mysql_iff (name : Text) :
    mysql.dialect.IsToken name (mysql.dialect.profile.enquote ⟨['`'], ['`']⟩ name) ↔
      Text.InPairs '`' name :=
  Dialect.isToken_quoted_iff mysql.head?_identifierQuotes rfl (Nat.le_refl _)

/-- No name that may stay bare has a quotation mark in it. -/
theorem notMem_of_mustBeQuoted_eq_false {name : Text} {caseSensitive : Bool} (hn : name ≠ [])
    (h : mysql.dialect.mustBeQuoted name caseSensitive = false) : '`' ∉ name := by
  obtain ⟨c, rest, rfl⟩ := List.exists_cons_of_ne_nil hn
  obtain ⟨hstart, hrest, -⟩ := Dialect.of_mustBeQuoted_eq_false rfl h
  rw [List.mem_cons, not_or]
  constructor
  · rintro rfl
    exact absurd hstart (by decide)
  · intro hmem
    exact absurd (hrest _ hmem) (by decide)

end Engine

/-- What a dialect makes of a name that is not quoted yet is one identifier token, but for one engine: it
does not double the mark, so there the name must have its marks in pairs. -/
theorem isToken_quote_iff (e : Engine) {name : Text} (hn : name ≠ [])
    (hquoted : e.dialect.profile.isQuoted name = false) (caseSensitive force : Bool) :
    e.dialect.IsToken name (e.dialect.quote name caseSensitive force) ↔
      (e = .mysql → Text.InPairs '`' name) := by
  rcases Dialect.quote_eq_or e.head?_identifierQuotes hn hquoted caseSensitive force with
    h | ⟨h, hbare⟩
  · rw [h]
    by_cases he : e = .mysql
    · subst he
      rw [forall_prop_of_true rfl]
      exact Engine.isToken_enquote_mysql_iff name
    · exact iff_of_true (Engine.isToken_enquote he name) fun h => absurd h he
  · rw [h]
    refine iff_of_true
      (Dialect.isToken_of_mustBeQuoted_eq_false hn e.quoteReservedWords_profile hbare) ?_
    rintro rfl
    exact Text.inPairs_of_notMem (Engine.notMem_of_mustBeQuoted_eq_false hn hbare)

theorem isToken_quote_iff_of_pair :
    ("a``b" : Text) ≠ [] ∧ Engine.mysql.dialect.profile.isQuoted "a``b" = false ∧
      (Engine.mysql.dialect.IsToken "a``b" (Engine.mysql.dialect.quote "a``b" false true) ↔
        (Engine.mysql = .mysql → Text.InPairs '`' "a``b")) :=
  ⟨by decide, by decide, isToken_quote_iff .mysql (by decide) (by decide) false true⟩

/-- A single mark in a name ends the token early: what follows it is read as something else. -/
theorem not_isToken_quote_mysql :
    ("a`b" : Text) ≠ [] ∧ Engine.mysql.dialect.profile.isQuoted "a`b" = false ∧
      ¬ Engine.mysql.dialect.IsToken "a`b" (Engine.mysql.dialect.quote "a`b" false false) := by
  have hname : ("a`b" : Text) ≠ [] := by decide
  refine ⟨hname, by decide, fun h => ?_⟩
  rcases Dialect.quote_eq_or Engine.mysql.head?_identifierQuotes hname (by decide) false false with hq | ⟨-, hbare⟩
  · rw [hq] at h
    obtain ⟨r, hr⟩ := ((Engine.isToken_enquote_mysql_iff "a`b").1 h).exists_readQuoted
    have hstop : Text.readQuoted '`' none ("a`b" ++ ['`']) = some ("a".toList, "b`".toList) := by decide
    rw [hstop] at hr
    cases hr
  · exact Engine.notMem_of_mustBeQuoted_eq_false (by decide) hbare (by decide)

end SqlDialects
