/-
What an engine stores for a name that a statement has written: a quoted name without its quotes, any other
name in the case in which the engine keeps names. A name that is quoted with its case in mind is stored
exactly as it is, so two names are never stored as the same one (`storedName_quote_caseSensitive`).
-/
import SqlDialects.Proofs.Dialect.Unquoting

namespace SqlDialects

/-! ## How an engine reads a name -/

namespace Profile

/-- The name in the case in which the engine stores names that are not quoted. -/
def fold (p : Profile) (name : Text) : Text :=
  match p.unquotedCase with
  | .upper => name.upper
  | .lower => name.lower
  | .mixed => name

/-- The name that the engine stores for a name as a statement has written it. -/
def storedName (p : Profile) (written : Text) : Text :=
  if p.isQuoted written then p.unquote written else p.fold written

variable {p : Profile} {q : Delimiters} {name : Text}

theorem refolds_eq_false_iff : p.refolds name = false ↔ p.fold name = name := by
  unfold refolds fold
  cases p.unquotedCase with
  | upper | lower => exact bne_eq_false_iff_eq.trans eq_comm
  | mixed => exact iff_of_true rfl rfl

theorem EscapesByPolicy.storedName_enquote (h : p.EscapesByPolicy) (hq : p.identifierQuotes.head? = some q)
    (name : Text) : p.storedName (p.enquote q name) = name := by
  rw [storedName, if_pos (isQuoted_enquote_of_head hq name)]
  exact h.unquote_enquote (enclosingQuotes?_enquote_of_head hq name)

theorem storedName_of_isQuoted_eq_false (h : p.isQuoted name = false) : p.storedName name = p.fold name := by
  rw [storedName, h, if_neg Bool.false_ne_true]

end Profile

/-! ## Names that keep their case -/

namespace Dialect

variable {d : Dialect} {q : Delimiters} {name : Text}

/-- Where letter case counts in a look-up, or no case is preferred, a name that may stay bare is already in
the case in which it is stored. -/
theorem fold_eq_of_mustBeQuoted_eq_false (hn : name ≠ [])
    (hlookup : d.profile.caseInsensitiveLookup = true → d.profile.unquotedCase = .mixed)
    (h : d.mustBeQuoted name true = false) : d.profile.fold name = name := by
  obtain ⟨c, rest, rfl⟩ := List.exists_cons_of_ne_nil hn
  cases hcase : d.profile.caseInsensitiveLookup with
  | true => rw [Profile.fold, hlookup hcase]
  | false =>
    simp only [mustBeQuoted, hcase, Bool.not_false, Bool.true_and, Bool.or_eq_false_iff] at h
    exact Profile.refolds_eq_false_iff.1 h.1.2

/-- The two ways in which a name is written are read back to the name, each in its own way. -/
theorem storedName_quote (hpolicy : d.profile.EscapesByPolicy) (hq : d.profile.identifierQuotes.head? = some q)
    (hlookup : d.profile.caseInsensitiveLookup = true → d.profile.unquotedCase = .mixed) (hn : name ≠ [])
    (hquoted : d.profile.isQuoted name = false) (force : Bool) :
    d.profile.storedName (d.quote name true force) = name := by
  rcases quote_eq_or hq hn hquoted true force with h | ⟨h, hbare⟩
  · rw [h]
    exact hpolicy.storedName_enquote hq name
  · rw [h, Profile.storedName_of_isQuoted_eq_false hquoted]
    exact fold_eq_of_mustBeQuoted_eq_false hn hlookup hbare

/-- What has been written without quotes is the name itself, and no reserved word. -/
theorem of_isQuoted_quote_eq_false (hq : d.profile.identifierQuotes.head? = some q)
    (hwords : d.profile.quoteReservedWords = true) (hn : name ≠ []) (hquoted : d.profile.isQuoted name = false)
    {caseSensitive force : Bool} (h : d.profile.isQuoted (d.quote name caseSensitive force) = false) :
    d.quote name caseSensitive force = name ∧ ∀ kind ∈ d.words.classify name, kind = .function := by
  rcases quote_eq_or hq hn hquoted caseSensitive force with hwritten | ⟨hwritten, hbare⟩
  · rw [hwritten, Profile.isQuoted_enquote_of_head hq] at h
    cases h
  · obtain ⟨c, rest, rfl⟩ := List.exists_cons_of_ne_nil hn
    exact ⟨hwritten, (of_mustBeQuoted_eq_false hwords hbare).2.2⟩

end Dialect

/-! ## The built-in engines -/

theorem Engine.unquotedCase_of_caseInsensitiveLookup (e : Engine)
    (h : e.dialect.profile.caseInsensitiveLookup = true) : e.dialect.profile.unquotedCase = .mixed := by
  cases e with
  | sqlite | mssql | mysql => rfl
  | generic | postgres | oracle => cases h

/-- A name that is not quoted yet and is quoted with its case in mind is stored by the engine as it is; if it
stays without quotes, it is no word that is reserved for something else. So two names that differ are stored
differently. -/
theorem storedName_quote_caseSensitive (e : Engine) {name : Text} (hn : name ≠ [])
    (hquoted : e.dialect.profile.isQuoted name = false) (force : Bool) :
    e.dialect.profile.storedName (e.dialect.quote name true force) = name ∧
      (e.dialect.profile.isQuoted (e.dialect.quote name true force) = false →
        e.dialect.quote name true force = name ∧ ∀ kind ∈ e.dialect.words.classify name, kind = .function) ∧
      ∀ other ≠ [], e.dialect.profile.isQuoted other = false → other ≠ name → ∀ force',
        e.dialect.profile.storedName (e.dialect.quote other true force') ≠
          e.dialect.profile.storedName (e.dialect.quote name true force) := by
  have hstored : ∀ name ≠ [], e.dialect.profile.isQuoted name = false → ∀ force,
      e.dialect.profile.storedName (e.dialect.quote name true force) = name := fun _ hn hquoted =>
    Dialect.storedName_quote e.escapesByPolicy e.head?_identifierQuotes
      e.unquotedCase_of_caseInsensitiveLookup hn hquoted
  refine ⟨hstored name hn hquoted force, ?_, ?_⟩
  · exact Dialect.of_isQuoted_quote_eq_false e.head?_identifierQuotes e.quoteReservedWords_profile hn hquoted
  · intro other hother hotherQuoted hne force'
    rw [hstored other hother hotherQuoted, hstored name hn hquoted]
    exact hne

/-- A name whose upper case is longer than itself, and that upper case as a name of its own. -/
theorem storedName_quote_caseSensitive_sharpS :
    ("maß" : Text) ≠ [] ∧ Engine.oracle.dialect.profile.isQuoted "maß" = false ∧
      Engine.oracle.dialect.profile.storedName (Engine.oracle.dialect.quote "maß" true false) = "maß".toList ∧
      ("MASS" : Text) ≠ [] ∧ Engine.oracle.dialect.profile.isQuoted "MASS" = false ∧ ("MASS" : Text) ≠ "maß" ∧
      Engine.oracle.dialect.profile.storedName (Engine.oracle.dialect.quote "MASS" true true) ≠
        Engine.oracle.dialect.profile.storedName (Engine.oracle.dialect.quote "maß" true false) := by
  have hn : ("maß" : Text) ≠ [] := by decide
  have hquoted : Engine.oracle.dialect.profile.isQuoted "maß" = false := by decide
  have hother : ("MASS" : Text) ≠ [] := by decide
  have hotherQuoted : Engine.oracle.dialect.profile.isQuoted "MASS" = false := by decide
  have hne : ("MASS" : Text) ≠ "maß" := by decide
  obtain ⟨hstored, -, hapart⟩ := storedName_quote_caseSensitive .oracle hn hquoted false
  exact ⟨hn, hquoted, hstored, hother, hotherQuoted, hne, hapart _ hother hotherQuoted hne true⟩

end SqlDialects
