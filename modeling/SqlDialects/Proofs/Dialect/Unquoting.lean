/-
Quoting a name loses nothing: without its marks it is the name again (`unquote_quote_and_enquote`). The
pair that is taken off is the first of the table that fits. For the default pair that is the one put on,
whatever the table; for the other pairs of a built-in dialect it is so because no two of them open with
the same character. What has been doubled between the marks is undone.
-/
import SqlDialects.Proofs.Dialect.Identifier

namespace SqlDialects

/-! ## Marks around a text -/

namespace Delimiters

theorem enclose_append (q : Delimiters) (s : Text) : q.enclose (q.opening ++ s ++ q.closing) = true := by
  have hlength : q.opening.length + q.closing.length ≤ (q.opening ++ s ++ q.closing).length := by
    simp only [List.length_append]
    omega
  have hbegins : q.opening <+: q.opening ++ s ++ q.closing := by
    rw [List.append_assoc]
    exact List.prefix_append _ _
  have hends : q.closing <:+ q.opening ++ s ++ q.closing := List.suffix_append _ _
  unfold enclose Text.beginsWith Text.endsWith
  simp only [Bool.and_eq_true, decide_eq_true_eq, List.isPrefixOf_iff_prefix, List.isSuffixOf_iff_suffix]
  exact ⟨⟨hlength, hbegins⟩, hends⟩

theorem body_append (q : Delimiters) (s : Text) : q.body (q.opening ++ s ++ q.closing) = s := by
  have hlength : (q.opening ++ s ++ q.closing).length - q.closing.length = (q.opening ++ s).length := by
    rw [List.length_append, Nat.add_sub_cancel]
  unfold body
  rw [hlength, List.take_left, List.drop_left]

/-- The two pairs open with different characters. -/
def OpensApart (q q' : Delimiters) : Prop :=
  q.opening ≠ [] ∧ q'.opening ≠ [] ∧ q.opening.head? ≠ q'.opening.head?

instance : DecidableRel OpensApart := fun _ _ => inferInstanceAs (Decidable (_ ∧ _ ∧ _))

theorem OpensApart.enclose_eq_false {q q' : Delimiters} (h : q.OpensApart q') (s : Text) :
    q.enclose (q'.opening ++ s ++ q'.closing) = false := by
  obtain ⟨hne, hne', hhead⟩ := h
  obtain ⟨a, o, ho⟩ := List.exists_cons_of_ne_nil hne
  obtain ⟨b, o', ho'⟩ := List.exists_cons_of_ne_nil hne'
  have hab : a ≠ b := by simpa [ho, ho'] using hhead
  unfold enclose Text.beginsWith
  rw [ho, ho', List.cons_append, List.cons_append, List.isPrefixOf_cons_cons, beq_false_of_ne hab]
  simp

end Delimiters

/-! ## What is doubled between the marks -/

namespace Policy

theorem undoubleQuotes_doubleQuotes (q : Delimiters) (name : Text) :
    undoubleQuotes q (doubleQuotes q name) = name := by
  unfold undoubleQuotes doubleQuotes
  cases selfPaired? q with
  | none => rfl
  | some mark => exact Text.undouble_double mark name

theorem undoubleBrackets_doubleBrackets (q : Delimiters) (name : Text) :
    undoubleBrackets q (doubleBrackets q name) = name := by
  unfold undoubleBrackets doubleBrackets
  by_cases hq : q = brackets
  · rw [if_pos hq, if_pos hq]
    exact Text.undouble_double ']' name
  · rw [if_neg hq, if_neg hq]
    exact undoubleQuotes_doubleQuotes q name

end Policy

namespace Profile

/-- The profile writes quotes inside quotes by one of the two policies there are, and reads them by the
same. -/
def EscapesByPolicy (p : Profile) : Prop :=
  p.escapeIdentifier = Policy.doubleQuotes ∧ p.unescapeIdentifier = Policy.undoubleQuotes ∨
    p.escapeIdentifier = Policy.doubleBrackets ∧ p.unescapeIdentifier = Policy.undoubleBrackets

variable {p : Profile} {q : Delimiters}

theorem EscapesByPolicy.unescape_escape (h : p.EscapesByPolicy) (q : Delimiters) (name : Text) :
    p.unescapeIdentifier q (p.escapeIdentifier q name) = name := by
  rcases h with ⟨hescape, hunescape⟩ | ⟨hescape, hunescape⟩
  · rw [hescape, hunescape]
    exact Policy.undoubleQuotes_doubleQuotes q name
  · rw [hescape, hunescape]
    exact Policy.undoubleBrackets_doubleBrackets q name

/-! ## The pair that is taken off -/

theorem unquote_of_isQuoted_eq_false {name : Text} (h : p.isQuoted name = false) : p.unquote name = name := by
  have hnone : p.enclosingQuotes? name = none := by simpa [isQuoted] using h
  rw [unquote, hnone]

/-- Marks are taken off again if the pair put on is the first that fits. -/
theorem EscapesByPolicy.unquote_enquote (h : p.EscapesByPolicy) {name : Text}
    (hfirst : p.enclosingQuotes? (p.enquote q name) = some q) : p.unquote (p.enquote q name) = name := by
  rw [unquote, hfirst]
  show p.unescapeIdentifier q (q.body (p.enquote q name)) = name
  rw [enquote, Delimiters.body_append, h.unescape_escape]

/-- The default pair is the first that fits. -/
theorem enclosingQuotes?_enquote_of_head (hq : p.identifierQuotes.head? = some q) (name : Text) :
    p.enclosingQuotes? (p.enquote q name) = some q := by
  obtain ⟨others, hpairs⟩ := List.head?_eq_some_iff.1 hq
  rw [enclosingQuotes?, hpairs]
  exact List.find?_cons_of_pos (q.enclose_append _)

theorem isQuoted_enquote_of_head (hq : p.identifierQuotes.head? = some q) (name : Text) :
    p.isQuoted (p.enquote q name) = true := by
  rw [isQuoted, enclosingQuotes?_enquote_of_head hq, Option.isSome_some]

/-- Every pair is the first that fits if no two pairs open with the same character. -/
theorem enclosingQuotes?_enquote_of_mem (hp : p.identifierQuotes.Pairwise Delimiters.OpensApart)
    (hq : q ∈ p.identifierQuotes) (name : Text) : p.enclosingQuotes? (p.enquote q name) = some q := by
  unfold enclosingQuotes?
  generalize p.identifierQuotes = pairs at hp hq
  induction hp with
  | nil => cases hq
  | @cons q' others hothers _ ih =>
    rcases List.mem_cons.1 hq with rfl | hq
    · exact List.find?_cons_of_pos (q.enclose_append _)
    · have hfits : q'.enclose (p.enquote q name) = false := (hothers q hq).enclose_eq_false _
      rw [List.find?_cons, hfits]
      exact ih hq

end Profile

/-! ## Quoting and unquoting -/

/-- Quoting leaves a name that is not quoted yet as it is, or puts it between the default marks. -/
theorem Dialect.unquote_quote {d : Dialect} (h : d.profile.EscapesByPolicy) {name : Text}
    (hquoted : d.profile.isQuoted name = false) (caseSensitive force : Bool) :
    d.profile.unquote (d.quote name caseSensitive force) = name := by
  rcases d.quote_cases name caseSensitive force with hkept | ⟨q, hq, hwritten⟩
  · rw [hkept]
    exact Profile.unquote_of_isQuoted_eq_false hquoted
  · rw [hwritten]
    exact h.unquote_enquote (Profile.enclosingQuotes?_enquote_of_head hq name)

namespace Engine

theorem escapesByPolicy (e : Engine) : e.dialect.profile.EscapesByPolicy := by
  cases e with
  | mssql => exact .inr ⟨rfl, rfl⟩
  | generic | postgres | mysql | sqlite | oracle => exact .inl ⟨rfl, rfl⟩

/-- The pairs of a built-in dialect are told apart by the character that they open with. -/
theorem pairwise_opensApart (e : Engine) :
    e.dialect.profile.identifierQuotes.Pairwise Delimiters.OpensApart := by
  cases e <;> decide

end Engine

/-- Whatever the pairs of quotes are, a name that is quoted and unquoted is the same name again; and for
every pair of a built-in dialect, so is any text at all that is put between the marks of the pair. -/
theorem unquote_quote_and_enquote :
    (∀ d : Dialect, d.profile.EscapesByPolicy → ∀ name, d.profile.isQuoted name = false →
        ∀ caseSensitive force, d.profile.unquote (d.quote name caseSensitive force) = name) ∧
      ∀ e : Engine, ∀ q ∈ e.dialect.profile.identifierQuotes, ∀ s,
        e.dialect.profile.unquote (e.dialect.profile.enquote q s) = s := by
  constructor
  · intro d hd name hquoted
    exact Dialect.unquote_quote hd hquoted
  · intro e q hq s
    exact e.escapesByPolicy.unquote_enquote
      (Profile.enclosingQuotes?_enquote_of_mem e.pairwise_opensApart hq s)

/-- An engine with a pair of long and unequal marks. -/
def Profile.longMarks : Profile :=
  { Profile.mssql with name := "long", identifierQuotes := [⟨"<<", ">"⟩, Policy.brackets] }

/-- A name that ends like a quoted one, between unequal marks, and closing marks that are not doubled. -/
theorem unquote_quote_and_enquote_of_marks :
    Profile.longMarks.EscapesByPolicy ∧ Profile.longMarks.isQuoted "a b>" = false ∧
      Profile.longMarks.unquote
          (Dialect.quote ⟨Profile.longMarks, Builder.build {}, Profile.longMarks.reader⟩ "a b>" false true) =
        "a b>".toList ∧
      Policy.brackets ∈ Engine.sqlite.dialect.profile.identifierQuotes ∧
      Engine.sqlite.dialect.profile.unquote
          (Engine.sqlite.dialect.profile.enquote Policy.brackets "]a]]") = "]a]]".toList := by
  have hpolicy : Profile.longMarks.EscapesByPolicy := .inr ⟨rfl, rfl⟩
  have hquoted : Profile.longMarks.isQuoted "a b>" = false := by decide
  have hpair : Policy.brackets ∈ Engine.sqlite.dialect.profile.identifierQuotes := by decide
  obtain ⟨hdefault, hevery⟩ := unquote_quote_and_enquote
  exact ⟨hpolicy, hquoted, hdefault ⟨_, _, _⟩ hpolicy _ hquoted false true, hpair, hevery .sqlite _ hpair _⟩

end SqlDialects
