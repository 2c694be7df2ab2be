/-
What makes a statement modify. Without its comments it begins, behind blanks and comments that are left, with a
whole word that is a keyword of the dialect and no read-only one (`exists_keyword_of_isModifying`). Quoted
names, strings, numbers and placeholders are no such words, and neither is a part of a longer word.
-/
import SqlDialects.Proofs.Dialect.Transaction
import SqlDialects.Proofs.Statement.Word
import SqlDialects.Proofs.Text.UpperCase

namespace SqlDialects

namespace Dialect

variable {d : Dialect} {s word : Text}

/-- A statement modifies only by a first word that is a modifying keyword. -/
theorem isModifyingKeyword_of_isModifying (h : d.isModifying s = true) :
    d.reader.leadingWord (d.reader.stripComments s) ≠ [] ∧
      d.isModifyingKeyword (d.reader.leadingWord (d.reader.stripComments s)).upper = true := by
  unfold isModifying verdict? at h
  dsimp only at h
  split at h
  · cases h
  · rename_i hempty
    rw [Bool.or_eq_true, not_or] at hempty
    refine ⟨fun hnil => hempty.2 ?_, h⟩
    rw [hnil]
    rfl

/-- A word is looked up in upper case, whether it is written so already or not. -/
theorem isModifyingKeyword_upper_iff :
    d.isModifyingKeyword word.upper = true ↔
      d.words.classify word.upper = some .keyword ∧ d.profile.readOnlyKeywords.contains word.upper = false := by
  simp [isModifyingKeyword, Text.upper_upper]

end Dialect

/-- A statement that modifies begins, without its comments and behind what is left of blanks and comments, with
a whole word that is a keyword of the dialect and not a read-only one. -/
theorem exists_keyword_of_isModifying (e : Engine) {s : Text} (h : e.dialect.isModifying s = true) :
    ∃ fillers l rest, lexemes (e.dialect.profile.stripComments s) = fillers ++ l :: rest ∧
      (∀ f ∈ fillers, f.isFiller = true) ∧ (l.kind = .keyword ∨ l.kind = .name) ∧
      e.dialect.profile.stripComments s =
        fillers.flatMap Lexeme.text ++ l.text ++ rest.flatMap Lexeme.text ∧
      Text.IsWholeWord (fillers.flatMap Lexeme.text) l.text (rest.flatMap Lexeme.text) ∧
      e.dialect.words.classify l.text.upper = some .keyword ∧
      e.dialect.profile.readOnlyKeywords.contains l.text.upper = false := by
  obtain ⟨hne, hkeyword⟩ := Dialect.isModifyingKeyword_of_isModifying h
  rw [e.reader_dialect] at hne hkeyword
  obtain ⟨fillers, l, rest, hsplit, hfillers, hkind, htext, hword⟩ :=
    exists_lexeme_of_leadingWord (s := e.dialect.profile.stripComments s) hne
  obtain ⟨hclass, hreadOnly⟩ := Dialect.isModifyingKeyword_upper_iff.1 hkeyword
  refine ⟨fillers, l, rest, hsplit, hfillers, hkind, ?_, hword, ?_, ?_⟩
  · rw [← flatMap_text_lexemes (e.dialect.profile.stripComments s), hsplit, List.flatMap_append,
      List.flatMap_cons, List.append_assoc]
  · rw [htext]
    exact hclass
  · rw [htext]
    exact hreadOnly

/-- Letters in both cases behind a comment that lies in another one. -/
theorem exists_keyword_of_isModifying_postgres :
    Engine.postgres.dialect.isModifying "/*a/*b*/*/ Update t" = true ∧
      ∃ fillers l rest, lexemes (Engine.postgres.dialect.profile.stripComments "/*a/*b*/*/ Update t") =
          fillers ++ l :: rest ∧
        (∀ f ∈ fillers, f.isFiller = true) ∧ (l.kind = .keyword ∨ l.kind = .name) ∧
        Engine.postgres.dialect.profile.stripComments "/*a/*b*/*/ Update t" =
          fillers.flatMap Lexeme.text ++ l.text ++ rest.flatMap Lexeme.text ∧
        Text.IsWholeWord (fillers.flatMap Lexeme.text) l.text (rest.flatMap Lexeme.text) ∧
        Engine.postgres.dialect.words.classify l.text.upper = some .keyword ∧
        Engine.postgres.dialect.profile.readOnlyKeywords.contains l.text.upper = false := by
  have hstripped : Engine.postgres.dialect.profile.stripComments "/*a/*b*/*/ Update t" = "Update t" := by
    decide +kernel
  have hword : (leadingWord "Update t").upper = "UPDATE" := by decide +kernel
  have hmodifies : Engine.postgres.dialect.isModifying "/*a/*b*/*/ Update t" = true := by
    rw [Engine.isModifying_eq .postgres (by rw [hstripped]; decide), hstripped, hword,
      Engine.isModifyingKeyword_verb .postgres (by decide)]
    rfl
  exact ⟨hmodifies, exists_keyword_of_isModifying .postgres hmodifies⟩

end SqlDialects
