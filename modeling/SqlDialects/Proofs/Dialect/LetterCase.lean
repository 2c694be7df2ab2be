/-
What the case of letters means to the built-in dialects. It makes no difference to what a statement means for a
transaction, and none to what is taken out of it, unless it decides where a dollar quoted text is closed
(`verdicts_eq_and_sameLetters_stripComments`): the lexer compares the delimiters of those as they are written
(`not_sameLetters_stripComments_dollarTag`).
-/
import SqlDialects.Proofs.Dialect.Transaction
import SqlDialects.Proofs.Statement.Alike

namespace SqlDialects

open Cursor

variable {s t : Text}

/-- Taking out what the lexer does not know as a comment does not see the case of letters, if no mark has any. -/
theorem Profile.sameLetters_eraseExtraComments {p : Profile} (hlines : p.extraLineComments = [])
    (hblocks : ∀ m ∈ p.extraBlockComments, m.WithoutLetters) (h : s.SameLetters t) :
    (p.eraseExtraComments s).SameLetters (p.eraseExtraComments t) := by
  rw [eraseExtraComments_of_nil hlines, eraseExtraComments_of_nil hlines]
  cases hm : p.extraBlockComments with
  | none => exact h
  | some m => exact BlockComments.sameLetters_eraseFrom (hblocks m hm) .outside h

namespace Engine

theorem sameLetters_eraseExtraComments (e : Engine) (h : s.SameLetters t) :
    (e.dialect.profile.eraseExtraComments s).SameLetters (e.dialect.profile.eraseExtraComments t) := by
  refine Profile.sameLetters_eraseExtraComments e.marksArePunctuation.1 (fun m hm => ?_) h
  rw [extraBlockComments_dialect] at hm
  split at hm
  · cases hm
    decide
  · cases hm

theorem firstKeyword_eq_of_sameLetters (e : Engine) (h : s.SameLetters t) :
    e.dialect.firstKeyword s = e.dialect.firstKeyword t := by
  unfold Dialect.firstKeyword Reader.firstWord
  rw [reader_dialect]
  exact (leadingWord_stripped_sameLetters (e.sameLetters_eraseExtraComments h)).upper_eq

/-- The verdict on a statement is told by its first word, and there is none where nothing is left. -/
theorem isModifying_eq_firstKeyword (e : Engine) (s : Text) :
    e.dialect.isModifying s =
      (!(e.dialect.firstKeyword s).isEmpty && e.dialect.isModifyingKeyword (e.dialect.firstKeyword s)) := by
  unfold Dialect.firstKeyword Reader.firstWord
  by_cases hnil : e.dialect.profile.stripComments s = []
  · unfold Dialect.isModifying Dialect.verdict?
    rw [reader_dialect]
    show Option.any _ (if (List.isEmpty (e.dialect.profile.stripComments s) || _) = true then _ else _) =
      (!(leadingWord (e.dialect.profile.stripComments s)).upper.isEmpty && _)
    rw [hnil, leadingWord, lexemes, lexemes_eq_nil rfl]
    rfl
  · rw [e.isModifying_eq hnil, reader_dialect]
    rfl

end Engine

/-- Two statements that differ only in the case of ASCII letters mean the same for a transaction to every built-in
dialect. What is left of them without comments differs only in the case of letters too, if the lexer finds the closing
delimiters at the same places wherever it comes to a dollar quoted text in both. -/
theorem verdicts_eq_and_sameLetters_stripComments (e : Engine) (h : s.SameLetters t) :
    e.dialect.isModifying s = e.dialect.isModifying t ∧ e.dialect.isCommit s = e.dialect.isCommit t ∧
      e.dialect.isRollback s = e.dialect.isRollback t ∧
      ((e.dialect.profile.eraseExtraComments s).SameDelimiters (e.dialect.profile.eraseExtraComments t) →
        (e.dialect.reader.stripComments s).SameLetters (e.dialect.reader.stripComments t)) := by
  have hkeyword := e.firstKeyword_eq_of_sameLetters h
  have hany (words : List Text) : e.dialect.beginsWithAny s words = e.dialect.beginsWithAny t words := by
    rw [Dialect.beginsWithAny, hkeyword, Dialect.beginsWithAny]
  refine ⟨?_, hany _, hany _, fun hsame => ?_⟩
  · rw [e.isModifying_eq_firstKeyword, e.isModifying_eq_firstKeyword, hkeyword]
  · rw [e.reader_dialect]
    exact (sameLetters_flatMap_withoutComment
      (lexemes_sameLetters (e.sameLetters_eraseExtraComments h) hsame)).trim

/-- A dollar quoted text with both of its delimiters in another case, and a string literal that the lexer does not look
into. -/
theorem verdicts_eq_and_sameLetters_stripComments_dollarQuoted :
    Text.SameLetters "Do $a$--$a$'$b$$b$'" "dO $A$--$A$'$b$$B$'" ∧
      Text.SameDelimiters (Engine.postgres.dialect.profile.eraseExtraComments "Do $a$--$a$'$b$$b$'")
        (Engine.postgres.dialect.profile.eraseExtraComments "dO $A$--$A$'$b$$B$'") ∧
      Engine.postgres.dialect.isModifying "Do $a$--$a$'$b$$b$'" =
        Engine.postgres.dialect.isModifying "dO $A$--$A$'$b$$B$'" ∧
      Engine.postgres.dialect.isCommit "Do $a$--$a$'$b$$b$'" =
        Engine.postgres.dialect.isCommit "dO $A$--$A$'$b$$B$'" ∧
      Engine.postgres.dialect.isRollback "Do $a$--$a$'$b$$b$'" =
        Engine.postgres.dialect.isRollback "dO $A$--$A$'$b$$B$'" ∧
      Text.SameLetters (Engine.postgres.dialect.reader.stripComments "Do $a$--$a$'$b$$b$'")
        (Engine.postgres.dialect.reader.stripComments "dO $A$--$A$'$b$$B$'") := by
  have hletters : Text.SameLetters "Do $a$--$a$'$b$$b$'" "dO $A$--$A$'$b$$B$'" := by decide
  have hdelimiters : Text.SameDelimiters (Engine.postgres.dialect.profile.eraseExtraComments "Do $a$--$a$'$b$$b$'")
      (Engine.postgres.dialect.profile.eraseExtraComments "dO $A$--$A$'$b$$B$'") := by
    decide +kernel
  obtain ⟨hmodifying, hcommit, hrollback, hstripped⟩ := verdicts_eq_and_sameLetters_stripComments .postgres hletters
  exact ⟨hletters, hdelimiters, hmodifying, hcommit, hrollback, hstripped hdelimiters⟩

/-- A delimiter in another case does not close a dollar quoted text, so what looks like a comment inside is one. -/
theorem not_sameLetters_stripComments_dollarTag :
    Text.SameLetters "$a$--$a$" "$a$--$A$" ∧
      ¬ Text.SameLetters (Engine.generic.dialect.reader.stripComments "$a$--$a$")
        (Engine.generic.dialect.reader.stripComments "$a$--$A$") := by
  refine ⟨by decide, ?_⟩
  decide +kernel

end SqlDialects
