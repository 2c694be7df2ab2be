/-
Stretches of a text that the lexer cuts into certain lexemes (`Cursor.Cuts`), and what is left of them when comments
are taken out: the text itself, with a blank in place of each comment (`Cursor.Cuts.blanked`). What stands in it
without blanks stands in the text as well (`Text.Blanked.isInfix`).
-/
import SqlDialects.Proofs.Statement.Comment.Mark
import SqlDialects.Proofs.Statement.Word

namespace SqlDialects

/-! ## Stretches of lexemes -/

namespace Cursor

variable {c d e : Cursor} {ls rest : List Lexeme}

/-- The lexer cuts the text from the one place up to the other into the lexemes. -/
inductive Cuts : Cursor → List Lexeme → Cursor → Prop
  | nil {c : Cursor} : Cuts c [] c
  | cons {c d e : Cursor} {k : LexemeKind} {ls : List Lexeme} (hnext : c.next? = some (k, d)) (h : Cuts d ls e) :
      Cuts c (⟨k, c.upTo d⟩ :: ls) e

theorem exists_cuts_of_lexemes_eq (h : c.lexemes = ls ++ rest) : ∃ e, c.Cuts ls e ∧ e.lexemes = rest := by
  induction ls generalizing c with
  | nil => exact ⟨c, .nil, h⟩
  | cons l ls ih =>
    obtain ⟨k, d, hnext, rfl, hrest⟩ := exists_next?_of_lexemes_eq_cons h
    obtain ⟨e, hcuts, he⟩ := ih hrest.symm
    exact ⟨e, .cons hnext hcuts, he⟩

theorem exists_cuts_ahead_eq (h : c.lexemes = ls ++ d.lexemes) : ∃ e, c.Cuts ls e ∧ e.ahead = d.ahead := by
  obtain ⟨e, hcuts, he⟩ := exists_cuts_of_lexemes_eq h
  refine ⟨e, hcuts, ?_⟩
  rw [← flatMap_text_lexemes e, he, flatMap_text_lexemes]

namespace Cuts

theorem lexemes_eq (h : c.Cuts ls e) : c.lexemes = ls ++ e.lexemes := by
  induction h with
  | nil => rfl
  | cons hnext _ ih => rw [lexemes_eq_cons hnext, ih, List.cons_append]

theorem passes (h : c.Cuts ls e) : c.Passes (ls.flatMap Lexeme.text) e := by
  induction h with
  | nil => exact passes_nil_iff.2 rfl
  | cons hnext _ ih => exact (exists_passes_of_next? hnext).append ih

end Cuts

end Cursor

/-! ## Blanks in place of comments -/

/-- Of two texts one behind the other, a character of both stands in the second or in the first. -/
theorem cases_of_append_eq_append_cons {α : Type} {a : α} {s t u v : List α} (h : s ++ t = u ++ a :: v) :
    (∃ x, u = s ++ x ∧ t = x ++ a :: v) ∨ ∃ x, s = u ++ a :: x ∧ v = x ++ t := by
  rcases List.append_eq_append_iff.1 h with ⟨x, hu, ht⟩ | ⟨x, hs, hv⟩
  · exact .inl ⟨x, hu, ht⟩
  · cases x with
    | nil => exact .inl ⟨[], by rw [hs, List.append_nil, List.append_nil], hv.symm⟩
    | cons b x =>
      obtain ⟨rfl, hrest⟩ := List.cons_eq_cons.1 hv
      exact .inr ⟨x, hs, hrest⟩

namespace Text

variable {marks : List Text} {s t u v : Text} {a b : Char}

/-- The second text is the first with a blank in place of some pieces, each of which begins with one of the marks. -/
inductive Blanked (marks : List Text) : Text → Text → Prop
  | nil : Blanked marks [] []
  | char (a : Char) {s t : Text} (h : Blanked marks s t) : Blanked marks (a :: s) (a :: t)
  | piece {mark u s t : Text} {b : Char} (hmark : mark ∈ marks) (hbegins : mark <+: u)
      (hb : Character.isBlank b = true) (h : Blanked marks s t) : Blanked marks (u ++ s) (b :: t)

namespace Blanked

theorem append_left (h : Blanked marks s t) (u : Text) : Blanked marks (u ++ s) (u ++ t) := by
  induction u with
  | nil => exact h
  | cons a u ih => exact .char a ih

/-- The first character is that of the text, or a blank in place of a piece. -/
theorem cases_cons (h : Blanked marks s (b :: t)) :
    (∃ s', s = b :: s' ∧ Blanked marks s' t) ∨ Character.isBlank b = true ∧ ∃ mark ∈ marks, mark <+: s := by
  cases h with
  | char _ h => exact .inl ⟨_, rfl, h⟩
  | piece hmark hbegins hb _ => exact .inr ⟨hb, _, hmark, hbegins.trans (List.prefix_append _ _)⟩

/-- What has no blanks is there in the text. -/
theorem exists_append (hu : u.any Character.isBlank = false) (h : Blanked marks s (u ++ t)) :
    ∃ s', s = u ++ s' ∧ Blanked marks s' t := by
  induction u generalizing s with
  | nil => exact ⟨s, rfl, h⟩
  | cons a u ih =>
    rw [List.any_cons, Bool.or_eq_false_iff] at hu
    rcases h.cases_cons with ⟨s', rfl, hs'⟩ | ⟨hblank, -⟩
    · obtain ⟨s'', rfl, h'⟩ := ih hu.2 hs'
      exact ⟨s'', rfl, h'⟩
    · rw [hu.1] at hblank
      cases hblank

theorem eq_of_not_blank (ht : t.any Character.isBlank = false) (h : Blanked marks s t) : s = t := by
  rw [← List.append_nil t] at h
  obtain ⟨s', rfl, hrest⟩ := h.exists_append ht
  cases hrest with
  | nil => exact List.append_nil t

theorem exists_behind (h : Blanked marks s (u ++ t)) : ∃ s', s' <:+ s ∧ Blanked marks s' t := by
  induction u generalizing s with
  | nil => exact ⟨s, List.suffix_refl s, h⟩
  | cons a u ih =>
    cases h with
    | char _ h =>
      obtain ⟨s', hs', h⟩ := ih h
      exact ⟨s', hs'.trans (List.suffix_cons a _), h⟩
    | piece _ _ _ h =>
      obtain ⟨s', hs', h⟩ := ih h
      exact ⟨s', hs'.trans (List.suffix_append _ _), h⟩

theorem isInfix (hu : u.any Character.isBlank = false) (h : Blanked marks s t) (hpart : u <:+: t) : u <:+: s := by
  obtain ⟨v, w, rfl⟩ := hpart
  rw [List.append_assoc] at h
  obtain ⟨s', hs', h⟩ := h.exists_behind
  obtain ⟨s'', rfl, -⟩ := h.exists_append hu
  exact (List.prefix_append u s'').isInfix.trans hs'.isInfix

theorem mem (ha : Character.isBlank a = false) (h : Blanked marks s t) (hmem : a ∈ t) : a ∈ s :=
  (List.singleton_infix_iff a s).1
    (h.isInfix (by simpa using ha) ((List.singleton_infix_iff a t).2 hmem))

end Blanked

end Text

namespace Cursor

variable {c d e : Cursor} {ls : List Lexeme} {k : LexemeKind}

/-- Taking comments out leaves a blank in place of each of them. -/
theorem Cuts.blanked (h : c.Cuts ls e) :
    Text.Blanked commentMarks (ls.flatMap Lexeme.text) (ls.flatMap Lexeme.withoutComment) := by
  induction h with
  | nil => exact .nil
  | @cons c d e k ls hnext _ ih =>
    rw [List.flatMap_cons, List.flatMap_cons]
    by_cases hk : k = .comment
    · subst hk
      obtain ⟨mark, hmark, hbegins⟩ := exists_mark_prefix_upTo hnext
      obtain ⟨b, hleft, hb⟩ := Lexeme.exists_withoutComment_of_comment (c.upTo d)
      rw [hleft]
      exact .piece hmark hbegins hb ih
    · rw [Lexeme.withoutComment_of_ne hk]
      exact ih.append_left _

/-- A character that is no blank is left of one of the lexemes, with what stands in that on both sides. -/
theorem Cuts.exists_lexeme {a : Char} {w v : Text} (ha : Character.isBlank a = false) (h : c.Cuts ls e)
    (hleft : ls.flatMap Lexeme.withoutComment = w ++ a :: v) :
    ∃ ls₁ k x y ls₂ p q, c.Cuts ls₁ x ∧ x.next? = some (k, y) ∧ y.Cuts ls₂ e ∧ ls = ls₁ ++ ⟨k, x.upTo y⟩ :: ls₂ ∧
      x.upTo y = p ++ a :: q ∧ w = ls₁.flatMap Lexeme.withoutComment ++ p ∧
      v = q ++ ls₂.flatMap Lexeme.withoutComment := by
  induction h generalizing w with
  | nil => simp at hleft
  | @cons c d e k ls hnext h ih =>
    rw [List.flatMap_cons] at hleft
    rcases cases_of_append_eq_append_cons hleft with ⟨u, rfl, hrest⟩ | ⟨q, hq, hv⟩
    · obtain ⟨ls₁, k', x, y, ls₂, p, q, hcuts, hnext', hcuts', rfl, hupTo, rfl, hv⟩ := ih hrest
      exact ⟨_, k', x, y, ls₂, p, q, .cons hnext hcuts, hnext', hcuts', rfl, hupTo,
        by rw [List.flatMap_cons, List.append_assoc], hv⟩
    · by_cases hk : k = .comment
      · -- a comment leaves nothing but a blank
        subst hk
        obtain ⟨b, hb, hblank⟩ := Lexeme.exists_withoutComment_of_comment (c.upTo d)
        rw [hb] at hq
        have hmem : a ∈ [b] := hq ▸ List.mem_append_right w List.mem_cons_self
        rw [List.mem_singleton.1 hmem, hblank] at ha
        cases ha
      · rw [Lexeme.withoutComment_of_ne hk] at hq
        exact ⟨[], k, c, d, ls, w, q, .nil, hnext, h, rfl, hq, rfl, hv⟩

theorem blanked_lexemes (c : Cursor) :
    Text.Blanked commentMarks c.ahead (c.lexemes.flatMap Lexeme.withoutComment) := by
  obtain ⟨e, hcuts, -⟩ := exists_cuts_of_lexemes_eq (List.append_nil c.lexemes).symm
  have h := hcuts.blanked
  rwa [flatMap_text_lexemes] at h

end Cursor

end SqlDialects
