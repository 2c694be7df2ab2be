/-
Where comments begin. The lexer makes a comment only where one of three marks stands, so a text that is free
of them stays as it is when its comments are taken out (`Cursor.flatMap_withoutComment_of_freeOf`). Doubling
characters that occur in no mark makes none either (`Text.FreeOf.doubleEach_append`).
-/
import SqlDialects.Proofs.Statement.Filler

namespace SqlDialects

/-- The marks with which the comments begin that the lexer knows. -/
def commentMarks : List Text := ["--", "# ", "/*"]

theorem mem_commentMarks_iff {mark : Text} :
    mark ∈ commentMarks ↔ mark = ['-', '-'] ∨ mark = ['#', ' '] ∨ mark = ['/', '*'] := by
  show mark ∈ [['-', '-'], ['#', ' '], ['/', '*']] ↔ _
  simp only [List.mem_cons, List.not_mem_nil, or_false]

namespace Text

variable {marks : List Text} {s t : Text}

/-- None of the marks stands anywhere in the text. -/
def FreeOf (marks : List Text) (s : Text) : Prop := ∀ mark ∈ marks, ¬ mark <:+: s

instance (marks : List Text) (s : Text) : Decidable (FreeOf marks s) := inferInstanceAs (Decidable (∀ _ ∈ _, _))

theorem FreeOf.of_part (h : FreeOf marks s) (ht : t <:+: s) : FreeOf marks t :=
  fun mark hmark hoccurs => h mark hmark (hoccurs.trans ht)

theorem FreeOf.of_suffix (h : FreeOf marks s) (ht : t <:+ s) : FreeOf marks t := h.of_part ht.isInfix

theorem freeOf_nil (hmarks : [] ∉ marks) : FreeOf marks [] := by
  rintro mark hmark hoccurs
  obtain rfl := List.infix_nil.1 hoccurs
  exact hmarks hmark

/-- A character that occurs in no mark makes none in front of a text. -/
theorem FreeOf.cons {a : Char} (h : FreeOf marks s) (hmarks : [] ∉ marks) (ha : ∀ mark ∈ marks, a ∉ mark) :
    FreeOf marks (a :: s) := by
  intro mark hmark hoccurs
  rcases List.infix_cons_iff.1 hoccurs with hbegins | hoccurs
  · cases mark with
    | nil => exact hmarks hmark
    | cons b mark =>
      obtain ⟨rfl, -⟩ := List.cons_prefix_cons.1 hbegins
      exact ha _ hmark List.mem_cons_self
  · exact h mark hmark hoccurs

/-! ## Doubled characters -/

/-- Each of the characters is written twice wherever it stands. -/
def doubleEach (qs : List Char) (s : Text) : Text := s.flatMap fun c => if c ∈ qs then [c, c] else [c]

theorem doubleEach_nil (s : Text) : s.doubleEach [] = s := by simp [doubleEach]

theorem double_eq_doubleEach (q : Char) (s : Text) : s.double q = s.doubleEach [q] := by
  unfold double doubleEach
  refine List.flatMap_congr fun c _ => ?_
  by_cases hc : c = q
  · rw [if_pos hc, if_pos (List.mem_singleton.2 hc), hc]
  · rw [if_neg hc, if_neg (mt List.mem_singleton.1 hc)]

theorem double_double_eq_doubleEach {q e : Char} (he : e ≠ q) (s : Text) :
    (s.double q).double e = s.doubleEach [q, e] := by
  unfold double doubleEach
  rw [List.flatMap_assoc]
  refine List.flatMap_congr fun c _ => ?_
  by_cases hc : c = q
  · subst hc
    simp [Ne.symm he]
  · by_cases hce : c = e
    · subst hce
      simp [hc]
    · simp [hc, hce]

variable {qs : List Char} {closing : Char} {mark : Text}

theorem doubleEach_cons (a : Char) (s : Text) :
    doubleEach qs (a :: s) = (if a ∈ qs then [a, a] else [a]) ++ doubleEach qs s := List.flatMap_cons

theorem doubleEach_append (s t : Text) : doubleEach qs (s ++ t) = doubleEach qs s ++ doubleEach qs t :=
  List.flatMap_append

theorem doubleEach_of_notMem (h : ∀ a ∈ s, a ∉ qs) : s.doubleEach qs = s := by
  have heach : ∀ a ∈ s, (if a ∈ qs then [a, a] else [a]) = [a] := fun a ha => if_neg (h a ha)
  rw [doubleEach, List.flatMap_congr heach, List.flatMap_singleton']

/-- A text has none of the characters, or there is a first one. -/
theorem notMem_or_exists_first (qs : List Char) (s : Text) :
    (∀ a ∈ s, a ∉ qs) ∨ ∃ u q v, s = u ++ q :: v ∧ (∀ a ∈ u, a ∉ qs) ∧ q ∈ qs := by
  induction s with
  | nil => exact .inl (by simp)
  | cons a s ih =>
    by_cases ha : a ∈ qs
    · exact .inr ⟨[], a, s, rfl, by simp, ha⟩
    · rcases ih with hs | ⟨u, q, v, rfl, hu, hq⟩
      · exact .inl (List.forall_mem_cons.2 ⟨ha, hs⟩)
      · exact .inr ⟨a :: u, q, v, rfl, List.forall_mem_cons.2 ⟨ha, hu⟩, hq⟩

/-- What begins a text with doubled characters, but has none of them, begins the text itself. -/
theorem prefix_of_prefix_doubleEach_append (hmark : ∀ a ∈ mark, a ∉ closing :: qs)
    (h : mark <+: s.doubleEach qs ++ [closing]) : mark <+: s := by
  induction s generalizing mark with
  | nil =>
    cases mark with
    | nil => exact List.nil_prefix
    | cons a mark =>
      obtain ⟨rfl, -⟩ := List.cons_prefix_cons.1 h
      exact absurd List.mem_cons_self (hmark _ List.mem_cons_self)
  | cons b s ih =>
    cases mark with
    | nil => exact List.nil_prefix
    | cons a mark =>
      rw [doubleEach_cons] at h
      split at h
      · rename_i hb
        obtain ⟨rfl, -⟩ := List.cons_prefix_cons.1 h
        exact absurd (List.mem_cons_of_mem _ hb) (hmark _ List.mem_cons_self)
      · obtain ⟨rfl, htail⟩ := List.cons_prefix_cons.1 h
        exact List.cons_prefix_cons.2 ⟨rfl, ih (fun x hx => hmark x (List.mem_cons_of_mem _ hx)) htail⟩

/-- Doubling characters that occur in no mark, and closing the text with one, makes no mark. -/
theorem FreeOf.doubleEach_append (h : FreeOf marks s) (hmarks : [] ∉ marks)
    (hqs : ∀ q ∈ closing :: qs, ∀ mark ∈ marks, q ∉ mark) : FreeOf marks (s.doubleEach qs ++ [closing]) := by
  induction s with
  | nil => exact (freeOf_nil hmarks).cons hmarks (hqs closing List.mem_cons_self)
  | cons b s ih =>
    have hrest := ih (h.of_suffix (List.suffix_cons b s))
    rw [doubleEach_cons]
    split
    · rename_i hb
      have hoff := hqs b (List.mem_cons_of_mem _ hb)
      exact (hrest.cons hmarks hoff).cons hmarks hoff
    · rename_i hb
      intro mark hmark hoccurs
      rcases List.infix_cons_iff.1 hoccurs with hbegins | hoccurs
      · have heach : doubleEach qs (b :: s) = b :: doubleEach qs s := by rw [doubleEach_cons, if_neg hb]; rfl
        have hinert : ∀ a ∈ mark, a ∉ closing :: qs := fun a ha hmem => hqs a hmem mark hmark ha
        refine h mark hmark (List.IsPrefix.isInfix (prefix_of_prefix_doubleEach_append hinert ?_))
        rw [heach]
        exact hbegins
      · exact hrest mark hmark hoccurs

end Text

/-! ## Lexemes that are no comments -/

/-- Lexemes among which there is no comment stay as they are. -/
theorem flatMap_withoutComment_eq {ls : List Lexeme} (h : ∀ l ∈ ls, l.kind ≠ .comment) :
    ls.flatMap Lexeme.withoutComment = ls.flatMap Lexeme.text :=
  List.flatMap_congr fun l hl => Lexeme.withoutComment_of_ne (h l hl)

namespace Cursor

variable {c d : Cursor}

/-- A comment begins with one of the marks. -/
theorem exists_mark_prefix_upTo (h : c.next? = some (.comment, d)) : ∃ mark ∈ commentMarks, mark <+: c.upTo d := by
  have hbegins {mark u : Text} {e : Cursor} (hmark : c.Passes mark e) (hu : e.Passes u d) : mark <+: c.upTo d := by
    rw [(hmark.append hu).upTo_eq]
    exact List.prefix_append mark u
  rcases comment_cases h with ⟨-, e, he, hd⟩ | ⟨r, hr, hk, hlead⟩
  · obtain ⟨f, hmark, hplus⟩ := Pattern.leads_of_end? he
    have hpass := (Pattern.leads_iff_passes (u := ['/', '*']) (by decide)).1 hmark
    obtain ⟨u, hu⟩ := Pattern.exists_passes_of_leads hplus
    obtain ⟨v, hv⟩ := exists_passes_of_behind? hd
    exact ⟨['/', '*'], by decide, hbegins hpass (hu.append hv)⟩
  · obtain ⟨e, u, hmark, hu⟩ := Rule.exists_mark_of_leads_comment hr hk hlead
    rcases Rule.lineCommentMark_leads_iff.1 hmark with hpass | hpass
    · exact ⟨['-', '-'], by decide, hbegins hpass hu⟩
    · exact ⟨['#', ' '], by decide, hbegins hpass hu⟩

/-- A comment is longer than what it leaves. -/
theorem length_withoutComment_lt (h : c.next? = some (.comment, d)) :
    (Lexeme.withoutComment ⟨.comment, c.upTo d⟩).length < (c.upTo d).length := by
  obtain ⟨mark, hmark, hbegins⟩ := exists_mark_prefix_upTo h
  have hlength : mark.length = 2 := by
    rcases mem_commentMarks_iff.1 hmark with rfl | rfl | rfl
    · rfl
    · rfl
    · rfl
  obtain ⟨b, hleft, -⟩ := Lexeme.exists_withoutComment_of_comment (c.upTo d)
  rw [hleft, List.length_singleton]
  exact Nat.lt_of_lt_of_le (by omega) hbegins.length_le

theorem exists_mark_of_comment (h : c.next? = some (.comment, d)) : ∃ mark ∈ commentMarks, mark <+: c.ahead := by
  obtain ⟨mark, hmark, hbegins⟩ := exists_mark_prefix_upTo h
  exact ⟨mark, hmark, hbegins.trans (List.take_prefix _ _)⟩

/-- What begins with a character that is in no mark is no comment. -/
theorem kind_ne_comment_of_notMem {k : LexemeKind} {a : Char} {s : Text} (ha : ∀ mark ∈ commentMarks, a ∉ mark)
    (hc : c.ahead = a :: s) (h : c.next? = some (k, d)) : k ≠ .comment := by
  rintro rfl
  obtain ⟨mark, hmark, hbegins⟩ := exists_mark_of_comment h
  have hnot := ha mark hmark
  rw [hc] at hbegins
  cases mark with
  | nil => revert hmark; decide
  | cons b mark =>
    obtain ⟨rfl, -⟩ := List.cons_prefix_cons.1 hbegins
    exact hnot List.mem_cons_self

/-- In a text that is free of marks there are no comments. -/
theorem kind_ne_comment_of_freeOf (h : Text.FreeOf commentMarks c.ahead) :
    ∀ l ∈ c.lexemes, l.kind ≠ .comment := by
  fun_induction lexemes c with
  | case1 c hnext =>
    intro l hl
    cases hl
  | case2 c k d hnext ih =>
    obtain ⟨n, rfl⟩ := exists_skip_of_next? hnext
    have hsuffix : (c.skip n).ahead <:+ c.ahead := by
      rw [ahead_skip]
      exact List.drop_suffix n c.ahead
    rw [List.forall_mem_cons]
    refine ⟨?_, ih (h.of_suffix hsuffix)⟩
    rintro rfl
    obtain ⟨mark, hmark, hbegins⟩ := exists_mark_of_comment hnext
    exact h mark hmark hbegins.isInfix

/-- Taking comments out leaves no more than there was. -/
theorem length_flatMap_withoutComment_le (c : Cursor) :
    (c.lexemes.flatMap Lexeme.withoutComment).length ≤ c.ahead.length := by
  fun_induction lexemes c with
  | case1 => exact Nat.zero_le _
  | case2 c k d hnext ih =>
    have hsplit := congrArg List.length (exists_passes_of_next? hnext).1
    rw [List.length_append] at hsplit
    rw [List.flatMap_cons, List.length_append]
    by_cases hk : k = .comment
    · subst hk
      have hlt := length_withoutComment_lt hnext
      omega
    · rw [Lexeme.withoutComment_of_ne hk]
      omega

/-- Where as much is left as there was, there is no comment. -/
theorem kind_ne_comment_of_length_le (h : c.ahead.length ≤ (c.lexemes.flatMap Lexeme.withoutComment).length) :
    ∀ l ∈ c.lexemes, l.kind ≠ .comment := by
  fun_induction lexemes c with
  | case1 c hnext =>
    intro l hl
    cases hl
  | case2 c k d hnext ih =>
    have hsplit := congrArg List.length (exists_passes_of_next? hnext).1
    have hle := length_flatMap_withoutComment_le d
    rw [List.length_append] at hsplit
    rw [List.flatMap_cons, List.length_append] at h
    have hk : k ≠ .comment := by
      rintro rfl
      have hlt := length_withoutComment_lt hnext
      omega
    rw [Lexeme.withoutComment_of_ne hk] at h
    exact List.forall_mem_cons.2 ⟨hk, ih (by omega)⟩

/-- Taking comments out of a text that is free of marks leaves it as it is. -/
theorem flatMap_withoutComment_of_freeOf (h : Text.FreeOf commentMarks c.ahead) :
    c.lexemes.flatMap Lexeme.withoutComment = c.ahead := by
  rw [flatMap_withoutComment_eq (kind_ne_comment_of_freeOf h), flatMap_text_lexemes]

/-- So does taking them out of a text that begins with something else and is free of marks behind it. -/
theorem flatMap_withoutComment_of_next? {k : LexemeKind} (hnext : c.next? = some (k, d)) (hk : k ≠ .comment)
    (h : Text.FreeOf commentMarks d.ahead) : c.lexemes.flatMap Lexeme.withoutComment = c.ahead := by
  have hkinds : ∀ l ∈ c.lexemes, l.kind ≠ .comment := by
    rw [lexemes_eq_cons hnext, List.forall_mem_cons]
    exact ⟨hk, kind_ne_comment_of_freeOf h⟩
  rw [flatMap_withoutComment_eq hkinds, flatMap_text_lexemes]

end Cursor

end SqlDialects
