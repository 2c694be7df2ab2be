/-
Reading again what is left of a statement without its comments. The blanks in place of the comments make no new
comment at the beginning: a mark there has been there before, and a hash sign with a comment right behind it belongs
to an operator. So if the first lexeme of a statement is no blank and no comment, the first of what is left is not
either (`Cursor.kind_of_prefix_withoutComment`).
-/
import SqlDialects.Proofs.Statement.Cut

namespace SqlDialects

/-! ## Marks that begin comments -/

namespace Rule

open Cursor Pattern

/-- From every place there is a way to the end of the line. -/
theorem exists_leads_restOfLine (c : Cursor) : ∃ d, restOfLine.Leads c d := by
  have hahead := (List.takeWhile_append_dropWhile (p := CharClass.inLine.holds) (l := c.ahead)).symm
  have hstop := List.head?_dropWhile_not CharClass.inLine.holds c.ahead
  have hpass := passes_skip hahead
  generalize c.skip (c.ahead.takeWhile CharClass.inLine.holds).length = e at hpass
  have hline : (few (one .inLine)).Leads c e :=
    leads_many_one_iff.2 ⟨_, fun a ha => List.mem_takeWhile_imp ha, hpass⟩
  rw [← hpass.ahead_eq hahead] at hstop
  obtain ⟨x, _ | ⟨a, s⟩⟩ := e
  · exact ⟨_, _, hline, .inr ⟨rfl, .inl rfl⟩⟩
  · obtain rfl : a = '\n' := by simpa [CharClass.inLine, CharClass.holds] using hstop
    exact ⟨_, _, hline, .inl (leads_lineEnd_iff.2 (.inr (.inr ⟨rfl, rfl⟩)))⟩

/-- The rule for runs of operators. -/
def operatorRun : Rule := ⟨.other, several (one (.oneOf ['+', '/', '@', '#', '%', '^', '&', '|', '-']))⟩

theorem operatorRun_mem_all : operatorRun ∈ all := by decide

end Rule

/-- What is known of a place in front of a hash sign and one of the characters that begin comments. -/
def Outline.ofHash : Outline where
  previous := .anything
  ahead := [.among ['#'], .among ['-', '#', '/']]

theorem Rule.reach_ofHash : ∀ r ∈ all, r = operatorRun ∨ 1 ∉ Outline.ofHash.reach r.pattern 0 := by decide

namespace Cursor

variable {c d : Cursor} {k : LexemeKind} {a : Char} {s : Text}

/-- The marks of line comments begin comments wherever a lexeme begins. -/
theorem exists_next?_of_lineCommentMark (h : ['-', '-'] <+: c.ahead ∨ ['#', ' '] <+: c.ahead) :
    ∃ d, c.next? = some (.comment, d) := by
  obtain ⟨a, s, e, hahead, ha, hmark⟩ :
      ∃ a s e, c.ahead = a :: s ∧ a ∈ ['-', '#'] ∧ Rule.lineCommentMark.Leads c e := by
    rcases h with ⟨s, hs⟩ | ⟨s, hs⟩
    · exact ⟨_, _, _, hs.symm, by decide, Rule.lineCommentMark_leads_iff.2 (.inl (passes_skip hs.symm))⟩
    · exact ⟨_, _, _, hs.symm, by decide, Rule.lineCommentMark_leads_iff.2 (.inr (passes_skip hs.symm))⟩
  obtain ⟨f, hline⟩ := Rule.exists_leads_restOfLine e
  obtain ⟨g, hg⟩ := Pattern.exists_end?_of_leads (p := Rule.lineComment.pattern) ⟨e, hmark, hline⟩
  obtain ⟨k, d, hrule, rfl⟩ : ∃ k d, c.byRule? = some (k, d) ∧ k = .comment := by
    refine exists_byRule? (P := fun k _ => k = .comment) Rule.lineComment_mem_all (fun r hr d _ => ?_) ⟨g, hg, rfl⟩
    rw [Rule.before_lineComment] at hr
    rw [List.mem_singleton.1 hr]
  exact ⟨d, next?_of_byRule? (by rw [hahead]; exact List.cons_ne_nil a s) (span?_of_lineCommentMark hahead ha) hrule⟩

/-- In front of a character that begins comments, a hash sign is no lexeme by itself. -/
theorem upTo_ne_hash (hc : c.ahead = '#' :: a :: s) (ha : a ∈ ['-', '#', '/']) (hnext : c.next? = some (k, d)) :
    c.upTo d ≠ ['#'] := by
  intro hupTo
  have hpass := exists_passes_of_next? hnext
  rw [hupTo] at hpass
  have hstays : d.ahead = a :: s := hpass.ahead_eq (s := a :: s) hc
  have hfits : Outline.ofHash.Fits c := by
    refine ⟨trivial, fun i sight hi => ?_⟩
    rw [hc]
    match i with
    | 0 => exact Option.some.inj hi ▸ ⟨'#', by simp, rfl⟩
    | 1 => exact Option.some.inj hi ▸ ⟨a, ha, rfl⟩
    | i + 2 => cases hi
  have hspan : c.span? = none := span?_of_lineCommentMark hc (by decide)
  rcases next?_cases hnext with hsome | ⟨-, ⟨r, hr, -, hd⟩ | ⟨hnone, -⟩⟩
  · rw [span?_of_lineCommentMark hc (by decide)] at hsome
    cases hsome
  · rcases Rule.reach_ofHash r hr with rfl | hreach
    · -- a run of operators would go on
      have hgreedy := Pattern.ahead_of_end?_append_many_one hd
      rw [hstays, List.head?_cons, Option.any_some] at hgreedy
      simp only [List.mem_cons, List.not_mem_nil, or_false] at ha
      rcases ha with rfl | rfl | rfl <;> cases hgreedy
    · obtain ⟨i, -, hi, hskip, hmem⟩ := Outline.covers_reach hfits (Nat.zero_le _)
        (by rw [skip_zero]; exact Pattern.leads_of_end? hd)
      have hlength := congrArg List.length hstays
      rw [hskip, ahead_skip, List.length_drop, hc, List.length_cons, List.length_cons] at hlength
      rw [hc, List.length_cons, List.length_cons] at hi
      obtain rfl : i = 1 := by omega
      exact hreach hmem
  · have hone : Rule.operatorRun.pattern.Leads c d :=
      Pattern.leads_several_one_iff.2 ⟨['#'], by simp, List.forall_mem_singleton.2 rfl, hpass⟩
    obtain ⟨e, he⟩ := Pattern.exists_end?_of_leads hone
    have hnot := List.findSome?_eq_none_iff.1 hnone _ Rule.operatorRun_mem_all
    rw [he] at hnot
    cases hnot

/-- Where a block comment begins and is closed further on, the lexer takes it for one. -/
theorem exists_next?_of_blockComment (hc : c.ahead = '/' :: '*' :: s) (hclosed : ['*', '/'] <:+: s) :
    ∃ d, c.next? = some (.comment, d) := by
  obtain ⟨n, hn⟩ := Text.exists_endOfFirst?_of_infix hclosed
  exact ⟨_, next?_blockComment hc hn⟩

/-- A comment that begins with the mark of block comments is closed further on. -/
theorem closed_of_blockComment (hc : c.ahead = '/' :: '*' :: s) (hnext : c.next? = some (.comment, d)) :
    ['*', '/'] <:+: s := by
  rcases comment_cases hnext with ⟨-, e, he, hd⟩ | ⟨r, hr, hk, hlead⟩
  · obtain ⟨x, _⟩ := c
    obtain rfl := hc
    obtain ⟨e', he', hbehind⟩ := behind?_opener (x := x) (r := s)
    obtain rfl := Option.some.inj (he.symm.trans he')
    rw [hbehind] at hd
    obtain ⟨n, hn, -⟩ := Option.map_eq_some_iff.1 hd
    obtain ⟨u, v, hs, -⟩ := Text.eq_append_of_endOfFirst? hn
    exact ⟨u, v, hs.symm⟩
  · obtain ⟨e, -, hmark, -⟩ := Rule.exists_mark_of_leads_comment hr hk hlead
    rcases Rule.lineCommentMark_leads_iff.1 hmark with hpass | hpass
    · exact absurd (List.cons_eq_cons.1 (hc.symm.trans hpass.1)).1 (by decide)
    · exact absurd (List.cons_eq_cons.1 (hc.symm.trans hpass.1)).1 (by decide)

/-- A lexeme of a single hash sign has nothing behind it that leaves a space. -/
theorem not_hash_space {y : Text} (hnext : c.next? = some (k, d)) (hk : k ≠ .comment)
    (hnot : ∀ e, c.next? ≠ some (.comment, e)) :
    c.lexemes.flatMap Lexeme.withoutComment ≠ '#' :: ' ' :: y := by
  intro hleft
  have hspace (hbegins : ['#', ' '] <+: c.ahead) : False := by
    obtain ⟨e, he⟩ := exists_next?_of_lineCommentMark (.inr hbegins)
    exact hnot e he
  obtain ⟨a, s, hc⟩ := exists_cons_of_next? hnext
  obtain ⟨u, hupTo⟩ := exists_upTo_eq_cons hnext hc
  have hpass := exists_passes_of_next? hnext
  rw [flatMap_withoutComment_of_ne hnext hk, hupTo] at hleft
  rw [hupTo] at hpass
  obtain ⟨rfl, hrest⟩ := List.cons_eq_cons.1 hleft
  cases u with
  | nil =>
    -- the space is there in the text, or a comment begins right behind the hash sign
    have hblanked := d.blanked_lexemes
    rw [show d.lexemes.flatMap Lexeme.withoutComment = ' ' :: y from hrest] at hblanked
    rcases hblanked.cases_cons with ⟨s', hs', -⟩ | ⟨-, mark, hmark, z, hz⟩
    · exact hspace ⟨s', by rw [hpass.1, hs']; rfl⟩
    · obtain ⟨a, s, hs, ha⟩ : ∃ a s, d.ahead = a :: s ∧ a ∈ ['-', '#', '/'] := by
        rw [← hz]
        rcases mem_commentMarks_iff.1 hmark with rfl | rfl | rfl
        · exact ⟨_, _, rfl, by decide⟩
        · exact ⟨_, _, rfl, by decide⟩
        · exact ⟨_, _, rfl, by decide⟩
      exact upTo_ne_hash (by rw [hpass.1, hs]; rfl) ha hnext hupTo
  | cons b u =>
    obtain ⟨rfl, -⟩ := List.cons_eq_cons.1 hrest
    exact hspace ⟨u ++ d.ahead, hpass.1.symm⟩

theorem isBlank_eq_false_of_next? (hnext : c.next? = some (k, d)) (hk : k ≠ .blank) (hc : c.ahead = a :: s) :
    Character.isBlank a = false := by
  obtain ⟨x, _⟩ := c
  obtain rfl := hc
  by_contra hblank
  obtain ⟨_, e, he, -⟩ := next?_blank (x := x) (s := s) (Bool.eq_true_of_not_eq_false hblank)
  exact hk (next?_unique hnext he).1

/-- If the first lexeme is no blank and no comment, what is left without comments does not begin with one either. -/
theorem kind_of_prefix_withoutComment {X : Text} {k' : LexemeKind} {d' : Cursor} (hnext : c.next? = some (k, d))
    (hk : k ≠ .blank ∧ k ≠ .comment) (hX : X <+: c.lexemes.flatMap Lexeme.withoutComment)
    (hnext' : (start X).next? = some (k', d')) : k' ≠ .blank ∧ k' ≠ .comment := by
  have hnot : ∀ kind, kind ≠ k → ∀ e, c.next? ≠ some (kind, e) := by
    intro kind hkind e he
    exact hkind (next?_unique he hnext).1
  obtain ⟨y, hy⟩ := hX
  have hblanked := c.blanked_lexemes
  rw [← hy] at hblanked
  constructor
  · rintro rfl
    -- the first character is the same in the text
    obtain ⟨a, s, hc⟩ := exists_cons_of_next? hnext
    obtain ⟨v, hv⟩ := exists_left_of_next? hnext hk.2 hc
    cases X with
    | nil => cases hnext'
    | cons b X =>
      obtain ⟨rfl, -⟩ := List.cons_eq_cons.1 (hy.trans hv)
      have hfirst := isBlank_eq_false_of_next? hnext hk.1 hc
      rw [isBlank_of_next? rfl hnext'] at hfirst
      cases hfirst
  · rintro rfl
    obtain ⟨mark, hmark, z, rfl⟩ := exists_mark_of_comment hnext'
    rcases mem_commentMarks_iff.1 hmark with rfl | rfl | rfl
    · obtain ⟨s, hs, -⟩ := Text.Blanked.exists_append (u := ['-', '-']) (by decide) hblanked
      obtain ⟨e, he⟩ := exists_next?_of_lineCommentMark (c := c) (.inl ⟨s, hs.symm⟩)
      exact hnot .comment hk.2.symm e he
    · exact not_hash_space hnext hk.2 (hnot .comment hk.2.symm) hy.symm
    · have hclosed := closed_of_blockComment (s := z) rfl hnext'
      obtain ⟨s, hs, hrest⟩ := Text.Blanked.exists_append (u := ['/', '*']) (by decide) hblanked
      obtain ⟨e, he⟩ := exists_next?_of_blockComment hs
        (hrest.isInfix (by decide) (hclosed.trans (List.prefix_append z y).isInfix))
      exact hnot .comment hk.2.symm e he

end Cursor

end SqlDialects
