/-
Where the lexer takes a quoted text to end. Between apostrophes and between double quotation marks it passes
over a doubled mark, and over one behind a backslash as well: so a text in which the marks have been doubled
ends at its last character, unless a backslash stands in front of a mark
(`Rule.exists_end?_betweenEscaped`). Between backticks it ends at the first mark that is in no pair
(`Rule.exists_end?_betweenDoubled`), and between brackets at the first bracket (`Rule.end?_bracketed`).
-/
import SqlDialects.Proofs.Statement.Filler
import SqlDialects.Proofs.Statement.Comment.Mark
import SqlDialects.Proofs.Text.Quotation

namespace SqlDialects

open Cursor

/-! ## Steps between two marks -/

namespace Pattern

variable {p step : Pattern} {q a : Char} {x : Option Char} {c d : Cursor} {s t u : Text}

/-- The pattern passes over two marks at once, and over no single one. -/
structure TakesPairs (step : Pattern) (q : Char) : Prop where
  consumes : step.consumes = true
  nil : ∀ x, step.ends ⟨x, []⟩ = []
  pair : ∀ x s, step.ends ⟨x, q :: q :: s⟩ = [⟨some q, s⟩]
  single : ∀ x {s : Text}, s.head? ≠ some q → step.ends ⟨x, q :: s⟩ = []

/-- The way to the closing mark. -/
def upToMark (step : Pattern) (q : Char) : Pattern := many step ++ one (.exactly q)

theorem end?_one_exactly (q : Char) (x : Option Char) (s : Text) :
    (one (.exactly q)).end? ⟨x, q :: s⟩ = some ⟨some q, s⟩ := by
  simp [end?, ends, CharClass.holds]

/-- Behind the opening mark the way to the closing one begins. -/
theorem end?_between (step : Pattern) (q : Char) (x : Option Char) (s : Text) :
    (one (.exactly q) ++ many step ++ one (.exactly q)).end? ⟨x, q :: s⟩ =
      (upToMark step q).end? ⟨some q, s⟩ := by
  have hopening : (one (.exactly q)).ends ⟨x, q :: s⟩ = [⟨some q, s⟩] := by simp [ends, CharClass.holds]
  show ((((one (.exactly q)).ends ⟨x, q :: s⟩).flatMap fun d => (many step).ends d).flatMap fun d =>
    (one (.exactly q)).ends d).head? = _
  rw [hopening, List.flatMap_singleton]
  rfl

namespace TakesPairs

variable (h : step.TakesPairs q)

include h

theorem end?_nil : (upToMark step q).end? ⟨x, []⟩ = none := by
  rw [upToMark, end?_many_append h.consumes, h.nil]
  rfl

/-- If the rest does not close behind a pair, its first mark closes. -/
theorem end?_pair : (upToMark step q).end? ⟨x, q :: q :: s⟩ =
    ((upToMark step q).end? ⟨some q, s⟩).or (some ⟨some q, q :: s⟩) := by
  rw [upToMark, end?_many_append h.consumes, h.pair, end?_one_exactly, List.findSome?_singleton]

/-- A mark that is in no pair closes. -/
theorem end?_single (hs : s.head? ≠ some q) : (upToMark step q).end? ⟨x, q :: s⟩ = some ⟨some q, s⟩ := by
  rw [upToMark, end?_many_append h.consumes, h.single x hs, end?_one_exactly]
  rfl

/-- Where a mark is, the text can be closed. -/
theorem exists_end?_mark (s : Text) : ∃ d, (upToMark step q).end? ⟨x, q :: s⟩ = some d := by
  by_cases hs : s.head? = some q
  · obtain ⟨t, rfl⟩ := List.head?_eq_some_iff.1 hs
    rw [h.end?_pair]
    cases (upToMark step q).end? ⟨some q, t⟩ with
    | none => exact ⟨_, rfl⟩
    | some d => exact ⟨d, rfl⟩
  · exact ⟨_, h.end?_single hs⟩

/-- A character that the pattern passes over by itself changes nothing. -/
theorem end?_other (ha : a ≠ q) (hstep : step.ends ⟨x, a :: s⟩ = [⟨some a, s⟩]) :
    (upToMark step q).end? ⟨x, a :: s⟩ = (upToMark step q).end? ⟨some a, s⟩ := by
  have hnot : (one (.exactly q)).end? ⟨x, a :: s⟩ = none := by simp [end?, ends, CharClass.holds, ha]
  rw [upToMark, end?_many_append h.consumes, hstep, hnot, List.findSome?_singleton, Option.or_none]

end TakesPairs

end Pattern

/-! ## Doubled marks and marks behind a backslash -/

namespace Rule

open Pattern

variable {q a : Char} {x : Option Char} {d : Cursor} {qs : List Char} {s t u : Text}

/-- One step between marks that may stand behind a backslash. -/
def escapedStep (q : Char) : Pattern :=
  (one (.exactly q) ++ one (.exactly q)) <|> (one (.exactly '\\') ++ one (.exactly q)) <|> one (.noneOf [q])

theorem takesPairs_escapedStep (hq : q ≠ '\\') : (escapedStep q).TakesPairs q where
  consumes := rfl
  nil x := rfl
  pair x s := by simp [escapedStep, ends, CharClass.holds, hq]
  single x s hs := by
    cases s with
    | nil => simp [escapedStep, ends, CharClass.holds, hq]
    | cons b s =>
      have hb : b ≠ q := by simpa using hs
      simp [escapedStep, ends, CharClass.holds, hq, hb]

theorem ends_escapedStep_other (ha : a ≠ q) (hback : a = '\\' → s.head? ≠ some q) :
    (escapedStep q).ends ⟨x, a :: s⟩ = [⟨some a, s⟩] := by
  by_cases hslash : a = '\\'
  · have hs := hback hslash
    subst hslash
    cases s with
    | nil => simp [escapedStep, ends, CharClass.holds, ha]
    | cons b s =>
      have hb : b ≠ q := by simpa using hs
      simp [escapedStep, ends, CharClass.holds, ha, hb]
  · simp [escapedStep, ends, CharClass.holds, ha, hslash]

/-- A mark behind a backslash is passed over if the rest closes then, and closes otherwise. -/
theorem end?_escaped_backslash (hq : q ≠ '\\') :
    (upToMark (escapedStep q) q).end? ⟨x, '\\' :: q :: s⟩ =
      ((upToMark (escapedStep q) q).end? ⟨some q, s⟩).or
        ((upToMark (escapedStep q) q).end? ⟨some '\\', q :: s⟩) := by
  have hstep : (escapedStep q).ends ⟨x, '\\' :: q :: s⟩ = [⟨some q, s⟩, ⟨some '\\', q :: s⟩] := by
    simp [escapedStep, ends, CharClass.holds, Ne.symm hq]
  have hnot : (one (.exactly q)).end? ⟨x, '\\' :: q :: s⟩ = none := by
    simp [end?, ends, CharClass.holds, Ne.symm hq]
  rw [upToMark, end?_many_append rfl, hstep, hnot, Option.or_none, List.findSome?_cons, List.findSome?_singleton]
  cases (many (escapedStep q) ++ one (.exactly q)).end? ⟨some q, s⟩ with
  | none => rfl
  | some d => rfl

/-- The lexer takes the text, with doubled characters and closed by the mark, to end at its last character, or
further to the front, behind a mark that stands behind a backslash. -/
def StopsBehind (q : Char) (qs : List Char) (s : Text) (d : Cursor) : Prop :=
  d.ahead = [] ∨ ∃ u v : Text, s = u ++ '\\' :: q :: v ∧ d.ahead <:+ q :: (Text.doubleEach qs v ++ [q])

theorem StopsBehind.cons (h : StopsBehind q qs s d) (a : Char) : StopsBehind q qs (a :: s) d := by
  rcases h with hnil | ⟨u, v, rfl, hsuffix⟩
  · exact .inl hnil
  · exact .inr ⟨a :: u, v, rfl, hsuffix⟩

/-- The first character of a text with doubled characters is its own. -/
theorem head?_doubleEach_append (qs : List Char) (q : Char) (s : Text) :
    (Text.doubleEach qs s ++ [q]).head? = some (s.head?.getD q) := by
  cases s with
  | nil => rfl
  | cons a s =>
    rw [Text.doubleEach_cons]
    split <;> rfl

/-- A character other than the mark leads on, and a backslash over the mark behind it. -/
theorem exists_end?_other (hq : q ≠ '\\') (hqs : q ∈ qs) (ha : a ≠ q)
    (ih : ∀ x, ∃ d, (upToMark (escapedStep q) q).end? ⟨x, Text.doubleEach qs s ++ [q]⟩ = some d ∧ StopsBehind q qs s d) :
    ∃ d, (upToMark (escapedStep q) q).end? ⟨x, a :: (Text.doubleEach qs s ++ [q])⟩ = some d ∧
      StopsBehind q qs (a :: s) d := by
  have hpairs := takesPairs_escapedStep hq
  by_cases hback : a = '\\' → (Text.doubleEach qs s ++ [q]).head? ≠ some q
  · obtain ⟨d, hd, hstops⟩ := ih (some a)
    exact ⟨d, (hpairs.end?_other ha (ends_escapedStep_other ha hback)).trans hd, hstops.cons a⟩
  · rw [Classical.not_imp, not_not, head?_doubleEach_append, Option.some_inj] at hback
    obtain ⟨rfl, hmark⟩ := hback
    cases s with
    | nil =>
      -- the mark behind the backslash is the last character, so it closes after all
      refine ⟨⟨some q, []⟩, ?_, .inl rfl⟩
      show (upToMark (escapedStep q) q).end? ⟨x, '\\' :: q :: []⟩ = _
      rw [end?_escaped_backslash hq, hpairs.end?_nil, Option.none_or, hpairs.end?_single (by simp)]
    | cons b s =>
      obtain rfl : b = q := hmark
      have htext : Text.doubleEach qs (b :: s) ++ [b] = b :: b :: (Text.doubleEach qs s ++ [b]) := by
        rw [Text.doubleEach_cons, if_pos hqs]
        rfl
      obtain ⟨d, hd⟩ := hpairs.exists_end?_mark (x := some b) (Text.doubleEach qs s ++ [b])
      refine ⟨d, ?_, .inr ⟨[], s, rfl, ?_⟩⟩
      · rw [htext, end?_escaped_backslash hq, hd, Option.some_or]
      · obtain ⟨n, rfl⟩ := exists_skip_of_end? hd
        rw [ahead_skip]
        exact List.drop_suffix n _

/-- Doubled marks are passed over, and the closing one closes, unless a backslash stands before a mark. -/
theorem exists_end?_upToMark (hq : q ≠ '\\') (hqs : q ∈ qs) (s : Text) (x : Option Char) :
    ∃ d, (upToMark (escapedStep q) q).end? ⟨x, Text.doubleEach qs s ++ [q]⟩ = some d ∧ StopsBehind q qs s d := by
  have hpairs := takesPairs_escapedStep hq
  induction s generalizing x with
  | nil => exact ⟨⟨some q, []⟩, hpairs.end?_single (by simp), .inl rfl⟩
  | cons a s ih =>
    by_cases ha : a = q
    · subst ha
      obtain ⟨d, hd, hstops⟩ := ih (some a)
      refine ⟨d, ?_, hstops.cons a⟩
      rw [Text.doubleEach_cons, if_pos hqs, List.append_assoc]
      show (upToMark (escapedStep a) a).end? ⟨x, a :: a :: (Text.doubleEach qs s ++ [a])⟩ = some d
      rw [hpairs.end?_pair, hd, Option.some_or]
    · have hsingle := fun x => exists_end?_other (x := x) hq hqs ha ih
      rw [Text.doubleEach_cons, List.append_assoc]
      split
      · -- the first of two copies has no mark behind it
        obtain ⟨d, hd, hstops⟩ := hsingle (some a)
        refine ⟨d, ?_, hstops⟩
        have hnext : (a :: (Text.doubleEach qs s ++ [q])).head? ≠ some q := by simpa using ha
        exact (hpairs.end?_other ha (ends_escapedStep_other ha fun _ => hnext)).trans hd
      · exact hsingle x

theorem exists_end?_betweenEscaped (hq : q ≠ '\\') (hqs : q ∈ qs) (s : Text) (x : Option Char) :
    ∃ d, (betweenEscaped q).end? ⟨x, q :: (Text.doubleEach qs s ++ [q])⟩ = some d ∧ StopsBehind q qs s d := by
  obtain ⟨d, hd, hstops⟩ := exists_end?_upToMark hq hqs s (some q)
  exact ⟨d, (end?_between (escapedStep q) q x _).trans hd, hstops⟩

/-! ## Marks in pairs -/

/-- One step between marks that may only be doubled. -/
def doubledStep (q : Char) : Pattern := (one (.exactly q) ++ one (.exactly q)) <|> one (.noneOf [q])

theorem takesPairs_doubledStep (q : Char) : (doubledStep q).TakesPairs q where
  consumes := rfl
  nil x := rfl
  pair x s := by simp [doubledStep, ends, CharClass.holds]
  single x s hs := by
    cases s with
    | nil => simp [doubledStep, ends, CharClass.holds]
    | cons b s =>
      have hb : b ≠ q := by simpa using hs
      simp [doubledStep, ends, CharClass.holds, hb]

theorem ends_doubledStep_other (ha : a ≠ q) : (doubledStep q).ends ⟨x, a :: s⟩ = [⟨some a, s⟩] := by
  simp [doubledStep, ends, CharClass.holds, ha]

/-- A text that has its marks in pairs is passed over if what follows it can be closed. -/
theorem exists_end?_inPairs (hu : Text.InPairs q u) (x : Option Char) :
    ∃ y, ∀ t d, (upToMark (doubledStep q) q).end? ⟨y, t⟩ = some d →
      (upToMark (doubledStep q) q).end? ⟨x, u ++ t⟩ = some d := by
  have hpairs := takesPairs_doubledStep q
  induction hu generalizing x with
  | nil => exact ⟨x, fun t d hd => hd⟩
  | pair _ ih =>
    obtain ⟨y, hy⟩ := ih (some q)
    refine ⟨y, fun t d hd => ?_⟩
    rw [List.cons_append, List.cons_append, hpairs.end?_pair, hy t d hd, Option.some_or]
  | other ha _ ih =>
    obtain ⟨y, hy⟩ := ih (some _)
    refine ⟨y, fun t d hd => ?_⟩
    rw [List.cons_append, hpairs.end?_other ha (ends_doubledStep_other ha), hy t d hd]

/-- A text closed by the mark ends at its last character, or at the first mark that is in no pair. -/
theorem exists_end?_betweenDoubled (q : Char) (s : Text) (x : Option Char) :
    ∃ d, (betweenDoubled q).end? ⟨x, q :: (s ++ [q])⟩ = some d ∧
      (d.ahead = [] ∨
        ∃ u v, s = u ++ q :: v ∧ Text.InPairs q u ∧ v.head? ≠ some q ∧ d.ahead = v ++ [q]) := by
  have hpairs := takesPairs_doubledStep q
  have hbetween := end?_between (doubledStep q) q x (s ++ [q])
  rcases Text.inPairs_or_exists q s with hs | ⟨u, v, rfl, hu, hv⟩
  · obtain ⟨y, hy⟩ := exists_end?_inPairs hs (some q)
    exact ⟨_, hbetween.trans (hy _ _ (hpairs.end?_single (by simp))), .inl rfl⟩
  · obtain ⟨y, hy⟩ := exists_end?_inPairs hu (some q)
    refine ⟨⟨some q, v ++ [q]⟩, hbetween.trans ?_, .inr ⟨u, v, rfl, hu, hv, rfl⟩⟩
    rw [List.append_assoc]
    refine hy _ _ ?_
    cases v with
    | nil =>
      -- the last character cannot be the second of a pair, as nothing would close the text
      show (upToMark (doubledStep q) q).end? ⟨y, q :: q :: []⟩ = _
      rw [hpairs.end?_pair, hpairs.end?_nil, Option.none_or]
      rfl
    | cons b v => exact hpairs.end?_single hv

/-! ## Brackets -/

/-- The rule for names between brackets. -/
def bracketed : Rule :=
  ⟨.name, notBehind (.either .wordChar (.oneOf [']', ')'])) ++ "[" ++ several (one (.noneOf [']', '['])) ++ "]"⟩

/-- A name between brackets ends at the first bracket if that is a closing one and not the first character. -/
theorem end?_bracketed {c : Cursor} (hc : c.Detached) (hahead : c.ahead = '[' :: (u ++ ']' :: t)) (hne : u ≠ [])
    (hu : ∀ a ∈ u, a ∉ [']', '[']) : ∃ d, bracketed.pattern.end? c = some d ∧ d.ahead = t := by
  have hclass : ∀ a ∈ u, (CharClass.noneOf [']', '[']).holds a = true := fun a ha => by
    simpa [CharClass.holds] using hu a ha
  have hall : c.ahead = (['['] ++ u ++ [']']) ++ t := by simp [hahead]
  obtain ⟨f, hpass, hlast⟩ := passes_append_iff.1 (passes_skip hall)
  obtain ⟨e, hfirst, hinside⟩ := passes_append_iff.1 hpass
  refine ⟨_, end?_of_unique ?_ ?_, (passes_skip hall).ahead_eq hall⟩
  · refine ⟨f, ⟨e, ⟨c, ⟨rfl, hc.any_eq_false (by decide)⟩, ?_⟩, ?_⟩, ?_⟩
    · exact (leads_iff_passes (u := ['[']) (by decide)).2 hfirst
    · exact leads_several_one_iff.2 ⟨u, hne, hclass, hinside⟩
    · exact (leads_iff_passes (u := [']']) (by decide)).2 hlast
  · rintro d ⟨f', ⟨e', ⟨c', ⟨rfl, -⟩, hopening⟩, hseveral⟩, hclosing⟩
    have hopening := (leads_iff_passes (u := ['[']) (by decide)).1 hopening
    have hclosing := (leads_iff_passes (u := [']']) (by decide)).1 hclosing
    obtain ⟨v, -, hv, hinside'⟩ := leads_several_one_iff.1 hseveral
    have hpass' := (hopening.append hinside').append hclosing
    -- both ways pass over all characters in front of the first bracket
    have hwhile : v = u := by
      have hsame := hall.symm.trans hpass'.1
      simp only [List.cons_append, List.append_assoc, List.nil_append, List.cons.injEq, true_and] at hsame
      have hstop {s : Text} : ∀ a ∈ (']' :: s).head?, (CharClass.noneOf [']', '[']).holds a = false := by
        rintro a ⟨⟩
        rfl
      have htake := congrArg (List.takeWhile (CharClass.noneOf [']', '[']).holds) hsame
      rw [Text.takeWhile_append_of_head hclass hstop, Text.takeWhile_append_of_head hv hstop] at htake
      exact htake.symm
    rw [hpass'.2, hwhile]

/-! ## The rules in their order -/

/-- The rules for quoted texts by the marks that open them. -/
def quoting : List (Char × Rule) :=
  [('\'', ⟨.other, betweenEscaped '\''⟩), ('"', ⟨.other, betweenEscaped '"'⟩), ('`', ⟨.name, betweenDoubled '`'⟩),
    ('[', bracketed)]

/-- No rule in front of one for quoted texts fits where its mark stands, and no delimited span begins there. -/
theorem reach_before_quoting : ∀ p ∈ quoting, p.2 ∈ all ∧
    (∀ r ∈ before p.2, (Outline.ofFirst [p.1]).reach r.pattern 0 = []) ∧
    (Outline.ofFirst [p.1]).reach dollarOpener 0 = [] ∧ (Outline.ofFirst [p.1]).reach blockOpener 0 = [] := by
  decide

end Rule

namespace Cursor

variable {x : Option Char} {q : Char} {d : Cursor} {s : Text}

/-- The rule for the mark decides if it fits. -/
theorem next?_of_quoting {r : Rule} (hr : (q, r) ∈ Rule.quoting) (h : r.pattern.end? ⟨x, q :: s⟩ = some d) :
    (mk x (q :: s)).next? = some (r.kind, d) := by
  obtain ⟨hmem, hbefore, hspan⟩ := Rule.reach_before_quoting _ hr
  have hfits : (Outline.ofFirst [q]).Fits ⟨x, q :: s⟩ := Outline.fits_ofFirst (List.mem_singleton.2 rfl)
  obtain ⟨k, e, hrule, rfl, rfl⟩ := exists_byRule? (P := fun k e => k = r.kind ∧ e = d) hmem
    (fun r' hr' e he => absurd (Pattern.leads_of_end? he) (Outline.not_leads_here hfits (hbefore r' hr')))
    ⟨d, h, rfl, rfl⟩
  exact next?_of_byRule? (List.cons_ne_nil q s) (Outline.span?_eq_none hfits hspan) hrule

/-! ## No comments in quoted texts -/

/-- A text that begins with none of the marks stays as it is without comments if there are no marks behind its first
lexeme. -/
theorem flatMap_withoutComment_cons (hq : ∀ mark ∈ commentMarks, q ∉ mark)
    (h : ∀ k d, (mk x (q :: s)).next? = some (k, d) → Text.FreeOf commentMarks d.ahead) :
    (mk x (q :: s)).lexemes.flatMap Lexeme.withoutComment = q :: s := by
  obtain ⟨k, d, hnext⟩ := exists_next? (c := mk x (q :: s)) (List.cons_ne_nil q s)
  exact flatMap_withoutComment_of_next? hnext (kind_ne_comment_of_notMem hq rfl hnext) (h k d hnext)

variable {qs : List Char}

/-- Between marks that have been doubled there are no comments, unless a backslash stands before a mark and a comment
begins further on. -/
theorem flatMap_withoutComment_escaped (hquoting : (q, ⟨.other, Rule.betweenEscaped q⟩) ∈ Rule.quoting)
    (hslash : q ≠ '\\') (hqs : q ∈ qs) (hmarks : ∀ a ∈ qs, ∀ mark ∈ commentMarks, a ∉ mark)
    (hs : ∀ u v, s = u ++ '\\' :: q :: v → Text.FreeOf commentMarks v) :
    (start (q :: (Text.doubleEach qs s ++ [q]))).lexemes.flatMap Lexeme.withoutComment =
      q :: (Text.doubleEach qs s ++ [q]) := by
  have hq := hmarks q hqs
  obtain ⟨d, hend, hstops⟩ := Rule.exists_end?_betweenEscaped hslash hqs s none
  refine flatMap_withoutComment_cons hq fun k e hnext => ?_
  obtain ⟨rfl, rfl⟩ := next?_unique (next?_of_quoting hquoting hend) hnext
  rcases hstops with hnil | ⟨u, v, hsplit, hsuffix⟩
  · rw [hnil]
    exact Text.freeOf_nil (by decide)
  · have hrest := (hs u v hsplit).doubleEach_append (by decide) (List.forall_mem_cons.2 ⟨hq, hmarks⟩)
    exact (hrest.cons (by decide) hq).of_suffix hsuffix

/-- Between backticks there are no comments, unless one begins behind a mark that is in no pair. -/
theorem flatMap_withoutComment_backticks
    (hs : ∀ u v, s = u ++ '`' :: v → Text.InPairs '`' u → v.head? ≠ some '`' → Text.FreeOf commentMarks v) :
    (start ('`' :: (s ++ ['`']))).lexemes.flatMap Lexeme.withoutComment = '`' :: (s ++ ['`']) := by
  obtain ⟨d, hend, hstops⟩ := Rule.exists_end?_betweenDoubled '`' s none
  refine flatMap_withoutComment_cons (by decide) fun k e hnext => ?_
  have hquoting : ('`', ⟨.name, Rule.betweenDoubled '`'⟩) ∈ Rule.quoting := by decide
  obtain ⟨rfl, rfl⟩ := next?_unique (next?_of_quoting hquoting hend) hnext
  rcases hstops with hnil | ⟨u, v, hsplit, hu, hv, hahead⟩
  · rw [hnil]
    exact Text.freeOf_nil (by decide)
  · have hrest : Text.FreeOf commentMarks (Text.doubleEach [] v ++ ['`']) :=
      (hs u v hsplit hu hv).doubleEach_append (by decide) (List.forall_mem_singleton.2 (by decide))
    rw [hahead]
    rwa [Text.doubleEach_nil] at hrest

/-- Between brackets there are no comments, unless one begins behind the first bracket in the text if that is a
closing one, or anywhere if it is an opening one. -/
theorem flatMap_withoutComment_brackets (hne : s ≠ [])
    (hclosing : ∀ u v, s = u ++ ']' :: v → (∀ a ∈ u, a ∉ [']', '[']) → Text.FreeOf commentMarks v)
    (hopening : ∀ u v, s = u ++ '[' :: v → (∀ a ∈ u, a ∉ [']', '[']) → Text.FreeOf commentMarks s) :
    (start ('[' :: (Text.doubleEach [']'] s ++ [']']))).lexemes.flatMap Lexeme.withoutComment =
      '[' :: (Text.doubleEach [']'] s ++ [']']) := by
  refine flatMap_withoutComment_cons (by decide) fun k d hnext => ?_
  have hfree {t : Text} (ht : Text.FreeOf commentMarks t) :
      Text.FreeOf commentMarks (Text.doubleEach [']'] t ++ [']']) :=
    ht.doubleEach_append (by decide) (List.forall_mem_cons.2 ⟨by decide, List.forall_mem_singleton.2 (by decide)⟩)
  have hinside {u t : Text} (hu : u ≠ []) (hoff : ∀ a ∈ u, a ∉ [']', '['])
      (ht : Text.doubleEach [']'] s ++ [']'] = u ++ ']' :: t) : d.ahead = t := by
    obtain ⟨e, hend, he⟩ := Rule.end?_bracketed (c := start ('[' :: (Text.doubleEach [']'] s ++ [']']))) rfl
      (congrArg ('[' :: ·) ht) hu hoff
    have hquoting : ('[', Rule.bracketed) ∈ Rule.quoting := by decide
    obtain ⟨rfl, rfl⟩ := next?_unique (next?_of_quoting hquoting hend) hnext
    exact he
  have hkeep {u : Text} (hoff : ∀ a ∈ u, a ∉ [']', '[']) : Text.doubleEach [']'] u = u :=
    Text.doubleEach_of_notMem fun a ha hmem => hoff a ha (List.mem_cons.2 (.inl (List.mem_singleton.1 hmem)))
  -- the first bracket decides
  rcases Text.notMem_or_exists_first [']', '['] s with hoff | ⟨u, q, v, rfl, hoff, hq⟩
  · rw [hinside hne hoff (by rw [hkeep hoff])]
    exact Text.freeOf_nil (by decide)
  · rcases List.mem_pair.1 hq with rfl | rfl
    · have hrest := hfree (hclosing u v rfl hoff)
      have htext : Text.doubleEach [']'] (u ++ ']' :: v) ++ [']'] =
          u ++ ']' :: (']' :: (Text.doubleEach [']'] v ++ [']'])) := by
        rw [Text.doubleEach_append, hkeep hoff, Text.doubleEach_cons, if_pos (List.mem_singleton.2 rfl)]
        simp
      by_cases hu : u = []
      · subst hu
        have hsuffix := ahead_suffix_of_next? hnext
        rw [htext] at hsuffix
        exact ((hrest.cons (by decide) (by decide)).cons (by decide) (by decide)).of_suffix hsuffix
      · rw [hinside hu hoff htext]
        exact hrest.cons (by decide) (by decide)
    · exact (hfree (hopening u v rfl hoff)).of_suffix (ahead_suffix_of_next? hnext)

end Cursor

end SqlDialects
