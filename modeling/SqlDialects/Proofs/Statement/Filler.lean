/-
Blanks and comments at the beginning of a text. The lexer cuts a blank, a closed block comment and a line
comment off, and nothing in them links to what comes after. So once comments and the blanks at both ends
are taken out, the same is left of the text with them and without them (`Cursor.stripped_isBlank_append`,
`Cursor.stripped_of_blockComment`, `Cursor.stripped_of_lineComment`). A hash sign that no space follows
begins no comment, and stays (`Cursor.stripped_hash_ne_nil`).
-/
import SqlDialects.Proofs.Statement.Lexeme
import SqlDialects.Proofs.Statement.Outline
import SqlDialects.Statement.Reader

namespace SqlDialects

/-! ## Characters at the beginning -/

/-- What is known of a place in front of one of the characters. -/
def Outline.ofFirst (cs : List Char) : Outline where
  previous := .anything
  ahead := [.among cs]

/-- What is known of a place in front of a blank. -/
def Outline.ofBlank : Outline where
  previous := .anything
  ahead := [.blankOrMissing]

namespace Outline

variable {x : Option Char} {a : Char} {s : Text} {cs : List Char} {d : Cursor}

theorem fits_ofFirst (ha : a ∈ cs) : (ofFirst cs).Fits ⟨x, a :: s⟩ := by
  refine ⟨trivial, fun i sight hi => ?_⟩
  cases i with
  | zero =>
    cases hi
    exact ⟨a, ha, rfl⟩
  | succ i => cases hi

theorem fits_ofBlank (ha : Character.isBlank a = true) : ofBlank.Fits ⟨x, a :: s⟩ := by
  refine ⟨trivial, fun i sight hi => ?_⟩
  cases i with
  | zero =>
    cases hi
    intro b hb
    rw [← Option.some.inj hb]
    exact ha
  | succ i => cases hi

/-- Where neither opening mark reaches a place from the beginning of the outline, no delimited span begins. -/
theorem span?_eq_none {o : Outline} {c : Cursor} (ho : o.Fits c)
    (h : o.reach dollarOpener 0 = [] ∧ o.reach blockOpener 0 = []) : c.span? = none :=
  Cursor.span?_eq_none (fun _ => not_leads_here ho h.1) (fun _ => not_leads_here ho h.2)

end Outline

/-- No comment begins with a blank. -/
theorem Rule.reach_comments_ofBlank : ∀ r ∈ comments, Outline.ofBlank.reach r.pattern 0 = [] := by
  decide

theorem reach_openers_ofBlank :
    Outline.ofBlank.reach dollarOpener 0 = [] ∧ Outline.ofBlank.reach blockOpener 0 = [] := by
  decide

/-- No delimited span begins with the first character of a line comment. -/
theorem reach_openers_ofFirst :
    (Outline.ofFirst ['-', '#']).reach dollarOpener 0 = [] ∧
      (Outline.ofFirst ['-', '#']).reach blockOpener 0 = [] := by
  decide

theorem reach_dollarOpener_slash : (Outline.ofFirst ['/']).reach dollarOpener 0 = [] := by decide

/-- A blank links nothing to what comes after it. -/
theorem CharClass.not_linking_of_isBlank {a : Char} (ha : Character.isBlank a = true) :
    linking.holds a = false := by
  have hmarks : (oneOf ['"', '$', '.', ']', ')']).holds a = false :=
    Character.eq_false_of_isBlank _ (by decide) ha
  exact Bool.or_eq_false_iff.2 ⟨Character.isWordChar_of_isBlank ha, hmarks⟩

/-! ## What is left -/

namespace Cursor

/-- What is left of the text from the place on without comments and without blanks at its ends. -/
def stripped (c : Cursor) : Text := Text.trim (c.lexemes.flatMap Lexeme.withoutComment)

variable {c d : Cursor} {x : Option Char} {a : Char} {s u : Text}

theorem stripped_nil : (start []).stripped = [] := by
  rw [stripped, lexemes_eq_nil rfl]
  rfl

theorem stripped_eq_of_detached (h : c.ahead = d.ahead) (hc : c.Detached) (hd : d.Detached) :
    c.stripped = d.stripped := by
  rw [stripped, lexemes_eq_of_detached h hc hd, stripped]

/-- A lexeme that leaves only blanks does not count at the beginning. -/
theorem stripped_eq_of_next? {k : LexemeKind} (h : c.next? = some (k, d))
    (hk : ∀ b ∈ Lexeme.withoutComment ⟨k, c.upTo d⟩, Character.isBlank b = true) : c.stripped = d.stripped := by
  rw [stripped, lexemes_eq_cons h, List.flatMap_cons, Text.trim_append_of_isBlank hk, stripped]

/-- Behind one that ends with a character that does not link, the text might as well begin. -/
theorem stripped_of_next? {k : LexemeKind} (h : c.next? = some (k, d)) (hpass : c.Passes (u ++ [a]) d)
    (ha : CharClass.linking.holds a = false)
    (hk : ∀ b ∈ Lexeme.withoutComment ⟨k, u ++ [a]⟩, Character.isBlank b = true) :
    c.stripped = (start d.ahead).stripped := by
  have hdetached : d.Detached := by
    rw [Detached, hpass.before_eq]
    exact ha
  rw [← hpass.upTo_eq] at hk
  rw [stripped_eq_of_next? h hk]
  exact stripped_eq_of_detached rfl hdetached rfl

theorem isBlank_of_withoutComment_comment {b : Char} (hb : b ∈ Lexeme.withoutComment ⟨.comment, s⟩) :
    Character.isBlank b = true := by
  obtain ⟨b', hleft, hblank⟩ := Lexeme.exists_withoutComment_of_comment s
  rw [hleft] at hb
  rwa [List.mem_singleton.1 hb]

theorem stripped_of_comment (h : c.next? = some (.comment, d)) (hpass : c.Passes (u ++ [a]) d)
    (ha : CharClass.linking.holds a = false) : c.stripped = (start d.ahead).stripped :=
  stripped_of_next? h hpass ha fun _ => isBlank_of_withoutComment_comment

theorem stripped_of_blank (h : c.next? = some (.blank, d)) (hpass : c.Passes (u ++ [a]) d)
    (hu : ∀ b ∈ u ++ [a], Character.isBlank b = true) : c.stripped = (start d.ahead).stripped :=
  stripped_of_next? h hpass (CharClass.not_linking_of_isBlank (hu a (by simp))) hu

end Cursor

/-! ## Blanks -/

namespace Rule

open Pattern

variable {c d : Cursor}

def blank : Rule := ⟨.blank, one .blank⟩

theorem blank_mem_all : blank ∈ all := by decide

theorem before_blank : before blank = comments ++ [⟨.blank, lineEnd⟩] := by decide

theorem mem_blankRules_of_kind : ∀ r ∈ all, r.kind = .blank → r ∈ blankRules := by decide

theorem leads_lineEnd_iff :
    lineEnd.Leads c d ↔ c.Passes ['\r', '\n'] d ∨ c.Passes ['\r'] d ∨ c.Passes ['\n'] d :=
  or_congr (leads_iff_passes (by decide)) (or_congr (leads_iff_passes (by decide)) (leads_iff_passes (by decide)))

end Rule

namespace Cursor

variable {c d : Cursor} {x : Option Char} {a : Char} {s u : Text}

/-- Nothing but a blank begins a lexeme that is one. -/
theorem isBlank_of_next? (hc : c.ahead = a :: s) (hnext : c.next? = some (.blank, d)) :
    Character.isBlank a = true := by
  rcases next?_cases hnext with hspan | ⟨-, ⟨r, hr, hk, hd⟩ | ⟨-, hk, -⟩⟩
  · rcases span?_cases hspan with ⟨hk, -⟩ | ⟨hk, -⟩
    · cases hk
    · cases hk
  · have hlead := Pattern.leads_of_end? hd
    have hfirst {b : Char} {u : Text} (hpass : c.Passes (b :: u) d) : a = b :=
      (List.cons_eq_cons.1 (hc.symm.trans hpass.1)).1
    rcases List.mem_pair.1 (Rule.mem_blankRules_of_kind r hr hk) with rfl | rfl
    · rcases Rule.leads_lineEnd_iff.1 hlead with hpass | hpass | hpass
      · rw [hfirst hpass]
        rfl
      · rw [hfirst hpass]
        rfl
      · rw [hfirst hpass]
        rfl
    · obtain ⟨b, hb, hpass⟩ := Pattern.leads_one_iff.1 hlead
      rw [hfirst hpass]
      exact hb
  · cases hk

/-- A blank is a lexeme by itself, a carriage return together with a line feed behind it. -/
theorem next?_blank (ha : Character.isBlank a = true) :
    ∃ u d, (mk x (a :: s)).next? = some (.blank, d) ∧ (mk x (a :: s)).Passes u d ∧
      (u = [a] ∨ u = ['\r', '\n']) := by
  have hfits : Outline.ofBlank.Fits ⟨x, a :: s⟩ := Outline.fits_ofBlank ha
  have hspan : (mk x (a :: s)).span? = none := Outline.span?_eq_none hfits reach_openers_ofBlank
  have hself : (mk x (a :: s)).Passes [a] ⟨some a, s⟩ := ⟨rfl, rfl⟩
  obtain ⟨k, d, hrule, rfl, u, hpass, hu⟩ : ∃ k d, (mk x (a :: s)).byRule? = some (k, d) ∧ k = .blank ∧
      ∃ u, (mk x (a :: s)).Passes u d ∧ (u = [a] ∨ u = ['\r', '\n']) := by
    refine exists_byRule? Rule.blank_mem_all ?_ ?_
    · intro r hr d hd
      rw [Rule.before_blank] at hr
      have hlead := Pattern.leads_of_end? hd
      -- of the rules that come first, only the one for line ends can fit
      rcases List.mem_append.1 hr with hr | hr
      · exact absurd hlead (Outline.not_leads_here hfits (Rule.reach_comments_ofBlank r hr))
      · obtain rfl := List.mem_singleton.1 hr
        refine ⟨rfl, ?_⟩
        rcases Rule.leads_lineEnd_iff.1 hlead with h | h | h
        · exact ⟨_, h, .inr rfl⟩
        · obtain ⟨rfl, -⟩ := List.cons_eq_cons.1 h.1
          exact ⟨_, h, .inl rfl⟩
        · obtain ⟨rfl, -⟩ := List.cons_eq_cons.1 h.1
          exact ⟨_, h, .inl rfl⟩
    · exact ⟨⟨some a, s⟩, by simp [Rule.blank, Pattern.end?, Pattern.ends, CharClass.holds, ha], rfl, _, hself, .inl rfl⟩
  exact ⟨u, d, next?_of_byRule? (List.cons_ne_nil a s) hspan hrule, hpass, hu⟩

/-- A blank at the beginning does not count. -/
theorem stripped_blank_cons (ha : Character.isBlank a = true) :
    (mk x (a :: s)).stripped = (start s).stripped := by
  have hsingle {y : Option Char} {b : Char} {t : Text} {d : Cursor} (hb : Character.isBlank b = true)
      (hnext : (mk y (b :: t)).next? = some (.blank, d)) (hpass : (mk y (b :: t)).Passes [b] d) :
      (mk y (b :: t)).stripped = (start t).stripped := by
    rw [stripped_of_blank (u := []) hnext hpass (List.forall_mem_singleton.2 hb), hpass.ahead_eq rfl]
  obtain ⟨u, d, hnext, hpass, rfl | rfl⟩ := next?_blank (x := x) (s := s) ha
  · exact hsingle ha hnext hpass
  · obtain ⟨rfl, hs⟩ := List.cons_eq_cons.1 hpass.1
    obtain ⟨t, rfl⟩ : ∃ t, s = '\n' :: t := ⟨_, hs⟩
    -- the line feed is a blank by itself where the text begins with it
    have hfeed : (start ('\n' :: t)).stripped = (start t).stripped := by
      obtain ⟨u, e, hnext', hpass', rfl | rfl⟩ := next?_blank (x := none) (a := '\n') (s := t) rfl
      · exact hsingle rfl hnext' hpass'
      · cases hpass'.1
    have hpair : ∀ b ∈ ['\r'] ++ ['\n'], Character.isBlank b = true :=
      List.forall_mem_cons.2 ⟨rfl, List.forall_mem_singleton.2 rfl⟩
    rw [stripped_of_blank (u := ['\r']) hnext hpass hpair, hpass.ahead_eq rfl, hfeed]

theorem stripped_isBlank_append (hu : ∀ a ∈ u, Character.isBlank a = true) :
    (start (u ++ s)).stripped = (start s).stripped := by
  induction u with
  | nil => rfl
  | cons a u ih =>
    rw [List.forall_mem_cons] at hu
    rw [List.cons_append, ← ih hu.2]
    exact stripped_blank_cons hu.1

end Cursor

/-! ## Block comments -/

namespace Cursor

variable {c : Cursor} {x : Option Char} {r s inside : Text}

/-- A plus sign behind the opening mark is no part of the closing one. -/
theorem behind?_opener :
    ∃ e, blockOpener.end? ⟨x, '/' :: '*' :: r⟩ = some e ∧ e.behind? "*/" = (mk (some '*') r).behind? "*/" := by
  have hmark : ∀ e, (Pattern.text "/*").Leads ⟨x, '/' :: '*' :: r⟩ e → e = ⟨some '*', r⟩ :=
    fun e he => ((Pattern.leads_iff_passes (u := ['/', '*']) (by decide)).1 he).2
  have hfit : ∃ e, (Pattern.text "/*").Leads ⟨x, '/' :: '*' :: r⟩ e :=
    ⟨_, (Pattern.leads_iff_passes (u := ['/', '*']) (by decide)).2 (passes_skip rfl)⟩
  have hends {d : Cursor} (hd : (Pattern.optional "+").end? ⟨some '*', r⟩ = some d) :
      blockOpener.end? ⟨x, '/' :: '*' :: r⟩ = some d :=
    Pattern.end?_append hfit fun e he => by rw [hmark e he, hd]
  cases hplus : (Pattern.text "+").end? ⟨some '*', r⟩ with
  | none => exact ⟨_, hends (Pattern.end?_optional_of_none hplus), rfl⟩
  | some d =>
    obtain ⟨hr, rfl⟩ := (Pattern.leads_iff_passes (u := ['+']) (by decide)).1 (Pattern.leads_of_end? hplus)
    refine ⟨_, hends (Pattern.end?_optional_of_some hplus), ?_⟩
    obtain ⟨t, rfl⟩ : ∃ t, r = '+' :: t := ⟨_, hr⟩
    show _ = ((Text.endOfFirst? "*/" t).map (· + 1)).map _
    rw [Option.map_map]
    rfl

/-- A block comment ends with the first closing mark. -/
theorem next?_blockComment {n : Nat} (hc : c.ahead = '/' :: '*' :: r)
    (hr : Text.endOfFirst? "*/" r = some n) : c.next? = some (.comment, c.skip (n + 2)) := by
  obtain ⟨x, _⟩ := c
  obtain rfl := hc
  -- a dollar delimiter would come first
  have hdollar : dollarOpener.end? ⟨x, '/' :: '*' :: r⟩ = none :=
    Pattern.end?_eq_none_iff.2 fun d =>
      Outline.not_leads_here (Outline.fits_ofFirst List.mem_cons_self) reach_dollarOpener_slash
  obtain ⟨e, hopener, hbehind⟩ := behind?_opener (x := x) (r := r)
  have hclosed : e.behind? "*/" = some ((mk x ('/' :: '*' :: r)).skip (n + 2)) := by
    rw [hbehind, behind?, hr, Nat.add_comm, ← skip_skip]
    rfl
  have hspan : (mk x ('/' :: '*' :: r)).span? = some (.comment, (mk x ('/' :: '*' :: r)).skip (n + 2)) := by
    unfold span?
    rw [hdollar]
    dsimp only
    rw [hopener, Option.bind_some, hclosed, Option.map_some]
  unfold next?
  rw [if_neg (by simp), hspan, Option.some_or, Option.some_or]

/-- A block comment at the beginning does not count. -/
theorem stripped_of_blockComment (hc : c.ahead = '/' :: '*' :: (inside ++ '*' :: '/' :: s))
    (h : Text.endOfFirst? "*/" (inside ++ '*' :: '/' :: s) = some (inside.length + 2)) :
    c.stripped = (start s).stripped := by
  have hahead : c.ahead = ('/' :: '*' :: (inside ++ ['*']) ++ ['/']) ++ s := by simp [hc]
  have hlength : inside.length + 2 + 2 = ('/' :: '*' :: (inside ++ ['*']) ++ ['/']).length := by simp
  have hnext := next?_blockComment hc h
  rw [hlength] at hnext
  have hpass := passes_skip hahead
  rw [stripped_of_comment hnext hpass rfl, hpass.ahead_eq hahead]

end Cursor

/-! ## Line comments -/

namespace Rule

open Cursor Pattern

variable {c d e : Cursor} {l s : Text}

theorem lineCommentMark_leads_iff :
    lineCommentMark.Leads c d ↔ c.Passes ['-', '-'] d ∨ c.Passes ['#', ' '] d :=
  or_congr (leads_iff_passes (by decide)) (leads_iff_passes (by decide))

/-- The rest of a line ends behind its line feed. -/
theorem end?_restOfLine (he : e.ahead = l ++ '\n' :: s) (hl : ∀ a ∈ l, a ≠ '\n' ∧ a ≠ '\r') :
    restOfLine.end? e = some (e.skip (l.length + 1)) := by
  have hend (x : Option Char) : (lineEnd <|> textEnd).end? ⟨x, '\n' :: s⟩ = some ⟨some '\n', s⟩ := rfl
  refine end?_few_one_append he ?_ ?_ ?_
  · intro a ha
    simp [CharClass.inLine, CharClass.holds, (hl a ha).1]
  · -- the line does not end before any of its characters
    intro a ha f hf
    obtain ⟨hfeed, hreturn⟩ := hl a ha
    obtain ⟨x, _ | ⟨b, t⟩⟩ := f
    · cases hf
    obtain rfl := Option.some.inj hf
    refine end?_eq_none_iff.2 fun d hd => ?_
    rcases hd with hline | ⟨-, hnil | hlast⟩
    · rcases leads_lineEnd_iff.1 hline with h | h | h
      · exact hreturn (List.cons_eq_cons.1 h.1).1
      · exact hreturn (List.cons_eq_cons.1 h.1).1
      · exact hfeed (List.cons_eq_cons.1 h.1).1
    · cases hnil
    · exact hfeed (List.cons_eq_cons.1 hlast).1
  · have hpass := passes_skip he
    rw [← skip_skip]
    generalize e.skip l.length = f at hpass
    obtain ⟨x, t⟩ := f
    obtain rfl := hpass.ahead_eq he
    exact hend x

/-- Whatever within a line leads up to its rest, together they end behind its line feed. -/
theorem end?_append_restOfLine {p : Pattern} (hc : c.ahead = l ++ '\n' :: s)
    (hl : ∀ a ∈ l, a ≠ '\n' ∧ a ≠ '\r') (hfit : ∃ e, p.Leads c e)
    (hp : ∀ e, p.Leads c e → ∃ u, '\n' ∉ u ∧ c.Passes u e) :
    (p ++ restOfLine).end? c = some (c.skip (l.length + 1)) := by
  refine end?_append hfit fun e he => ?_
  obtain ⟨u, hu, hpass⟩ := hp e he
  obtain ⟨v, rfl⟩ := hpass.prefix_line hc hu fun a ha => (Option.some.inj ha).symm
  have hv : ∀ a ∈ v, a ≠ '\n' ∧ a ≠ '\r' := fun a ha => hl a (List.mem_append_right u ha)
  rw [List.append_assoc] at hc
  rw [end?_restOfLine (hpass.ahead_eq hc) hv, hpass.2, skip_skip, List.length_append, Nat.add_assoc]

def lineComment : Rule := ⟨.comment, lineCommentMark ++ restOfLine⟩

theorem lineComment_mem_all : lineComment ∈ all := by decide

theorem before_lineComment : before lineComment = [⟨.comment, lineCommentMark ++ "+" ++ restOfLine⟩] := by
  decide

theorem mem_comments_of_kind : ∀ r ∈ all, r.kind = .comment → r ∈ comments := by decide

/-- Every comment that a rule makes begins with one of the two marks. -/
theorem exists_mark_of_leads_comment {r : Rule} (hr : r ∈ all) (hk : r.kind = .comment) (h : r.pattern.Leads c d) :
    ∃ e u, lineCommentMark.Leads c e ∧ e.Passes u d := by
  rcases List.mem_pair.1 (mem_comments_of_kind r hr hk) with rfl | rfl
  · obtain ⟨e, ⟨f, hmark, hplus⟩, hline⟩ := h
    obtain ⟨u, hu⟩ := exists_passes_of_leads hplus
    obtain ⟨v, hv⟩ := exists_passes_of_leads hline
    exact ⟨f, u ++ v, hmark, hu.append hv⟩
  · obtain ⟨e, hmark, hline⟩ := h
    obtain ⟨u, hu⟩ := exists_passes_of_leads hline
    exact ⟨e, u, hmark, hu⟩

end Rule

namespace Cursor

variable {c d : Cursor} {l s : Text}

theorem span?_of_lineCommentMark {a : Char} (hc : c.ahead = a :: s) (ha : a ∈ ['-', '#']) :
    c.span? = none := by
  obtain ⟨x, _⟩ := c
  obtain rfl := hc
  exact Outline.span?_eq_none (Outline.fits_ofFirst ha) reach_openers_ofFirst

/-- A line comment ends with the line feed behind it. -/
theorem next?_lineComment (hc : c.ahead = l ++ '\n' :: s) (hl : ∀ a ∈ l, a ≠ '\n' ∧ a ≠ '\r')
    (hmark : ['-', '-'] <+: l ∨ ['#', ' '] <+: l) : c.next? = some (.comment, c.skip (l.length + 1)) := by
  have hspan : c.span? = none := by
    rcases hmark with ⟨t, rfl⟩ | ⟨t, rfl⟩
    · exact span?_of_lineCommentMark hc (by decide)
    · exact span?_of_lineCommentMark hc (by decide)
  have hfit : ∃ e, Rule.lineCommentMark.Leads c e := by
    rcases hmark with ⟨t, rfl⟩ | ⟨t, rfl⟩
    · exact ⟨_, Rule.lineCommentMark_leads_iff.2 (.inl (passes_skip (by rw [hc, List.append_assoc])))⟩
    · exact ⟨_, Rule.lineCommentMark_leads_iff.2 (.inr (passes_skip (by rw [hc, List.append_assoc])))⟩
  have hwithin : ∀ e, Rule.lineCommentMark.Leads c e → ∃ u, '\n' ∉ u ∧ c.Passes u e := by
    intro e he
    rcases Rule.lineCommentMark_leads_iff.1 he with h | h
    · exact ⟨_, by decide, h⟩
    · exact ⟨_, by decide, h⟩
  have hwithin' : ∀ e, (Rule.lineCommentMark ++ Pattern.text "+").Leads c e → ∃ u, '\n' ∉ u ∧ c.Passes u e := by
    rintro e ⟨f, hf, hplus⟩
    obtain ⟨u, hu, hpass⟩ := hwithin f hf
    have hpass' := (Pattern.leads_iff_passes (u := ['+']) (by decide)).1 hplus
    exact ⟨u ++ ['+'], by simp [hu], hpass.append hpass'⟩
  obtain ⟨k, d, hrule, rfl, rfl⟩ : ∃ k d, c.byRule? = some (k, d) ∧ k = .comment ∧ d = c.skip (l.length + 1) := by
    refine exists_byRule? Rule.lineComment_mem_all ?_ ?_
    · -- a comment with a plus sign behind its mark ends there too
      intro r hr d hd
      rw [Rule.before_lineComment] at hr
      obtain rfl := List.mem_singleton.1 hr
      obtain ⟨e, hplus, -⟩ := Pattern.leads_of_end? hd
      have hend := Rule.end?_append_restOfLine hc hl ⟨e, hplus⟩ hwithin'
      exact ⟨rfl, Option.some.inj (hd.symm.trans hend)⟩
    · exact ⟨_, Rule.end?_append_restOfLine hc hl hfit hwithin, rfl, rfl⟩
  refine next?_of_byRule? ?_ hspan hrule
  rw [hc]
  exact List.append_ne_nil_of_right_ne_nil _ (List.cons_ne_nil _ _)

/-- A line comment at the beginning does not count. -/
theorem stripped_of_lineComment (hc : c.ahead = l ++ '\n' :: s) (hl : ∀ a ∈ l, a ≠ '\n' ∧ a ≠ '\r')
    (hmark : ['-', '-'] <+: l ∨ ['#', ' '] <+: l) : c.stripped = (start s).stripped := by
  have hahead : c.ahead = (l ++ ['\n']) ++ s := by simp [hc]
  have hlength : l.length + 1 = (l ++ ['\n']).length := by rw [List.length_append, List.length_singleton]
  have hnext := next?_lineComment hc hl hmark
  rw [hlength] at hnext
  have hpass := passes_skip hahead
  rw [stripped_of_comment hnext hpass rfl, hpass.ahead_eq hahead]

/-- A hash sign in front of anything but a space stays. -/
theorem stripped_hash_ne_nil (hc : c.ahead = '#' :: s) (hs : s.head? ≠ some ' ') : c.stripped ≠ [] := by
  obtain ⟨k, d, hnext⟩ := exists_next? (c := c) (by rw [hc]; exact List.cons_ne_nil _ _)
  have hk : k ≠ .comment := by
    rintro rfl
    obtain ⟨r, hr, hkind, hlead⟩ := exists_rule_of_comment (span?_of_lineCommentMark hc (by decide)) hnext
    obtain ⟨e, -, hmark, -⟩ := Rule.exists_mark_of_leads_comment hr hkind hlead
    rcases Rule.lineCommentMark_leads_iff.1 hmark with h | h
    · exact absurd (List.cons_eq_cons.1 (hc.symm.trans h.1)).1 (by decide)
    · exact hs (by rw [(List.cons_eq_cons.1 (hc.symm.trans h.1)).2]; rfl)
  obtain ⟨v, hv⟩ := exists_left_of_next? hnext hk hc
  obtain ⟨rest, hrest, -⟩ := Text.trim_append (w := ['#']) (by decide) (List.forall_mem_singleton.2 rfl) v
  rw [stripped, hv, show '#' :: v = ['#'] ++ v from rfl, hrest]
  exact List.cons_ne_nil _ _

/-! ## Any of them -/

theorem stripped_eq_nil (hc : ∀ b ∈ c.ahead, Character.isBlank b = true) : c.stripped = [] := by
  obtain ⟨x, _ | ⟨a, s⟩⟩ := c
  · rw [stripped, lexemes_eq_nil rfl]
    rfl
  · rw [List.forall_mem_cons] at hc
    rw [stripped_blank_cons hc.1, ← List.append_nil s, stripped_isBlank_append hc.2, stripped_nil]

/-- Behind a comment nothing links, unless there is nothing but blanks. -/
theorem detached_of_comment (hnext : c.next? = some (.comment, d)) :
    d.Detached ∨ ∀ b ∈ d.ahead, Character.isBlank b = true := by
  have hdetached {e : Cursor} {u : Text} {a : Char} (hpass : e.Passes (u ++ [a]) d)
      (ha : CharClass.linking.holds a = false) : d.Detached := by
    rw [Detached, hpass.before_eq]
    exact ha
  rcases comment_cases hnext with ⟨-, e, -, hd⟩ | ⟨r, hr, hk, hlead⟩
  · obtain ⟨u, hu⟩ := exists_passes_of_behind? hd
    exact .inl (hdetached (u := u ++ ['*']) (a := '/') (by rwa [List.append_assoc]) rfl)
  · obtain ⟨e, hend⟩ : ∃ e, (Rule.lineEnd <|> Pattern.textEnd).Leads e d := by
      rcases List.mem_pair.1 (Rule.mem_comments_of_kind r hr hk) with rfl | rfl
      · obtain ⟨-, -, e, -, hend⟩ := hlead
        exact ⟨e, hend⟩
      · obtain ⟨-, -, e, -, hend⟩ := hlead
        exact ⟨e, hend⟩
    rcases hend with hline | ⟨rfl, hnil | hfeed⟩
    · rcases Rule.leads_lineEnd_iff.1 hline with hpass | hpass | hpass
      · exact .inl (hdetached (u := ['\r']) hpass rfl)
      · exact .inl (hdetached (u := []) hpass rfl)
      · exact .inl (hdetached (u := []) hpass rfl)
    · rw [hnil]
      exact .inr (by simp)
    · rw [hfeed]
      exact .inr (List.forall_mem_singleton.2 rfl)

/-- A blank or a comment at the beginning does not count. -/
theorem stripped_of_isFiller {k : LexemeKind} (hnext : c.next? = some (k, d)) (hk : k = .blank ∨ k = .comment) :
    c.stripped = (start d.ahead).stripped := by
  rcases hk with rfl | rfl
  · obtain ⟨x, _ | ⟨a, s⟩⟩ := c
    · rw [(next?_eq_none_iff _).2 rfl] at hnext
      cases hnext
    · have ha := isBlank_of_next? rfl hnext
      obtain ⟨u, e, hblank, hpass, rfl | rfl⟩ := next?_blank (x := x) (s := s) ha
      · obtain ⟨-, rfl⟩ := next?_unique hblank hnext
        exact stripped_of_blank (u := []) hnext hpass (List.forall_mem_singleton.2 ha)
      · obtain ⟨-, rfl⟩ := next?_unique hblank hnext
        exact stripped_of_blank (u := ['\r']) hnext hpass
          (List.forall_mem_cons.2 ⟨rfl, List.forall_mem_singleton.2 rfl⟩)
  · rw [stripped_eq_of_next? hnext fun _ => isBlank_of_withoutComment_comment]
    rcases detached_of_comment hnext with hd | hd
    · exact stripped_eq_of_detached rfl hd rfl
    · rw [stripped_eq_nil hd, stripped_eq_nil (c := start d.ahead) hd]

end Cursor

end SqlDialects
