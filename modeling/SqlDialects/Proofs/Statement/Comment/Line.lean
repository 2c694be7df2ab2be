/-
Taking whole-line comments out of a statement. A line goes, up to its line feed, if it begins with a mark
behind spaces and tabs, and stays as it is otherwise; the lines behind it are treated as if the statement
began with them (`eraseLineComments_of_opensLine`, `eraseLineComments_of_not_opensLine`).
-/
import SqlDialects.Proofs.Statement.Meaning
import SqlDialects.Statement.Comment.Line

namespace SqlDialects

/-- A mark begins the line, behind spaces and tabs. -/
def OpensLine (marks : List Text) (l : Text) : Prop :=
  ∃ u mark, (∀ a ∈ u, a ∈ [' ', '\t']) ∧ mark ∈ marks ∧ u ++ mark <+: l

/-- The marks can stand within a line. -/
def WithinLine (marks : List Text) : Prop := ∀ mark ∈ marks, mark ≠ [] ∧ '\n' ∉ mark

instance (marks : List Text) : Decidable (WithinLine marks) :=
  inferInstanceAs (Decidable (∀ mark ∈ marks, mark ≠ [] ∧ '\n' ∉ mark))

variable {marks : List Text} {l rest s : Text} {c d e : Cursor}

theorem OpensLine.ne_nil (hmarks : WithinLine marks) (h : OpensLine marks l) : l ≠ [] := by
  rintro rfl
  obtain ⟨u, mark, -, hmark, hbegins⟩ := h
  exact (hmarks mark hmark).1 (List.append_eq_nil_iff.1 (List.prefix_nil.1 hbegins)).2

/-! ## Where a line comment ends -/

namespace Pattern

theorem leads_anyOf_iff {ps : List Pattern} : (anyOf ps).Leads c d ↔ ∃ p ∈ ps, p.Leads c d := by
  induction ps with
  | nil =>
    refine iff_of_false ?_ (by simp)
    rintro ⟨-, hnot⟩
    exact hnot c rfl
  | cons p ps ih =>
    rw [List.exists_mem_cons_iff]
    cases ps with
    | nil => simp [anyOf]
    | cons q ps => rw [← ih]; rfl

end Pattern

open Pattern Cursor

/-- A line comment leads from its beginning to somewhere within its line. -/
theorem leads_openLine_iff :
    (Pattern.many (.one (.oneOf [' ', '\t'])) ++ .anyOf (marks.map .verbatim)).Leads c d ↔
      ∃ u mark, (∀ a ∈ u, a ∈ [' ', '\t']) ∧ mark ∈ marks ∧ c.Passes (u ++ mark) d := by
  constructor
  · rintro ⟨e, hblanks, hmarks⟩
    obtain ⟨u, hu, hpass⟩ := leads_many_one_iff.1 hblanks
    obtain ⟨p, hp, hlead⟩ := leads_anyOf_iff.1 hmarks
    obtain ⟨mark, hmark, rfl⟩ := List.mem_map.1 hp
    exact ⟨u, mark, fun a ha => List.contains_iff_mem.1 (hu a ha), hmark,
      hpass.append (leads_verbatim_iff.1 hlead)⟩
  · rintro ⟨u, mark, hu, hmark, hpass⟩
    obtain ⟨e, hblanks, hlead⟩ := passes_append_iff.1 hpass
    exact ⟨e, leads_many_one_iff.2 ⟨u, fun a ha => List.contains_iff_mem.2 (hu a ha), hblanks⟩,
      leads_anyOf_iff.2 ⟨_, List.mem_map_of_mem hmark, leads_verbatim_iff.2 hlead⟩⟩

theorem WithinLine.notMem_append (hmarks : WithinLine marks) {u mark : Text} (hu : ∀ a ∈ u, a ∈ [' ', '\t'])
    (hmark : mark ∈ marks) : '\n' ∉ u ++ mark := by
  intro hmem
  rcases List.mem_append.1 hmem with hmem | hmem
  · exact absurd (hu _ hmem) (by decide)
  · exact (hmarks mark hmark).2 hmem

/-- A line comment takes the whole line. -/
theorem end?_lineComment (hmarks : WithinLine marks) (hc : c.ahead = l ++ rest) (hl : '\n' ∉ l)
    (hrest : ∀ a ∈ rest.head?, a = '\n') (h : OpensLine marks l) :
    (lineComment marks).end? c = some (c.skip l.length) := by
  have hstop : ∀ a ∈ rest.head?, CharClass.inLine.holds a = false := by
    intro a ha
    rw [hrest a ha]
    rfl
  have hfit : ∃ e, (many (one (.oneOf [' ', '\t'])) ++ anyOf (marks.map verbatim)).Leads c e := by
    obtain ⟨u, mark, hu, hmark, t, rfl⟩ := h
    exact ⟨_, leads_openLine_iff.2 ⟨u, mark, hu, hmark, passes_skip (by rw [hc, List.append_assoc])⟩⟩
  refine end?_append hfit fun e he => ?_
  obtain ⟨u, mark, hu, hmark, hpass⟩ := leads_openLine_iff.1 he
  obtain ⟨v, rfl⟩ := hpass.prefix_line hc (hmarks.notMem_append hu hmark) hrest
  have hv : ∀ a ∈ v, CharClass.inLine.holds a = true := by
    intro a ha
    have hne : a ≠ '\n' := by
      rintro rfl
      exact hl (List.mem_append_right _ ha)
    simp [CharClass.inLine, CharClass.holds, hne]
  have hahead : e.ahead = v ++ rest := hpass.ahead_eq (by rw [hc, List.append_assoc])
  rw [end?_many_one, hahead, Text.takeWhile_append_of_head hv hstop, hpass.2, skip_skip, ← List.length_append]

theorem end?_lineComment_eq_none (hmarks : WithinLine marks) (hc : c.ahead = l ++ rest)
    (hrest : ∀ a ∈ rest.head?, a = '\n') (h : ¬ OpensLine marks l) : (lineComment marks).end? c = none := by
  refine end?_eq_none_iff.2 ?_
  rintro d ⟨e, he, -⟩
  obtain ⟨u, mark, hu, hmark, hpass⟩ := leads_openLine_iff.1 he
  exact h ⟨u, mark, hu, hmark, hpass.prefix_line hc (hmarks.notMem_append hu hmark) hrest⟩

/-! ## Line by line -/

namespace Cursor

theorem behindLineComment?_of_opensLine (hmarks : WithinLine marks) (hc : c.ahead = l ++ rest) (hl : '\n' ∉ l)
    (hrest : ∀ a ∈ rest.head?, a = '\n') (hstart : c.atLineStart = true) (h : OpensLine marks l) :
    c.behindLineComment? marks = some (c.skip l.length) := by
  have hne := h.ne_nil hmarks
  have hlt : (c.skip l.length).ahead.length < c.ahead.length := by
    refine length_skip_lt (List.length_pos_iff.2 hne).ne' ?_
    rw [hc]
    exact List.append_ne_nil_of_left_ne_nil hne rest
  unfold behindLineComment?
  rw [if_pos hstart, end?_lineComment hmarks hc hl hrest h, Option.filter_some, if_pos (decide_eq_true hlt)]

theorem behindLineComment?_of_not_opensLine (hmarks : WithinLine marks) (hc : c.ahead = l ++ rest)
    (hrest : ∀ a ∈ rest.head?, a = '\n') (h : ¬ OpensLine marks l) : c.behindLineComment? marks = none := by
  unfold behindLineComment?
  rw [end?_lineComment_eq_none hmarks hc hrest h]
  split
  · rfl
  · rfl

theorem behindLineComment?_of_not_atLineStart (h : c.atLineStart = false) : c.behindLineComment? marks = none := by
  unfold behindLineComment?
  rw [h, if_neg Bool.false_ne_true]

theorem eraseLineComments_of_some (h : c.behindLineComment? marks = some d) :
    c.eraseLineComments marks = d.eraseLineComments marks := by
  rw [eraseLineComments]
  split
  · simp_all
  · simp_all

theorem eraseLineComments_nil {x : Option Char} (h : (mk x []).behindLineComment? marks = none) :
    (mk x []).eraseLineComments marks = [] := by
  rw [eraseLineComments]
  split
  · simp_all
  · rfl

theorem eraseLineComments_cons {x : Option Char} {a : Char}
    (h : (mk x (a :: s)).behindLineComment? marks = none) :
    (mk x (a :: s)).eraseLineComments marks = a :: (mk (some a) s).eraseLineComments marks := by
  rw [eraseLineComments]
  split
  · simp_all
  · rfl

/-- Behind a line feed, the statement might as well begin. -/
theorem eraseLineComments_lineFeed (hmarks : WithinLine marks) (s : Text) :
    (mk (some '\n') s).eraseLineComments marks = (start s).eraseLineComments marks := by
  -- the first line of what lies ahead decides at both places
  obtain ⟨hsplit, hl, hrest⟩ := Text.takeWhile_append_dropWhile_line s
  have hs := hsplit.symm
  have hsame : (mk (some '\n') s).behindLineComment? marks = (start s).behindLineComment? marks := by
    by_cases h : OpensLine marks (s.takeWhile (· ≠ '\n'))
    · have hne := h.ne_nil hmarks
      have hnil : s ≠ [] := by
        rintro rfl
        exact hne rfl
      rw [behindLineComment?_of_opensLine hmarks hs hl hrest rfl h,
        behindLineComment?_of_opensLine (c := start s) hmarks hs hl hrest rfl h,
        skip_eq_skip (c := ⟨some '\n', s⟩) (d := start s) rfl (List.length_pos_iff.2 hne).ne' hnil]
    · rw [behindLineComment?_of_not_opensLine hmarks hs hrest h,
        behindLineComment?_of_not_opensLine (c := start s) hmarks hs hrest h]
  cases hx : (start s).behindLineComment? marks with
  | some d => rw [eraseLineComments_of_some hx, eraseLineComments_of_some (hsame.trans hx)]
  | none =>
    cases s with
    | nil => rw [start, eraseLineComments_nil hx, eraseLineComments_nil (hsame.trans hx)]
    | cons a s => rw [start, eraseLineComments_cons hx, eraseLineComments_cons (hsame.trans hx)]

/-- Within a line everything stays. -/
theorem eraseLineComments_withinLine (hmarks : WithinLine marks) {a : Char} (ha : a ≠ '\n') (hl : '\n' ∉ l)
    (s : Text) :
    (mk (some a) (l ++ '\n' :: s)).eraseLineComments marks = l ++ '\n' :: (start s).eraseLineComments marks := by
  have hwithin {a : Char} {t : Text} (ha : a ≠ '\n') : (mk (some a) t).behindLineComment? marks = none :=
    behindLineComment?_of_not_atLineStart (by simp [atLineStart, ha])
  induction l generalizing a with
  | nil => rw [List.nil_append, eraseLineComments_cons (hwithin ha), eraseLineComments_lineFeed hmarks]; rfl
  | cons b l ih =>
    rw [List.mem_cons, not_or] at hl
    rw [List.cons_append, eraseLineComments_cons (hwithin ha), ih (Ne.symm hl.1) hl.2]
    rfl

end Cursor

/-- Without marks there are no such comments. -/
theorem eraseLineComments_nil_marks (s : Text) : eraseLineComments [] s = s := by
  have hnone (c : Cursor) : c.behindLineComment? [] = none := by
    have hend : (lineComment []).end? c = none := by
      refine end?_eq_none_iff.2 ?_
      rintro d ⟨e, he, -⟩
      obtain ⟨u, mark, -, hmark, -⟩ := leads_openLine_iff.1 he
      cases hmark
    unfold behindLineComment?
    rw [hend]
    split
    · rfl
    · rfl
  have hall (x : Option Char) : (mk x s).eraseLineComments [] = s := by
    induction s generalizing x with
    | nil => exact eraseLineComments_nil (hnone _)
    | cons a s ih => rw [eraseLineComments_cons (hnone _), ih]
  exact hall none

/-- A line that begins with a mark goes, and its line feed stays. -/
theorem eraseLineComments_of_opensLine (hmarks : WithinLine marks) (hl : '\n' ∉ l) (h : OpensLine marks l)
    (s : Text) : eraseLineComments marks (l ++ '\n' :: s) = '\n' :: eraseLineComments marks s := by
  have hfirst : (start (l ++ '\n' :: s)).behindLineComment? marks =
      some ((start (l ++ '\n' :: s)).skip l.length) :=
    behindLineComment?_of_opensLine hmarks rfl hl (fun a ha => (Option.some.inj ha).symm) rfl h
  have hpass : (start (l ++ '\n' :: s)).Passes l ((start (l ++ '\n' :: s)).skip l.length) := passes_skip rfl
  rw [eraseLineComments, eraseLineComments_of_some hfirst]
  clear hfirst
  generalize (start (l ++ '\n' :: s)).skip l.length = d at hpass
  obtain ⟨x, r⟩ := d
  obtain rfl : r = '\n' :: s := hpass.ahead_eq rfl
  -- the place behind the comment is within the line still, behind its last character
  rcases List.eq_nil_or_concat' l with rfl | ⟨t, a, rfl⟩
  · exact absurd rfl (h.ne_nil hmarks)
  · have ha : a ≠ '\n' := by
      rintro rfl
      exact hl (by simp)
    obtain rfl : x = some a := hpass.before_eq
    exact eraseLineComments_withinLine hmarks ha List.not_mem_nil s

/-- Any other line stays. -/
theorem eraseLineComments_of_not_opensLine (hmarks : WithinLine marks) (hl : '\n' ∉ l) (h : ¬ OpensLine marks l)
    (s : Text) : eraseLineComments marks (l ++ '\n' :: s) = l ++ '\n' :: eraseLineComments marks s := by
  have hfirst : (start (l ++ '\n' :: s)).behindLineComment? marks = none :=
    behindLineComment?_of_not_opensLine hmarks rfl (fun a ha => (Option.some.inj ha).symm) h
  cases l with
  | nil =>
    have hfeed := eraseLineComments_cons (x := none) (a := '\n') (s := s) hfirst
    rw [eraseLineComments_lineFeed hmarks] at hfeed
    exact hfeed
  | cons a l =>
    rw [List.mem_cons, not_or] at hl
    have hline := eraseLineComments_cons (x := none) (a := a) (s := l ++ '\n' :: s) hfirst
    rw [eraseLineComments_withinLine hmarks (Ne.symm hl.1) hl.2] at hline
    exact hline

end SqlDialects
