/-
Statements in which no block comment opens. They are those that stay as they are when block comments are taken
out (`erase_eq_self_iff`), and what is left of any statement is one of them, so taking block comments out a second
time changes nothing (`erase_erase`).

A comment that is taken out leaves a space, or nothing at the very end. So a text without a space that begins what
is left has stood in one piece in the statement (`prefix_of_prefix_eraseFrom`), and where pieces of the statement
have come together, no mark has come about.
-/
import SqlDialects.Proofs.Statement.Comment.Block

namespace SqlDialects

namespace BlockComments

variable {m : BlockComments} {mode : Mode} {s w : Text}

/-- No block comment opens in the text when it is read in the mode. -/
inductive Uncommented (m : BlockComments) : Mode → Text → Prop
  | nil {mode : Mode} : Uncommented m mode []
  | openString {s : Text} (hs : Uncommented m .inString s) : Uncommented m .outside ('\'' :: s)
  | lineComment {a : Char} {l s : Text} (hquote : a ≠ '\'')
      (hopening : Text.opensWith (a :: (l ++ s)) m.opening = false)
      (hmark : m.lineMarks.any (Text.opensWith (a :: (l ++ s))) = true) (hl : '\n' ∉ l)
      (hend : ∀ b ∈ s.head?, b = '\n') (hs : Uncommented m .outside s) : Uncommented m .outside (a :: (l ++ s))
  | char {a : Char} {s : Text} (hquote : a ≠ '\'')
      (hmarks : ∀ mark ∈ m.opening :: m.lineMarks, Text.opensWith (a :: s) mark = false)
      (hs : Uncommented m .outside s) : Uncommented m .outside (a :: s)
  | closeString {s : Text} (hs : Uncommented m .outside s) : Uncommented m .inString ('\'' :: s)
  | charInString {a : Char} {s : Text} (hquote : a ≠ '\'') (hs : Uncommented m .inString s) :
      Uncommented m .inString (a :: s)

/-! ## What stays -/

theorem eraseFrom_lineComment {a : Char} {rest : Text} (hquote : a ≠ '\'')
    (hopening : Text.opensWith (a :: rest) m.opening = false)
    (hmark : m.lineMarks.any (Text.opensWith (a :: rest)) = true) :
    m.eraseFrom .outside (a :: rest) =
      a :: rest.takeWhile (· ≠ '\n') ++ m.eraseFrom .outside (rest.dropWhile (· ≠ '\n')) := by
  rw [eraseFrom, if_neg hquote, hopening, if_neg Bool.false_ne_true, if_pos hmark]

/-- Where neither a block comment nor a line comment begins, no mark does. -/
theorem opensWith_eq_false_of_mem (hopening : ¬ Text.opensWith s m.opening = true)
    (hlines : ¬ m.lineMarks.any (Text.opensWith s) = true) :
    ∀ mark ∈ m.opening :: m.lineMarks, Text.opensWith s mark = false := by
  refine List.forall_mem_cons.2 ⟨Bool.eq_false_iff.2 hopening, fun mark hmark => ?_⟩
  exact Bool.eq_false_iff.2 fun hbegins => hlines (List.any_eq_true.2 ⟨mark, hmark, hbegins⟩)

theorem Uncommented.eraseFrom_eq (h : m.Uncommented mode s) : m.eraseFrom mode s = s := by
  induction h with
  | nil => rw [eraseFrom]
  | openString _ ih => rw [eraseFrom, if_pos rfl, ih]
  | lineComment hquote hopening hmark hl hend _ ih =>
    obtain ⟨htake, hdrop⟩ := Text.takeWhile_line hl hend
    rw [eraseFrom_lineComment hquote hopening hmark, htake, hdrop, ih, List.cons_append]
  | char hquote hmarks _ ih => rw [eraseFrom_cons hquote hmarks, ih]
  | closeString _ ih => rw [eraseFrom, if_pos rfl, ih]
  | charInString hquote _ ih => rw [eraseFrom, if_neg hquote, ih]

/-- Never is more left than there was. -/
theorem length_eraseFrom_le (m : BlockComments) (mode : Mode) (s : Text) :
    (m.eraseFrom mode s).length ≤ s.length := by
  fun_induction m.eraseFrom mode s with
  | case1 => exact le_rfl
  | case2 _ ih | case5 _ _ _ _ _ ih | case6 _ _ ih => exact Nat.succ_le_succ ih
  | case4 c rest hquote hopens hline ih =>
    have hsplit := congrArg List.length (Text.takeWhile_append_dropWhile_line rest).1
    rw [List.length_append] at hsplit
    rw [List.length_append, List.length_cons, List.length_cons]
    omega
  | case3 _ _ _ _ ih | case7 _ _ _ ih | case8 _ _ _ _ ih | case9 _ _ _ _ _ ih =>
    -- a mark is passed over
    rw [List.length_drop] at ih
    simp only [List.length_cons]
    omega
  | case10 _ _ _ _ _ ih => exact Nat.le_succ_of_le ih

/-- A line comment stays, and no block comment opens in it. -/
theorem Uncommented.line {a : Char} {rest : Text} (hquote : a ≠ '\'')
    (hopening : Text.opensWith (a :: rest) m.opening = false)
    (hmark : m.lineMarks.any (Text.opensWith (a :: rest)) = true)
    (hs : m.Uncommented .outside (rest.dropWhile (· ≠ '\n'))) : m.Uncommented .outside (a :: rest) := by
  obtain ⟨hsplit, hl, hend⟩ := Text.takeWhile_append_dropWhile_line rest
  rw [← hsplit] at hopening hmark ⊢
  exact .lineComment hquote hopening hmark hl hend hs

/-- Of a text in which a block comment opens, less is left than there was. -/
theorem uncommented_of_length_le (hmode : ∀ n, mode ≠ .inComment n) (h : s.length ≤ (m.eraseFrom mode s).length) :
    m.Uncommented mode s := by
  fun_induction m.eraseFrom mode s with
  | case1 => exact .nil
  | case2 rest ih => exact .openString (ih (by simp) (Nat.le_of_succ_le_succ h))
  | case3 c rest hquote hopens ih =>
    -- the mark is gone
    have hle := length_eraseFrom_le m (.inComment 0) (rest.drop (m.opening.length - 1))
    rw [List.length_drop] at hle
    rw [List.length_cons] at h
    omega
  | case4 c rest hquote hopens hline ih =>
    have hsplit := congrArg List.length (Text.takeWhile_append_dropWhile_line rest).1
    rw [List.length_append] at h hsplit
    rw [List.length_cons, List.length_cons] at h
    exact .line hquote (Bool.eq_false_iff.2 hopens) hline (ih (by simp) (by omega))
  | case5 c rest hquote hopens hline ih =>
    exact .char hquote (opensWith_eq_false_of_mem hopens hline) (ih (by simp) (Nat.le_of_succ_le_succ h))
  | case6 c rest ih =>
    have hbehind := Nat.le_of_succ_le_succ h
    by_cases hc : c = '\''
    · subst hc
      exact .closeString (ih (by simp) hbehind)
    · rw [if_neg hc] at hbehind
      rw [dif_neg hc] at ih
      exact .charInString hc (ih (by simp) hbehind)
  | case7 | case8 | case9 | case10 => exact absurd rfl (hmode _)

/-- A statement stays as it is exactly if no block comment opens in it. -/
theorem erase_eq_self_iff : m.erase s = s ↔ m.Uncommented .outside s :=
  ⟨fun h => uncommented_of_length_le (by simp) (congrArg List.length h).ge, Uncommented.eraseFrom_eq⟩

/-! ## What is left -/

/-- A comment leaves nothing, or a space and what is left behind it. -/
theorem head?_eraseFrom_inComment (m : BlockComments) (n : Nat) (s : Text) :
    ∀ a ∈ (m.eraseFrom (.inComment n) s).head?, a = ' ' := by
  generalize hmode : Mode.inComment n = mode
  fun_induction m.eraseFrom mode s generalizing n with
  | case1 => simp
  | case2 | case3 | case4 | case5 | case6 => cases hmode
  | case7 => simp
  | case8 _ _ _ _ ih | case9 _ _ _ _ _ ih | case10 _ _ _ _ _ ih => exact ih _ rfl

/-- What is left begins as the text does, up to a space or to its end. -/
theorem exists_eraseFrom_eq (m : BlockComments) (mode : Mode) (s : Text) :
    ∃ u v, m.eraseFrom mode s = u ++ v ∧ u <+: s ∧ ∀ a ∈ v.head?, a = ' ' := by
  have comment {n : Nat} {t s : Text} :
      ∃ u v, m.eraseFrom (.inComment n) t = u ++ v ∧ u <+: s ∧ ∀ a ∈ v.head?, a = ' ' :=
    ⟨[], _, rfl, List.nil_prefix, head?_eraseFrom_inComment m n t⟩
  have kept {mode : Mode} {l t : Text} (h : ∃ u v, m.eraseFrom mode t = u ++ v ∧ u <+: t ∧ ∀ a ∈ v.head?, a = ' ') :
      ∃ u v, l ++ m.eraseFrom mode t = u ++ v ∧ u <+: l ++ t ∧ ∀ a ∈ v.head?, a = ' ' := by
    obtain ⟨u, v, heq, hu, hv⟩ := h
    exact ⟨l ++ u, v, by rw [heq, List.append_assoc], (List.prefix_append_right_inj l).2 hu, hv⟩
  fun_induction m.eraseFrom mode s with
  | case1 => exact ⟨[], [], rfl, List.nil_prefix, by simp⟩
  | case2 rest ih => exact kept (l := ['\'']) ih
  | case3 => exact comment
  | case4 c rest hquote hopens hline ih =>
    have hline := kept (l := c :: rest.takeWhile (· ≠ '\n')) ih
    have hsplit : c :: rest.takeWhile (· ≠ '\n') ++ rest.dropWhile (· ≠ '\n') = c :: rest := by
      rw [List.cons_append, List.takeWhile_append_dropWhile]
    rwa [hsplit] at hline
  | case5 c rest hquote hopens hline ih => exact kept (l := [c]) ih
  | case6 c rest ih => exact kept (l := [c]) ih
  | case7 => exact ⟨[], _, rfl, List.nil_prefix, by simp⟩
  | case8 | case9 | case10 => exact comment

/-- A text without a space that begins what is left begins the text itself. -/
theorem prefix_of_prefix_eraseFrom (hw : ' ' ∉ w) (h : w <+: m.eraseFrom mode s) : w <+: s := by
  obtain ⟨u, v, heq, hu, hv⟩ := m.exists_eraseFrom_eq mode s
  rw [heq] at h
  refine (Text.prefix_of_prefix_append (fun a ha => ?_) h).trans hu
  rwa [hv a ha]

/-- So a mark without a space begins what is left only where it has begun before. -/
theorem opensWith_eraseFrom_eq_false {mark : Text} (hspace : ' ' ∉ mark) (h : s.opensWith mark = false) :
    (m.eraseFrom mode s).opensWith mark = false := by
  refine Bool.eq_false_iff.2 fun hbegins => Bool.eq_false_iff.1 h ?_
  obtain ⟨hne, hprefix⟩ := Text.opensWith_iff.1 hbegins
  exact Text.opensWith_iff.2 ⟨hne, prefix_of_prefix_eraseFrom hspace hprefix⟩

/-- The mode in which something is kept again. -/
def Mode.resumed : Mode → Mode
  | inComment _ => outside
  | mode => mode

/-- A mark without spaces and line feeds begins with neither. -/
theorem opensWith_eq_false_of_blank {mark : Text} {a : Char} (hmark : ' ' ∉ mark ∧ '\n' ∉ mark)
    (ha : a = ' ' ∨ a = '\n') (s : Text) : Text.opensWith (a :: s) mark = false := by
  refine Text.opensWith_eq_false_of_head (fun hhead => ?_) s
  rcases ha with rfl | rfl
  · exact hmark.1 (List.mem_of_mem_head? hhead)
  · exact hmark.2 (List.mem_of_mem_head? hhead)

/-- A line comment stays one when block comments are taken out behind it. -/
theorem Uncommented.line_eraseFrom {a : Char} {rest : Text}
    (hmarks : ∀ mark ∈ m.opening :: m.lineMarks, ' ' ∉ mark ∧ '\n' ∉ mark) (hquote : a ≠ '\'')
    (hopening : Text.opensWith (a :: rest) m.opening = false)
    (hmark : m.lineMarks.any (Text.opensWith (a :: rest)) = true)
    (hs : m.Uncommented .outside (m.eraseFrom .outside (rest.dropWhile (· ≠ '\n')))) :
    m.Uncommented .outside (a :: (rest.takeWhile (· ≠ '\n') ++ m.eraseFrom .outside (rest.dropWhile (· ≠ '\n')))) := by
  obtain ⟨⟨hspace, -⟩, hlines⟩ := List.forall_mem_cons.1 hmarks
  obtain ⟨hsplit, hl, hend⟩ := Text.takeWhile_append_dropWhile_line rest
  refine .lineComment hquote ?_ ?_ hl ?_ hs
  · have hkept : Text.opensWith (m.eraseFrom .outside (a :: rest)) m.opening = false :=
      opensWith_eraseFrom_eq_false hspace hopening
    rwa [eraseFrom_lineComment hquote hopening hmark] at hkept
  · -- the mark of the line comment lies within the line
    obtain ⟨mark, hmark, hbegins⟩ := List.any_eq_true.1 hmark
    obtain ⟨hne, hprefix⟩ := Text.opensWith_iff.1 hbegins
    rw [← hsplit, ← List.cons_append] at hprefix
    have hwithin : mark <+: a :: rest.takeWhile (· ≠ '\n') :=
      Text.prefix_of_prefix_append (fun b hb => by rw [hend b hb]; exact (hlines mark hmark).2) hprefix
    exact List.any_eq_true.2 ⟨mark, hmark, Text.opensWith_iff.2 ⟨hne, hwithin.trans (List.prefix_append _ _)⟩⟩
  · cases hrest : rest.dropWhile (· ≠ '\n') with
    | nil => simp [eraseFrom]
    | cons b t =>
      obtain rfl : b = '\n' := hend b (by rw [hrest]; rfl)
      have hopens (mark : Text) (hmark : mark ∈ m.opening :: m.lineMarks) : Text.opensWith ('\n' :: t) mark = false :=
        opensWith_eq_false_of_blank (hmarks mark hmark) (.inr rfl) t
      rw [eraseFrom_cons (by decide) hopens]
      simp

/-- No block comment opens in what is left, if the marks of comments are without spaces and line feeds. -/
theorem uncommented_eraseFrom (hmarks : ∀ mark ∈ m.opening :: m.lineMarks, ' ' ∉ mark ∧ '\n' ∉ mark) (mode : Mode)
    (s : Text) : m.Uncommented mode.resumed (m.eraseFrom mode s) := by
  fun_induction m.eraseFrom mode s with
  | case1 => exact .nil
  | case2 rest ih => exact .openString ih
  | case3 _ _ _ _ ih => exact ih
  | case4 c rest hquote hopens hline ih => exact .line_eraseFrom hmarks hquote (Bool.eq_false_iff.2 hopens) hline ih
  | case5 c rest hquote hopens hline ih =>
    have hopens' := opensWith_eq_false_of_mem hopens hline
    have hkept := eraseFrom_cons hquote hopens'
    refine .char hquote (fun mark hmark => ?_) ih
    rw [← hkept]
    exact opensWith_eraseFrom_eq_false (hmarks mark hmark).1 (hopens' mark hmark)
  | case6 c rest ih =>
    by_cases hc : c = '\''
    · subst hc
      exact .closeString ih
    · rw [dif_neg hc] at ih
      rw [if_neg hc]
      exact .charInString hc ih
  | case7 c rest hcloses ih =>
    exact .char (by decide) (fun mark hmark => opensWith_eq_false_of_blank (hmarks mark hmark) (.inl rfl) _) ih
  | case8 _ _ _ _ ih | case9 _ _ _ _ _ ih | case10 _ _ _ _ _ ih => exact ih

/-- Taking block comments out of what is left changes nothing, if the marks of comments are without spaces and line
feeds: no block comment opens in it, and no other texts stay as they are. -/
theorem erase_erase (hmarks : ∀ mark ∈ m.opening :: m.lineMarks, ' ' ∉ mark ∧ '\n' ∉ mark) (s : Text) :
    m.erase (m.erase s) = m.erase s ∧ m.Uncommented .outside (m.erase s) ∧
      (m.erase s = s ↔ m.Uncommented .outside s) := by
  have hleft : m.Uncommented .outside (m.erase s) := uncommented_eraseFrom hmarks .outside s
  exact ⟨hleft.eraseFrom_eq, hleft, erase_eq_self_iff⟩

/-- Marks that have other marks in them. -/
def overlapping : BlockComments := ⟨"<!--'", "-->", true, ["--", "<"]⟩

/-- A comment in which another one lies, a mark in a string literal, one in a line comment, and a comment that does
not close. -/
theorem erase_erase_overlapping :
    (∀ mark ∈ overlapping.opening :: overlapping.lineMarks, ' ' ∉ mark ∧ '\n' ∉ mark) ∧
      overlapping.erase "a<!--'<!--'-->-->'<!--'-- <!--'\n<c\n<!--'d" = "a '<!--'-- <!--'\n<c\n".toList ∧
      overlapping.erase "a '<!--'-- <!--'\n<c\n" = "a '<!--'-- <!--'\n<c\n".toList := by
  have hmarks : ∀ mark ∈ overlapping.opening :: overlapping.lineMarks, ' ' ∉ mark ∧ '\n' ∉ mark := by decide
  have hleft : overlapping.erase "a<!--'<!--'-->-->'<!--'-- <!--'\n<c\n<!--'d" =
      "a '<!--'-- <!--'\n<c\n".toList := by decide +kernel
  obtain ⟨hagain, -, -⟩ := erase_erase hmarks "a<!--'<!--'-->-->'<!--'-- <!--'\n<c\n<!--'d"
  rw [hleft] at hagain
  exact ⟨hmarks, hleft, hagain⟩

end BlockComments

end SqlDialects
