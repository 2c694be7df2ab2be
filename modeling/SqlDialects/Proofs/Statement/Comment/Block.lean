/-
Taking block comments out of a statement. Outside of string literals a whole comment leaves one space
behind, however deep the comments inside it lie and whatever follows it (`BlockComments.erase_comment`), and
a line comment stays as it is (`BlockComments.erase_lineComment`). So a statement behind blanks and whole
comments is left as it would be without them, behind blanks (`BlockComments.Filler.exists_erase`).
-/
import SqlDialects.Proofs.Text.Character
import SqlDialects.Statement.Comment.Block

namespace SqlDialects

/-! ## Marks at the beginning of a text -/

namespace Text

variable {s t mark : Text}

theorem opensWith_iff : s.opensWith mark = true ↔ mark ≠ [] ∧ mark <+: s := by
  simp [opensWith]

theorem opensWith_eq_false_iff (hmark : mark ≠ []) : s.opensWith mark = false ↔ ¬ mark <+: s := by
  rw [Bool.eq_false_iff, Ne, opensWith_iff, and_iff_right hmark]

theorem opensWith_append (hmark : mark ≠ []) (t : Text) : (mark ++ t).opensWith mark = true :=
  opensWith_iff.2 ⟨hmark, List.prefix_append mark t⟩

/-- What follows behind the length of the mark does not matter. -/
theorem opensWith_append_eq (h : mark.length ≤ s.length) (t : Text) :
    (s ++ t).opensWith mark = s.opensWith mark := by
  rw [Bool.eq_iff_iff, opensWith_iff, opensWith_iff]
  refine and_congr_right fun _ => ⟨fun hbegins => ?_, fun hbegins => ?_⟩
  · exact List.prefix_of_prefix_length_le hbegins (List.prefix_append s t) h
  · exact hbegins.trans (List.prefix_append s t)

/-- No mark begins where another begins that is no beginning of it and does not begin with it. -/
theorem opensWith_eq_false_of_apart {other : Text} (h : ¬ mark <+: other) (h' : ¬ other <+: mark)
    (t : Text) : (other ++ t).opensWith mark = false := by
  have hne : mark ≠ [] := by
    rintro rfl
    exact h List.nil_prefix
  refine (opensWith_eq_false_iff hne).2 fun hbegins => ?_
  exact (List.prefix_or_prefix_of_prefix hbegins (List.prefix_append other t)).elim h h'

/-- No mark begins with a character that is not its first. -/
theorem opensWith_eq_false_of_head {a : Char} (h : mark.head? ≠ some a) (rest : Text) :
    opensWith (a :: rest) mark = false := by
  cases mark with
  | nil => rfl
  | cons x mark =>
    have hx : (x == a) = false := beq_false_of_ne fun hxa => h (by rw [hxa]; rfl)
    simp [opensWith, List.isPrefixOf, hx]

/-- A text that begins with a mark, cut behind its first character. -/
theorem exists_cons_of_mark (hmark : mark ≠ []) (rest : Text) :
    ∃ a s, mark ++ rest = a :: s ∧ mark.head? = some a ∧ s.drop (mark.length - 1) = rest := by
  obtain ⟨a, mark, rfl⟩ := List.exists_cons_of_ne_nil hmark
  exact ⟨a, mark ++ rest, rfl, rfl, List.drop_left⟩

end Text

namespace BlockComments

variable {m : BlockComments}

/-! ## Comments -/

/-- What may stand in a comment in front of the rest of the text: characters at which no mark begins
that counts in a comment, and whole comments if comments may lie in one another. -/
inductive Inside (m : BlockComments) : Text → Text → Prop
  | nil {rest : Text} : Inside m [] rest
  | char {a : Char} {s rest : Text} (hclosing : Text.opensWith (a :: s ++ rest) m.closing = false)
      (hopening : m.nested = true → Text.opensWith (a :: s ++ rest) m.opening = false)
      (hs : Inside m s rest) : Inside m (a :: s) rest
  | comment {inner s rest : Text} (hnested : m.nested = true)
      (hinner : Inside m inner (m.closing ++ (s ++ rest))) (hs : Inside m s rest) :
      Inside m (m.opening ++ (inner ++ (m.closing ++ s))) rest

/-- The text is one whole comment. -/
def IsComment (m : BlockComments) (c : Text) : Prop :=
  ∃ inside, c = m.opening ++ (inside ++ m.closing) ∧ m.Inside inside m.closing

/-- The text consists of blanks and whole comments. -/
inductive Filler (m : BlockComments) : Text → Prop
  | nil : Filler m []
  | blank {a : Char} {s : Text} (ha : Character.isBlank a = true) (hs : Filler m s) : Filler m (a :: s)
  | comment {c s : Text} (hc : m.IsComment c) (hs : Filler m s) : Filler m (c ++ s)

/-- The marks can be told apart from each other and from the beginning of a string literal. -/
structure Distinct (m : BlockComments) : Prop where
  opening_apart : ¬ m.opening <+: m.closing
  closing_apart : ¬ m.closing <+: m.opening
  unquoted : m.opening.head? ≠ some '\''

namespace Distinct

theorem opening_ne_nil (h : m.Distinct) : m.opening ≠ [] := by
  intro hnil
  exact h.opening_apart (hnil ▸ List.nil_prefix)

theorem closing_ne_nil (h : m.Distinct) : m.closing ≠ [] := by
  intro hnil
  exact h.closing_apart (hnil ▸ List.nil_prefix)

end Distinct

/-- The usual marks of block comments. -/
def slashStar (nested : Bool) (lineMarks : List Text) : BlockComments := ⟨"/*", "*/", nested, lineMarks⟩

theorem distinct_slashStar (nested : Bool) (lineMarks : List Text) : (slashStar nested lineMarks).Distinct where
  opening_apart := show ¬ ("/*" : Text) <+: "*/" by decide
  closing_apart := show ¬ ("*/" : Text) <+: "/*" by decide
  unquoted := show ("/*" : Text).head? ≠ some '\'' by decide

/-- What stands in a comment may do so whatever follows, if what is known of the rest is as long as the marks
are. -/
theorem Inside.append {s rest : Text} (h : m.Inside s rest) (hclosing : m.closing.length ≤ rest.length + 1)
    (hopening : m.opening.length ≤ rest.length + 1) (t : Text) : m.Inside s (rest ++ t) := by
  induction h with
  | nil => exact .nil
  | @char a s rest hclosing' hopening' _ ih =>
    have hlength : rest.length + 1 ≤ (a :: s ++ rest).length := by
      simp only [List.cons_append, List.length_cons, List.length_append]
      omega
    refine .char ?_ (fun hnested => ?_) (ih hclosing hopening)
    · rw [← List.append_assoc, Text.opensWith_append_eq (Nat.le_trans hclosing hlength), hclosing']
    · rw [← List.append_assoc, Text.opensWith_append_eq (Nat.le_trans hopening hlength), hopening' hnested]
  | @comment inner s rest hnested _ _ ihinner ihs =>
    have hlength : rest.length ≤ (m.closing ++ (s ++ rest)).length := by
      simp only [List.length_append]
      omega
    refine .comment hnested ?_ (ihs hclosing hopening)
    -- the comment inside has even more behind it
    have := ihinner (by omega) (by omega)
    rwa [List.append_assoc, List.append_assoc] at this

/-! ## One step -/

/-- Outside of comments a character stays at which neither a string nor a comment opens. -/
theorem eraseFrom_cons {a : Char} {rest : Text} (hquote : a ≠ '\'')
    (hmarks : ∀ mark ∈ m.opening :: m.lineMarks, Text.opensWith (a :: rest) mark = false) :
    m.eraseFrom .outside (a :: rest) = a :: m.eraseFrom .outside rest := by
  obtain ⟨hopening, hlineMarks⟩ := List.forall_mem_cons.1 hmarks
  have hlines : m.lineMarks.any (Text.opensWith (a :: rest)) = false := by
    rw [List.any_eq_false]
    intro mark hmark
    rw [hlineMarks mark hmark]
    exact Bool.false_ne_true
  rw [eraseFrom, if_neg hquote, hopening, hlines]
  rfl

/-- It stays whatever follows it if no mark begins with it. -/
theorem eraseFrom_cons_of_head {a : Char} (hquote : a ≠ '\'')
    (hheads : ∀ mark ∈ m.opening :: m.lineMarks, mark.head? ≠ some a) (rest : Text) :
    m.eraseFrom .outside (a :: rest) = a :: m.eraseFrom .outside rest :=
  eraseFrom_cons hquote fun mark hmark => Text.opensWith_eq_false_of_head (hheads mark hmark) rest

/-- Characters that open neither a string nor a comment stay. -/
theorem eraseFrom_append {s : Text}
    (hs : ∀ a ∈ s, a ≠ '\'' ∧ ∀ mark ∈ m.opening :: m.lineMarks, mark.head? ≠ some a) (rest : Text) :
    m.eraseFrom .outside (s ++ rest) = s ++ m.eraseFrom .outside rest := by
  induction s with
  | nil => rfl
  | cons a s ih =>
    obtain ⟨⟨hquote, hheads⟩, hs⟩ := List.forall_mem_cons.1 hs
    rw [List.cons_append, eraseFrom_cons_of_head hquote hheads, ih hs, List.cons_append]

theorem erase_nil (m : BlockComments) : m.erase [] = [] := by simp [erase, eraseFrom]

/-- Outside, an opening mark begins a comment. -/
theorem eraseFrom_opening (hm : m.Distinct) (rest : Text) :
    m.eraseFrom .outside (m.opening ++ rest) = m.eraseFrom (.inComment 0) rest := by
  have hopens := Text.opensWith_append hm.opening_ne_nil rest
  obtain ⟨a, s, hs, hhead, hdrop⟩ := Text.exists_cons_of_mark hm.opening_ne_nil rest
  have ha : a ≠ '\'' := by
    rintro rfl
    exact hm.unquoted hhead
  rw [hs] at hopens ⊢
  rw [eraseFrom, if_neg ha, if_pos hopens, hdrop]

theorem eraseFrom_not_closing {a : Char} {rest : Text} (n : Nat)
    (hclosing : Text.opensWith (a :: rest) m.closing = false) :
    m.eraseFrom (.inComment n) (a :: rest) =
      if m.nested && Text.opensWith (a :: rest) m.opening then
        m.eraseFrom (.inComment (n + 1)) (rest.drop (m.opening.length - 1))
      else m.eraseFrom (.inComment n) rest := by
  cases n with
  | zero => rw [eraseFrom, hclosing, if_neg Bool.false_ne_true]
  | succ n => rw [eraseFrom, hclosing, if_neg Bool.false_ne_true]

/-- In a comment, an opening mark begins another one if they may lie in one another. -/
theorem eraseFrom_opening_inComment (hm : m.Distinct) (hnested : m.nested = true) (n : Nat) (rest : Text) :
    m.eraseFrom (.inComment n) (m.opening ++ rest) = m.eraseFrom (.inComment (n + 1)) rest := by
  have hopens := Text.opensWith_append hm.opening_ne_nil rest
  have hcloses := Text.opensWith_eq_false_of_apart hm.closing_apart hm.opening_apart rest
  obtain ⟨a, s, hs, -, hdrop⟩ := Text.exists_cons_of_mark hm.opening_ne_nil rest
  rw [hs] at hopens hcloses ⊢
  rw [eraseFrom_not_closing n hcloses, hnested, Bool.true_and, if_pos hopens, hdrop]

/-- A closing mark ends the innermost comment, and leaves a space if it lies in no other. -/
theorem eraseFrom_closing (hm : m.Distinct) (n : Nat) (rest : Text) :
    m.eraseFrom (.inComment n) (m.closing ++ rest) =
      if n = 0 then ' ' :: m.eraseFrom .outside rest else m.eraseFrom (.inComment (n - 1)) rest := by
  have hcloses := Text.opensWith_append hm.closing_ne_nil rest
  obtain ⟨a, s, hs, -, hdrop⟩ := Text.exists_cons_of_mark hm.closing_ne_nil rest
  rw [hs] at hcloses ⊢
  cases n with
  | zero => rw [eraseFrom, if_pos hcloses, hdrop, if_pos rfl]
  | succ n => rw [eraseFrom, if_pos hcloses, hdrop, if_neg (Nat.succ_ne_zero n), Nat.add_sub_cancel]

/-- In a comment, a character at which no mark begins is passed over. -/
theorem eraseFrom_char {a : Char} {rest : Text} (n : Nat) (hclosing : Text.opensWith (a :: rest) m.closing = false)
    (hopening : m.nested = true → Text.opensWith (a :: rest) m.opening = false) :
    m.eraseFrom (.inComment n) (a :: rest) = m.eraseFrom (.inComment n) rest := by
  have hopening' : (m.nested && Text.opensWith (a :: rest) m.opening) = false := by
    cases hnested : m.nested with
    | false => rfl
    | true => exact hopening hnested
  rw [eraseFrom_not_closing n hclosing, hopening', if_neg Bool.false_ne_true]

/-! ## Whole comments -/

/-- What stands in a comment leaves nothing, and the comment is as deep behind it as before. -/
theorem Inside.eraseFrom_eq (hm : m.Distinct) {s rest : Text} (h : m.Inside s rest) (n : Nat) :
    m.eraseFrom (.inComment n) (s ++ rest) = m.eraseFrom (.inComment n) rest := by
  induction h generalizing n with
  | nil => rfl
  | @char a s rest hclosing hopening _ ih =>
    have hchar : m.eraseFrom (.inComment n) (a :: (s ++ rest)) = m.eraseFrom (.inComment n) (s ++ rest) :=
      eraseFrom_char n hclosing hopening
    rw [List.cons_append, hchar, ih]
  | comment hnested _ _ ihinner ihs =>
    -- one deeper through the comment inside, and back again behind it
    rw [List.append_assoc, List.append_assoc, List.append_assoc, eraseFrom_opening_inComment hm hnested,
      ihinner, eraseFrom_closing hm, if_neg (Nat.succ_ne_zero n), Nat.add_sub_cancel, ihs]

/-- A whole comment outside leaves one space. -/
theorem erase_comment (hm : m.Distinct) {inside rest : Text} (h : m.Inside inside (m.closing ++ rest)) :
    m.erase (m.opening ++ (inside ++ (m.closing ++ rest))) = ' ' :: m.erase rest := by
  rw [erase, eraseFrom_opening hm, h.eraseFrom_eq hm, eraseFrom_closing hm, if_pos rfl, erase]

/-- Blanks and whole comments leave blanks, whatever follows. -/
theorem Filler.exists_erase (hm : m.Distinct) (hlength : m.opening.length ≤ m.closing.length + 1)
    (hblank : ∀ mark ∈ m.opening :: m.lineMarks, mark.head?.any Character.isBlank = false) {p : Text}
    (hp : m.Filler p) :
    ∃ u : Text, (∀ a ∈ u, Character.isBlank a = true) ∧ ∀ s, m.erase (p ++ s) = u ++ m.erase s := by
  induction hp with
  | nil => exact ⟨[], by simp, fun s => rfl⟩
  | @blank a p ha _ ih =>
    obtain ⟨u, hu, herase⟩ := ih
    refine ⟨a :: u, List.forall_mem_cons.2 ⟨ha, hu⟩, fun s => ?_⟩
    have hquote : a ≠ '\'' := by
      rintro rfl
      cases ha
    have hheads : ∀ mark ∈ m.opening :: m.lineMarks, mark.head? ≠ some a := by
      intro mark hmark hhead
      have := hblank mark hmark
      rw [hhead, Option.any_some, ha] at this
      cases this
    rw [List.cons_append, erase, eraseFrom_cons_of_head hquote hheads, ← erase, herase, List.cons_append]
  | comment hc _ ih =>
    obtain ⟨inside, rfl, hinside⟩ := hc
    obtain ⟨u, hu, herase⟩ := ih
    refine ⟨' ' :: u, List.forall_mem_cons.2 ⟨rfl, hu⟩, fun s => ?_⟩
    rw [List.append_assoc, List.append_assoc, List.append_assoc,
      erase_comment hm (hinside.append (Nat.le_succ _) hlength _), herase, List.cons_append]

/-! ## Comments that do not lie in one another -/

/-- What stands in such a comment ends with the first closing mark. -/
theorem Inside.endOfFirst?_eq (hm : m.Distinct) (hnested : m.nested = false) {s rest : Text} (h : m.Inside s rest)
    (hrest : m.closing <+: rest) :
    Text.endOfFirst? m.closing (s ++ rest) = some (s.length + m.closing.length) := by
  induction h with
  | @nil rest =>
    obtain ⟨t, rfl⟩ := hrest
    obtain ⟨a, o, ho⟩ := List.exists_cons_of_ne_nil hm.closing_ne_nil
    rw [ho, List.nil_append, List.cons_append, Text.endOfFirst?, if_pos (by simp)]
    simp
  | @char a s rest hclosing _ _ ih =>
    have hfirst : ¬ m.closing.isPrefixOf (a :: (s ++ rest)) = true := by
      rw [List.isPrefixOf_iff_prefix]
      exact (Text.opensWith_eq_false_iff hm.closing_ne_nil).1 hclosing
    rw [List.cons_append, Text.endOfFirst?, if_neg hfirst, ih hrest, Option.map_some, List.length_cons]
    congr 1
    omega
  | comment hnested' => rw [hnested] at hnested'; cases hnested'

theorem Inside.occurs_eq_false (hm : m.Distinct) (hnested : m.nested = false) {s rest : Text}
    (h : m.Inside s rest) : Text.occurs m.closing s = false := by
  induction h with
  | nil => exact List.isEmpty_eq_false_iff.2 hm.closing_ne_nil
  | @char a s rest hclosing _ _ ih =>
    rw [Text.occurs, ih, Bool.or_false, Bool.eq_false_iff, Ne, List.isPrefixOf_iff_prefix]
    intro hbegins
    exact (Text.opensWith_eq_false_iff hm.closing_ne_nil).1 hclosing (hbegins.trans (List.prefix_append _ _))
  | comment hnested' => rw [hnested] at hnested'; cases hnested'

theorem inside_of_occurs_eq_false {lineMarks : List Text} {s : Text} (h : Text.occurs "*/" s = false) :
    (slashStar false lineMarks).Inside s "*/" := by
  induction s with
  | nil => exact .nil
  | cons a s ih =>
    rw [Text.occurs, Bool.or_eq_false_iff] at h
    refine .char ?_ (fun hnested => by cases hnested) (ih h.2)
    refine (Text.opensWith_eq_false_iff (distinct_slashStar false lineMarks).closing_ne_nil).2 fun hbegins => ?_
    -- a mark that begins here is there already without the closing one behind the text
    obtain ⟨rfl, hslash⟩ := List.cons_prefix_cons.1 hbegins
    cases s with
    | nil => exact absurd (List.cons_prefix_cons.1 hslash).1 (by decide)
    | cons b s =>
      obtain ⟨rfl, -⟩ := List.cons_prefix_cons.1 hslash
      cases h.1

/-- Between the usual marks, such a comment has no closing mark before its end. -/
theorem isComment_iff_of_not_nested {lineMarks : List Text} {c : Text} :
    (slashStar false lineMarks).IsComment c ↔
      ∃ inside, c = "/*" ++ (inside ++ "*/") ∧ Text.occurs "*/" inside = false :=
  exists_congr fun _ => and_congr_right fun _ =>
    ⟨Inside.occurs_eq_false (distinct_slashStar false lineMarks) rfl, inside_of_occurs_eq_false⟩

/-! ## Line comments -/

theorem erase_lineFeed (hmarks : ∀ mark ∈ m.opening :: m.lineMarks, mark.head? ≠ some '\n') (s : Text) :
    m.erase ('\n' :: s) = '\n' :: m.erase s :=
  eraseFrom_cons_of_head (by decide) hmarks s

/-- A line that begins with the mark of a line comment stays as it is. -/
theorem erase_lineComment {mark l : Text} (hmark : mark ∈ m.lineMarks) (hne : mark ≠ []) (hbegins : mark <+: l)
    (hl : '\n' ∉ l) (hfirst : ∀ a ∈ l.head?, a ≠ '\'' ∧ m.opening.head? ≠ some a) (s : Text) :
    m.erase (l ++ '\n' :: s) = l ++ m.erase ('\n' :: s) := by
  cases l with
  | nil => exact absurd (List.prefix_nil.1 hbegins) hne
  | cons a l =>
    obtain ⟨hquote, hopening⟩ := hfirst a rfl
    have hcomment : m.lineMarks.any (Text.opensWith (a :: (l ++ '\n' :: s))) = true :=
      List.any_eq_true.2 ⟨mark, hmark, Text.opensWith_iff.2 ⟨hne, hbegins.trans (List.prefix_append _ _)⟩⟩
    obtain ⟨htake, hdrop⟩ := Text.takeWhile_line (s := '\n' :: s) (fun h => hl (List.mem_cons_of_mem a h)) (by simp)
    rw [erase, List.cons_append, eraseFrom, if_neg hquote, Text.opensWith_eq_false_of_head hopening,
      if_neg Bool.false_ne_true, if_pos hcomment, htake, hdrop, erase]

/-! ## Texts without comments -/

/-- Outside of comments, a text in which no comment opens stays as it is. -/
theorem eraseFrom_eq_self {mode : Mode} (hmode : ∀ n, mode ≠ .inComment n) {s : Text}
    (h : ¬ m.opening <:+: s) : m.eraseFrom mode s = s := by
  fun_induction m.eraseFrom mode s with
  | case1 => rfl
  | case2 rest ih => rw [ih (by simp) (mt List.infix_cons h)]
  | case3 c rest hquote hopens => exact absurd (Text.opensWith_iff.1 hopens).2.isInfix h
  | case4 c rest hquote hopens hline ih =>
    have hsuffix := (List.dropWhile_suffix (l := rest) fun a => decide (a ≠ '\n')).trans (List.suffix_cons c rest)
    rw [ih (by simp) fun hoccurs => h (hoccurs.trans hsuffix.isInfix), List.cons_append,
      List.takeWhile_append_dropWhile]
  | case5 c rest hquote hopens hline ih => rw [ih (by simp) (mt List.infix_cons h)]
  | case6 c rest ih =>
    have hbehind := ih (by split <;> simp) (mt List.infix_cons h)
    by_cases hc : c = '\''
    · rw [dif_pos hc] at hbehind
      rw [if_pos hc, hbehind]
    · rw [dif_neg hc] at hbehind
      rw [if_neg hc, hbehind]
  | case7 | case8 | case9 | case10 => exact absurd rfl (hmode _)

/-- In a string literal, a text whose apostrophes have been doubled stays as it is, and the apostrophe behind it ends
the literal. -/
theorem eraseFrom_double (m : BlockComments) (s rest : Text) :
    m.eraseFrom .inString (s.double '\'' ++ '\'' :: rest) = s.double '\'' ++ '\'' :: m.eraseFrom .outside rest := by
  unfold Text.double
  induction s with
  | nil => rw [List.flatMap_nil, List.nil_append, eraseFrom, if_pos rfl, List.nil_append]
  | cons a s ih =>
    rw [List.flatMap_cons, List.append_assoc, List.append_assoc]
    split
    · -- the first of the two apostrophes ends the literal, and the second begins it again
      rw [List.cons_append, List.singleton_append, eraseFrom, if_pos rfl, eraseFrom, if_pos rfl, ih]
      rfl
    · rename_i ha
      rw [List.singleton_append, eraseFrom, if_neg ha, ih]
      rfl

end BlockComments

end SqlDialects
