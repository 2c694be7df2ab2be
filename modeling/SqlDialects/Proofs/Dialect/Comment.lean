/-
What leading comments mean to the built-in dialects. Blanks and whole block comments in front of a
statement never change how it is read (`readsAlike_filler_append`). A line comment in front of it does not
either, with one exception: a hash sign marks a comment only in front of a space, unless an added mark begins
with it as well (`readsAlike_lineComment_iff`).
-/
import SqlDialects.Proofs.Dialect.Transaction
import SqlDialects.Proofs.Statement.Comment.Line
import SqlDialects.Proofs.Statement.Filler

namespace SqlDialects

open Cursor

/-! ## Reading alike -/

/-- The dialect reads one statement like the other: the same is left of both without comments, both have the
same first word, and both mean the same for a transaction. -/
structure Dialect.ReadsAlike (d : Dialect) (s t : Text) : Prop where
  stripComments : d.reader.stripComments s = d.reader.stripComments t
  firstWord : d.reader.firstWord s = d.reader.firstWord t
  firstKeyword : d.firstKeyword s = d.firstKeyword t
  isModifying : d.isModifying s = d.isModifying t
  isCommit : d.isCommit s = d.isCommit t
  isRollback : d.isRollback s = d.isRollback t

/-- Everything about a statement is told by what is left of it without comments. -/
theorem Dialect.readsAlike_iff {d : Dialect} {s t : Text} :
    d.ReadsAlike s t ↔ d.reader.stripComments s = d.reader.stripComments t := by
  refine ⟨ReadsAlike.stripComments, fun h => ?_⟩
  have hfirst : d.reader.firstWord s = d.reader.firstWord t := by rw [Reader.firstWord, h, Reader.firstWord]
  have hkeyword : d.firstKeyword s = d.firstKeyword t := by rw [firstKeyword, hfirst, firstKeyword]
  have hany (words : List Text) : d.beginsWithAny s words = d.beginsWithAny t words := by
    rw [beginsWithAny, hkeyword, beginsWithAny]
  refine ⟨h, hfirst, hkeyword, ?_, hany _, hany _⟩
  rw [isModifying, verdict?, h, isModifying, verdict?]

/-! ## Block comments -/

/-- The block comments of an engine; those of Postgres alone lie in one another. -/
def Engine.blockComments (e : Engine) : BlockComments :=
  .slashStar e.dialect.profile.supportsNestedComments e.dialect.profile.lineComments

open BlockComments in
/-- Blanks and comments that do not lie in one another are cut off by the lexer. -/
theorem BlockComments.Filler.stripped_append {lineMarks : List Text} {p : Text}
    (hp : (slashStar false lineMarks).Filler p) (s : Text) : (start (p ++ s)).stripped = (start s).stripped := by
  induction hp with
  | nil => rfl
  | blank ha _ ih => rw [List.cons_append, start, stripped_blank_cons ha, ih]
  | @comment c t hc _ ih =>
    obtain ⟨inside, rfl, hinside⟩ := hc
    have hm := distinct_slashStar false lineMarks
    have hclosed := (hinside.append (Nat.le_succ _) (Nat.le_succ _) (t ++ s)).endOfFirst?_eq hm rfl
      (List.prefix_append _ _)
    have hahead : (start ((slashStar false lineMarks).opening ++ (inside ++ (slashStar false lineMarks).closing) ++
        t ++ s)).ahead = '/' :: '*' :: (inside ++ '*' :: '/' :: (t ++ s)) := by
      simp [start, slashStar]
    rw [stripped_of_blockComment hahead hclosed, ih]

/-- Blanks and whole block comments in front of a statement make no difference to any built-in dialect; in
Postgres, comments may lie in one another. -/
theorem readsAlike_filler_append (e : Engine) {p : Text} (hp : e.blockComments.Filler p) (s : Text) :
    e.dialect.ReadsAlike (p ++ s) s := by
  rw [Dialect.readsAlike_iff, Engine.reader_dialect]
  -- one engine takes block comments out before the lexer reads the statement, the others leave them to it
  cases e with
  | postgres =>
    have hm : Engine.postgres.blockComments.Distinct := BlockComments.distinct_slashStar _ _
    obtain ⟨u, hu, herase⟩ := hp.exists_erase hm (Nat.le_succ _) (by decide)
    show (start (Engine.postgres.blockComments.erase (p ++ s))).stripped =
      (start (Engine.postgres.blockComments.erase s)).stripped
    rw [herase, stripped_isBlank_append hu]
  | generic | mysql | sqlite | oracle | mssql => exact hp.stripped_append s

theorem readsAlike_filler_append_nested :
    Engine.postgres.blockComments.Filler "/*a/*b*/*/ " ∧
      Engine.postgres.dialect.ReadsAlike ("/*a/*b*/*/ " ++ "UPDATE t SET a = 1") "UPDATE t SET a = 1" ∧
      Engine.mysql.blockComments.Filler "/*a/*b*/\n" ∧
      Engine.mysql.dialect.ReadsAlike ("/*a/*b*/\n" ++ "UPDATE t SET a = 1") "UPDATE t SET a = 1" := by
  have hinner : Engine.postgres.blockComments.Inside ['b'] "*/*/" := .char (by decide) (fun _ => by decide) .nil
  have hinside : Engine.postgres.blockComments.Inside "a/*b*/" "*/" :=
    .char (by decide) (fun _ => by decide) (.comment rfl hinner .nil)
  have hnested : Engine.postgres.blockComments.Filler "/*a/*b*/*/ " :=
    .comment ⟨"a/*b*/", rfl, hinside⟩ (.blank rfl .nil)
  have hflat : Engine.mysql.blockComments.Filler "/*a/*b*/\n" :=
    .comment (BlockComments.isComment_iff_of_not_nested.2 ⟨"a/*b", rfl, by decide⟩) (.blank rfl .nil)
  exact ⟨hnested, readsAlike_filler_append .postgres hnested _, hflat, readsAlike_filler_append .mysql hflat _⟩

/-! ## Line comments -/

/-- The dialect with further marks of line comments. -/
def Dialect.withLineComments (d : Dialect) (further : List Text) : Dialect :=
  let p := { d.profile with lineComments := d.profile.lineComments ++ further }
  { d with profile := p, reader := p.reader }

namespace Profile

/-- The marks of line comments can stand within a line, and if block comments are taken out before the lexer
reads the statement, they are the usual ones and the marks of line comments are known there. -/
structure MarksWithinLine (p : Profile) : Prop where
  lineComments : WithinLine p.lineComments
  blockComments : ∀ m ∈ p.extraBlockComments, m.opening = "/*" ∧ m.lineMarks = p.lineComments

variable {p : Profile} {l mark : Text}

theorem eraseExtraComments_eq (p : Profile) (s : Text) :
    p.eraseExtraComments s =
      match p.extraBlockComments with
      | some m => m.erase (eraseLineComments p.extraLineComments s)
      | none => eraseLineComments p.extraLineComments s := by
  have hlines : (if p.extraLineComments.isEmpty then s else eraseLineComments p.extraLineComments s) =
      eraseLineComments p.extraLineComments s := by
    split
    · rename_i hempty
      rw [List.isEmpty_iff.1 hempty, eraseLineComments_nil_marks]
    · rfl
  exact congrArg (fun t => match p.extraBlockComments with | some m => m.erase t | none => t) hlines

theorem MarksWithinLine.extraLineComments (hp : p.MarksWithinLine) : WithinLine p.extraLineComments :=
  fun mark hmark => hp.lineComments mark (List.mem_of_mem_filter hmark)

theorem MarksWithinLine.head?_ne_lineFeed (hp : p.MarksWithinLine) {m : BlockComments}
    (hm : m ∈ p.extraBlockComments) : ∀ mark ∈ m.opening :: m.lineMarks, mark.head? ≠ some '\n' := by
  obtain ⟨hopening, hlines⟩ := hp.blockComments m hm
  rw [hopening, hlines, List.forall_mem_cons]
  refine ⟨by decide, fun mark hmark hhead => ?_⟩
  exact (hp.lineComments mark hmark).2 (List.mem_of_mem_head? hhead)

theorem eraseExtraComments_nil (hp : p.MarksWithinLine) : p.eraseExtraComments [] = [] := by
  have hnone : (start []).behindLineComment? p.extraLineComments = none :=
    behindLineComment?_of_not_opensLine (l := []) hp.extraLineComments rfl (fun a ha => by cases ha)
      fun h => h.ne_nil hp.extraLineComments rfl
  have hlines : eraseLineComments p.extraLineComments [] = [] := Cursor.eraseLineComments_nil hnone
  rw [eraseExtraComments_eq, hlines]
  cases p.extraBlockComments with
  | none => rfl
  | some m => exact m.erase_nil

/-- A line that begins with an extra mark is taken out. -/
theorem eraseExtraComments_of_opensLine (hp : p.MarksWithinLine) (hl : '\n' ∉ l)
    (h : OpensLine p.extraLineComments l) (s : Text) :
    p.eraseExtraComments (l ++ '\n' :: s) = '\n' :: p.eraseExtraComments s := by
  rw [eraseExtraComments_eq, eraseExtraComments_eq, eraseLineComments_of_opensLine hp.extraLineComments hl h]
  cases hm : p.extraBlockComments with
  | none => rfl
  | some m => exact m.erase_lineFeed (hp.head?_ne_lineFeed hm) _

/-- A line comment that the lexer knows stays, unless an extra mark begins its line. -/
theorem eraseExtraComments_of_not_opensLine (hp : p.MarksWithinLine) (hmark : mark ∈ p.lineComments)
    (hknown : mark = ['-', '-'] ∨ mark = ['#']) (hbegins : mark <+: l) (hl : '\n' ∉ l)
    (h : ¬ OpensLine p.extraLineComments l) (s : Text) :
    p.eraseExtraComments (l ++ '\n' :: s) = l ++ '\n' :: p.eraseExtraComments s := by
  rw [eraseExtraComments_eq, eraseExtraComments_eq, eraseLineComments_of_not_opensLine hp.extraLineComments hl h]
  cases hm : p.extraBlockComments with
  | none => rfl
  | some m =>
    obtain ⟨hopening, hlines⟩ := hp.blockComments m hm
    have hfirst : ∀ a ∈ l.head?, a ≠ '\'' ∧ m.opening.head? ≠ some a := by
      rw [hopening]
      obtain ⟨t, rfl⟩ := hbegins
      intro a ha
      rcases hknown with rfl | rfl
      · obtain rfl : '-' = a := Option.some.inj ha
        decide
      · obtain rfl : '#' = a := Option.some.inj ha
        decide
    have hmark' : mark ∈ m.lineMarks := by rw [hlines]; exact hmark
    show m.erase _ = l ++ '\n' :: m.erase _
    rw [m.erase_lineComment hmark' (hp.lineComments mark hmark).1 hbegins hl hfirst,
      m.erase_lineFeed (hp.head?_ne_lineFeed hm)]

end Profile

namespace Engine

variable {further : List Text}

theorem withLineComments_nil (e : Engine) : e.dialect.withLineComments [] = e.dialect := by
  cases e <;> rfl

theorem extraBlockComments_withLineComments (e : Engine) (further : List Text) :
    (e.dialect.withLineComments further).profile.extraBlockComments =
      if e = .postgres then some (.slashStar true ("--" :: further)) else none := by
  cases e <;> rfl

theorem withinLine_lineComments (e : Engine) : WithinLine e.dialect.profile.lineComments := by
  cases e <;> decide

theorem marksWithinLine (e : Engine) (hfurther : WithinLine further) :
    (e.dialect.withLineComments further).profile.MarksWithinLine := by
  refine ⟨fun mark hmark => ?_, fun m hm => ?_⟩
  · exact (List.mem_append.1 hmark).elim (e.withinLine_lineComments mark) (hfurther mark)
  · rw [extraBlockComments_withLineComments] at hm
    split at hm
    · rename_i he
      subst he
      cases hm
      exact ⟨rfl, rfl⟩
    · cases hm

end Engine

namespace Profile

variable {p : Profile} {mark c : Text}

/-- A mark that the lexer does not know begins the line. -/
theorem opensLine_or_known (hmark : mark ∈ p.lineComments) (c : Text) :
    OpensLine p.extraLineComments (mark ++ c) ∨ mark = ['-', '-'] ∨ mark = ['#'] := by
  by_cases hknown : mark = ['-', '-'] ∨ mark = ['#']
  · exact .inr hknown
  · refine .inl ⟨[], mark, by simp, List.mem_filter.2 ⟨hmark, ?_⟩, List.prefix_append mark c⟩
    rw [not_or] at hknown
    simp [hknown]

/-- No mark stands behind spaces and tabs in front of a hash sign. -/
theorem opensLine_hash_iff {marks : List Text} :
    OpensLine marks (['#'] ++ c) ↔ ∃ mark ∈ marks, mark <+: ['#'] ++ c := by
  constructor
  · rintro ⟨u, mark, hu, hmark, hbegins⟩
    cases u with
    | nil => exact ⟨mark, hmark, hbegins⟩
    | cons a u =>
      obtain ⟨rfl, -⟩ := List.cons_prefix_cons.1 hbegins
      exact absurd (hu '#' List.mem_cons_self) (by decide)
  · rintro ⟨mark, hmark, hbegins⟩
    exact ⟨[], mark, by simp, hmark, hbegins⟩

/-- A line comment in front of a statement makes no difference where an extra mark begins its line or the lexer
knows its mark. -/
theorem stripComments_lineComment (hp : p.MarksWithinLine) (hmark : mark ∈ p.lineComments)
    (hc : ∀ a ∈ c, a ≠ '\n' ∧ a ≠ '\r')
    (hspace : mark = ['#'] → c.head? = some ' ' ∨ ∃ m ∈ p.extraLineComments, m <+: mark ++ c) (s : Text) :
    p.stripComments (mark ++ c ++ '\n' :: s) = p.stripComments s := by
  have hl : '\n' ∉ mark ++ c := by
    intro hmem
    rcases List.mem_append.1 hmem with hmem | hmem
    · exact (hp.lineComments mark hmark).2 hmem
    · exact (hc _ hmem).1 rfl
  show (start (p.eraseExtraComments (mark ++ c ++ '\n' :: s))).stripped = (start (p.eraseExtraComments s)).stripped
  by_cases h : OpensLine p.extraLineComments (mark ++ c)
  · rw [eraseExtraComments_of_opensLine hp hl h, start, stripped_blank_cons rfl]
  · have hknown := (opensLine_or_known hmark c).resolve_left h
    rw [eraseExtraComments_of_not_opensLine hp hmark hknown (List.prefix_append mark c) hl h]
    have hknown' : ∀ a ∈ mark, a ≠ '\n' ∧ a ≠ '\r' := by
      rcases hknown with rfl | rfl
      · simp
      · simp
    have hline : ∀ a ∈ mark ++ c, a ≠ '\n' ∧ a ≠ '\r' :=
      fun a ha => (List.mem_append.1 ha).elim (hknown' a) (hc a)
    refine stripped_of_lineComment rfl hline ?_
    rcases hknown with rfl | rfl
    · exact .inl (List.prefix_append _ c)
    · rcases hspace rfl with hhead | hextra
      · -- the space belongs to the mark that the lexer knows
        obtain ⟨t, rfl⟩ := List.head?_eq_some_iff.1 hhead
        exact .inr (List.prefix_append _ t)
      · exact absurd (opensLine_hash_iff.2 hextra) h

/-- In front of an empty statement, a hash sign without a space behind it is seen. -/
theorem stripComments_hash_ne (hp : p.MarksWithinLine) (hmark : ['#'] ∈ p.lineComments) (hc : '\n' ∉ c)
    (hspace : c.head? ≠ some ' ') (hextra : ¬ ∃ m ∈ p.extraLineComments, m <+: ['#'] ++ c) :
    p.stripComments (['#'] ++ c ++ ['\n']) ≠ p.stripComments [] := by
  have hl : '\n' ∉ ['#'] ++ c := by
    rw [List.mem_append, not_or]
    exact ⟨by decide, hc⟩
  have hempty : p.stripComments [] = [] := by
    show (start (p.eraseExtraComments [])).stripped = []
    rw [eraseExtraComments_nil hp, stripped_nil]
  have hbehind : (c ++ '\n' :: p.eraseExtraComments []).head? ≠ some ' ' := by
    cases c with
    | nil => simp
    | cons a c => exact hspace
  rw [hempty]
  show (start (p.eraseExtraComments (['#'] ++ c ++ '\n' :: []))).stripped ≠ []
  rw [eraseExtraComments_of_not_opensLine hp hmark (.inr rfl) (List.prefix_append _ c) hl
    (mt opensLine_hash_iff.1 hextra)]
  exact stripped_hash_ne_nil rfl hbehind

end Profile

/-- A line comment in front of a statement makes no difference to a built-in dialect with further marks of
line comments, but for one thing: a hash sign marks a comment only in front of a space, unless one of the
further marks begins there too. -/
theorem readsAlike_lineComment_iff (e : Engine) {further : List Text}
    (hfurther : ∀ mark ∈ further, mark ≠ [] ∧ '\n' ∉ mark) {mark c : Text}
    (hmark : mark ∈ (e.dialect.withLineComments further).profile.lineComments)
    (hc : ∀ a ∈ c, a ≠ '\n' ∧ a ≠ '\r') :
    (∀ s, (e.dialect.withLineComments further).ReadsAlike (mark ++ c ++ '\n' :: s) s) ↔
      (mark = "#" → c.head? = some ' ' ∨
        ∃ m ∈ (e.dialect.withLineComments further).profile.extraLineComments, m <+: mark ++ c) := by
  have hp := e.marksWithinLine hfurther
  simp only [Dialect.readsAlike_iff]
  constructor
  · rintro h rfl
    by_contra hcontra
    rw [not_or] at hcontra
    -- the empty statement tells the comment and nothing apart
    exact Profile.stripComments_hash_ne hp hmark (fun hmem => (hc _ hmem).1 rfl) hcontra.1 hcontra.2 (h [])
  · intro hspace s
    exact Profile.stripComments_lineComment hp hmark hc hspace s

theorem readsAlike_lineComment_iff_hash :
    (∀ mark ∈ [("//" : Text)], mark ≠ [] ∧ '\n' ∉ mark) ∧
      ("#" : Text) ∈ (Engine.mysql.dialect.withLineComments ["//"]).profile.lineComments ∧
      (∀ a ∈ ("note" : Text), a ≠ '\n' ∧ a ≠ '\r') ∧
      ((∀ s, (Engine.mysql.dialect.withLineComments ["//"]).ReadsAlike ("#" ++ "note" ++ '\n' :: s) s) ↔
        (("#" : Text) = "#" → List.head? "note".toList = some ' ' ∨
          ∃ m ∈ (Engine.mysql.dialect.withLineComments ["//"]).profile.extraLineComments, m <+: "#" ++ "note")) :=
  ⟨by decide, by decide, by simp, readsAlike_lineComment_iff .mysql (by decide) (by decide) (by simp)⟩

/-- A statement that modifies is taken for one that is only read behind such a comment. -/
theorem not_readsAlike_hash_mysql :
    ("#" : Text) ∈ Engine.mysql.dialect.profile.lineComments ∧ (∀ a ∈ ("note" : Text), a ≠ '\n' ∧ a ≠ '\r') ∧
      Engine.mysql.dialect.isModifying "UPDATE t SET a = 1" = true ∧
      Engine.mysql.dialect.isModifying ("#" ++ "note" ++ '\n' :: "UPDATE t SET a = 1") = false ∧
      ¬ Engine.mysql.dialect.ReadsAlike ("#" ++ "note" ++ '\n' :: "UPDATE t SET a = 1") "UPDATE t SET a = 1" := by
  have hstripped : Engine.mysql.dialect.profile.stripComments "UPDATE t SET a = 1" = "UPDATE t SET a = 1" := by
    decide +kernel
  have hword : leadingWord "UPDATE t SET a = 1" = "UPDATE" := by decide +kernel
  have hplain : Engine.mysql.dialect.isModifying "UPDATE t SET a = 1" = true := by
    rw [Engine.isModifying_eq .mysql (by rw [hstripped]; decide), hstripped, hword,
      show Text.upper "UPDATE" = "UPDATE" by decide, Engine.isModifyingKeyword_verb .mysql (by decide)]
    rfl
  have hhash : Engine.mysql.dialect.isModifying ("#" ++ "note" ++ '\n' :: "UPDATE t SET a = 1") = false := by
    decide +kernel
  refine ⟨by decide, by simp, hplain, hhash, fun h => ?_⟩
  have := h.isModifying
  rw [hplain, hhash] at this
  cases this

end SqlDialects
