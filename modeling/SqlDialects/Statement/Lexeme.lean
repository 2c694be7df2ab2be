/-
Cutting a statement into lexemes. A delimited span (a dollar quoted text, a block comment) is taken
whole if it is closed; otherwise the first rule that fits decides, and a character that no rule fits
stands alone. Each step ends strictly further on (`Cursor.length_next?_lt`), and the lexemes in order
are the text (`flatMap_text_lexemes`).
-/
import SqlDialects.Statement.Rules

namespace SqlDialects

/-- A piece of a statement. -/
structure Lexeme where
  kind : LexemeKind
  text : Text
deriving DecidableEq, Repr

/-! ## Delimited spans -/

/-- A dollar delimiter: two dollar signs with a name or nothing between them. -/
def dollarDelimiter : Pattern :=
  let dollar := Pattern.one (.exactly '$')
  dollar ++
    Pattern.optional (Pattern.one Rule.nameStartOrUnderscore ++ Pattern.many (.one .wordChar)) ++ dollar

/-- A dollar delimiter that no word, quotation mark or dollar sign precedes. -/
def dollarOpener : Pattern :=
  .notBehind (.either .wordChar (.oneOf ['"', '$'])) ++ dollarDelimiter

/-- What opens a block comment; a plus sign that follows belongs to it. -/
def blockOpener : Pattern := "/*" ++ Pattern.optional "+"

namespace Cursor

/-- Behind the first occurrence of `closing` at or after the place. -/
def behind? (closing : Text) (c : Cursor) : Option Cursor :=
  (Text.endOfFirst? closing c.ahead).map fun n => c.skip n

/-- The end of the delimited span that begins at the place, and what it is. A dollar quoted text ends
with the next copy of its delimiter, a block comment with the next closing mark. -/
def span? (c : Cursor) : Option (LexemeKind × Cursor) :=
  match dollarOpener.end? c with
  | some d => (d.behind? (c.upTo d)).map (.other, ·)
  | none => (blockOpener.end? c).bind fun d => (d.behind? "*/").map (.comment, ·)

/-- The end of the first rule that fits at the place. -/
def byRule? (c : Cursor) : Option (LexemeKind × Cursor) :=
  Rule.all.findSome? fun r => (r.pattern.end? c).map (r.kind, ·)

/-- The end of the lexeme at the place and what it is; nothing at the end of the text. -/
def next? (c : Cursor) : Option (LexemeKind × Cursor) :=
  if c.ahead.isEmpty then none
  else (c.span?.or c.byRule?).or (some (.other, c.skip 1))

/-! ## Progress -/

theorem length_behind?_le {closing : Text} {c d : Cursor} (h : c.behind? closing = some d) :
    d.ahead.length ≤ c.ahead.length := by
  simp only [behind?, Option.map_eq_some_iff] at h
  obtain ⟨n, -, rfl⟩ := h
  exact length_skip_le n c

theorem length_span?_lt {c d : Cursor} {k : LexemeKind} (h : c.span? = some (k, d)) :
    d.ahead.length < c.ahead.length := by
  unfold span? at h
  split at h
  · rename_i e he
    simp only [Option.map_eq_some_iff, Prod.mk.injEq] at h
    obtain ⟨_, hd, -, rfl⟩ := h
    exact Nat.lt_of_le_of_lt (length_behind?_le hd)
      (Pattern.length_lt_of_mem_ends rfl c e (List.mem_of_mem_head? he))
  · simp only [Option.bind_eq_some_iff, Option.map_eq_some_iff, Prod.mk.injEq] at h
    obtain ⟨e, he, _, hd, -, rfl⟩ := h
    exact Nat.lt_of_le_of_lt (length_behind?_le hd)
      (Pattern.length_lt_of_mem_ends rfl c e (List.mem_of_mem_head? he))

theorem length_byRule?_lt {c d : Cursor} {k : LexemeKind} (h : c.byRule? = some (k, d)) :
    d.ahead.length < c.ahead.length := by
  obtain ⟨r, hr, h⟩ := List.exists_of_findSome?_eq_some h
  simp only [Option.map_eq_some_iff, Prod.mk.injEq] at h
  obtain ⟨_, he, -, rfl⟩ := h
  exact Pattern.length_lt_of_mem_ends (Rule.consumes_of_mem_all r hr) c _ (List.mem_of_mem_head? he)

/-- Every lexeme has at least one character. -/
theorem length_next?_lt {c d : Cursor} {k : LexemeKind} (h : c.next? = some (k, d)) :
    d.ahead.length < c.ahead.length := by
  unfold next? at h
  split at h
  · cases h
  · rename_i hc
    simp only [Option.or_eq_some_iff, Option.some.injEq, Prod.mk.injEq] at h
    rcases h with (hs | ⟨-, hr⟩) | ⟨-, -, rfl⟩
    · exact length_span?_lt hs
    · exact length_byRule?_lt hr
    · exact length_skip_lt Nat.one_ne_zero (by simpa using hc)

/-- The lexemes from a place on. -/
def lexemes (c : Cursor) : List Lexeme :=
  match _h : c.next? with
  | none => []
  | some (k, d) => ⟨k, c.upTo d⟩ :: lexemes d
termination_by c.ahead.length
decreasing_by exact length_next?_lt (by assumption)

end Cursor

/-- The lexemes of a text in order. -/
def lexemes (s : Text) : List Lexeme := (Cursor.start s).lexemes

/-! ## Nothing is lost -/

namespace Cursor

theorem exists_skip_of_end? {p : Pattern} {c d : Cursor} (h : p.end? c = some d) : ∃ n, d = c.skip n :=
  p.exists_skip_of_mem_ends c d (List.mem_of_mem_head? h)

theorem exists_skip_of_behind? {closing : Text} {c d : Cursor} (h : c.behind? closing = some d) :
    ∃ n, d = c.skip n := by
  simp only [behind?, Option.map_eq_some_iff] at h
  obtain ⟨n, -, rfl⟩ := h
  exact ⟨n, rfl⟩

theorem exists_skip_of_span? {c d : Cursor} {k : LexemeKind} (h : c.span? = some (k, d)) :
    ∃ n, d = c.skip n := by
  have further {e : Cursor} {closing : Text} (he : ∃ m, e = c.skip m) (hd : e.behind? closing = some d) :
      ∃ n, d = c.skip n := by
    obtain ⟨m, rfl⟩ := he
    obtain ⟨n, rfl⟩ := exists_skip_of_behind? hd
    exact ⟨m + n, c.skip_skip m n⟩
  unfold span? at h
  split at h
  · rename_i e he
    simp only [Option.map_eq_some_iff, Prod.mk.injEq] at h
    obtain ⟨_, hd, -, rfl⟩ := h
    exact further (exists_skip_of_end? he) hd
  · simp only [Option.bind_eq_some_iff, Option.map_eq_some_iff, Prod.mk.injEq] at h
    obtain ⟨e, he, _, hd, -, rfl⟩ := h
    exact further (exists_skip_of_end? he) hd

theorem exists_skip_of_byRule? {c d : Cursor} {k : LexemeKind} (h : c.byRule? = some (k, d)) :
    ∃ n, d = c.skip n := by
  obtain ⟨r, -, h⟩ := List.exists_of_findSome?_eq_some h
  simp only [Option.map_eq_some_iff, Prod.mk.injEq] at h
  obtain ⟨_, he, -, rfl⟩ := h
  exact exists_skip_of_end? he

/-- A lexeme ends further on in the same text. -/
theorem exists_skip_of_next? {c d : Cursor} {k : LexemeKind} (h : c.next? = some (k, d)) :
    ∃ n, d = c.skip n := by
  unfold next? at h
  split at h
  · cases h
  · simp only [Option.or_eq_some_iff, Option.some.injEq, Prod.mk.injEq] at h
    rcases h with (hs | ⟨-, hr⟩) | ⟨-, -, rfl⟩
    · exact exists_skip_of_span? hs
    · exact exists_skip_of_byRule? hr
    · exact ⟨1, rfl⟩

/-- There is a next lexeme until the text ends. -/
theorem next?_eq_none_iff (c : Cursor) : c.next? = none ↔ c.ahead = [] := by
  unfold next?
  split <;> simp_all

theorem flatMap_text_lexemes (c : Cursor) : c.lexemes.flatMap Lexeme.text = c.ahead := by
  fun_induction lexemes c with
  | case1 c h => exact ((next?_eq_none_iff c).1 h).symm
  | case2 c k d h ih =>
    obtain ⟨n, rfl⟩ := exists_skip_of_next? h
    rw [List.flatMap_cons, ih, upTo_append_ahead_skip]

end Cursor

/-- The lexemes in order are the text. -/
theorem flatMap_text_lexemes (s : Text) : (lexemes s).flatMap Lexeme.text = s :=
  (Cursor.start s).flatMap_text_lexemes

end SqlDialects
