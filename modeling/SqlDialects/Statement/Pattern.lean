/-
Patterns of characters with backtracking. A pattern describes the places at which it can end, in order
of preference; the first of them is where it ends. A pattern that has to consume something ends
strictly further on (`Pattern.length_lt_of_mem_ends`), which is why a lexer built from such patterns
comes to an end.
-/
import SqlDialects.Text.Character
import SqlDialects.Statement.Cursor

namespace SqlDialects

/-! ## Classes of characters -/

/-- A class of characters, as the rules of the lexer name them. -/
inductive CharClass
  | exactly (c : Char)
  /-- An upper-case ASCII letter in either case; `I`, `K` and `S` also have letters beyond ASCII that
  share a case with them. -/
  | letter (c : Char)
  | oneOf (cs : List Char)
  | noneOf (cs : List Char)
  | wordChar
  | decimalDigit
  | blank
  /-- A Latin letter with which a name begins. -/
  | nameStart
  | either (k l : CharClass)
deriving DecidableEq, Repr

/-- The letters beyond ASCII that share a case with an upper-case ASCII letter. -/
def lookAlikes (c : Char) : List Char :=
  if c = 'I' then ['\u0130', '\u0131'] else if c = 'K' then ['\u212A'] else if c = 'S' then ['\u017F'] else []

/-- Whether a name may begin with the character: the Latin letters of ASCII and Latin-1 up to `ü`, the
multiplication sign among them, and what shares a case with one of those. -/
def isNameStart (c : Char) : Bool :=
  let n := c.toNat
  c.isAlpha || (0xC0 ≤ n && n ≤ 0xDC) || (0xE0 ≤ n && n ≤ 0xFC && n != 0xF7) ||
    ['\u0130', '\u0131', '\u017F', '\u212A', '\u212B'].contains c

namespace CharClass

/-- Whether a character belongs to the class. -/
def holds : CharClass → Char → Bool
  | exactly d, c => c == d
  | letter d, c => c == d || c == d.toLower || (lookAlikes d).contains c
  | oneOf cs, c => cs.contains c
  | noneOf cs, c => !cs.contains c
  | wordChar, c => Character.isWordChar c
  | decimalDigit, c => Character.isDecimalDigit c
  | blank, c => Character.isBlank c
  | nameStart, c => isNameStart c
  | either k l, c => k.holds c || l.holds c

/-- Every character but a line feed. -/
def inLine : CharClass := .noneOf ['\n']

end CharClass

/-! ## Patterns -/

/-- A pattern of characters. -/
inductive Pattern
  | nothing
  | one (k : CharClass)
  | andThen (p q : Pattern)
  /-- The first alternative is preferred. -/
  | orElse (p q : Pattern)
  /-- Any number of times, more rather than fewer. -/
  | many (p : Pattern)
  /-- Any number of times, fewer rather than more. -/
  | few (p : Pattern)
  /-- The pattern lies ahead. -/
  | peek (p : Pattern)
  /-- The pattern does not lie ahead. -/
  | notPeek (p : Pattern)
  /-- The character before is there and of the class. -/
  | behind (k : CharClass)
  /-- The character before is missing or not of the class. -/
  | notBehind (k : CharClass)
  /-- A word begins or ends here. -/
  | wordEdge
  /-- The text ends here, or only a line feed is left of it. -/
  | textEnd
deriving DecidableEq, Repr

namespace Pattern

/-- The places reached by doing a step up to `n` times, more rather than fewer. -/
def repeatMany (step : Cursor → List Cursor) : Nat → Cursor → List Cursor
  | 0, c => [c]
  | n + 1, c => (step c).flatMap (repeatMany step n) ++ [c]

/-- The places reached by doing a step up to `n` times, fewer rather than more. -/
def repeatFew (step : Cursor → List Cursor) : Nat → Cursor → List Cursor
  | 0, c => [c]
  | n + 1, c => c :: (step c).flatMap (repeatFew step n)

/-- Whether a word begins or ends at a place. -/
def atWordEdge (c : Cursor) : Bool :=
  (c.before.any Character.isWordChar) != (c.ahead.head?.any Character.isWordChar)

/-- The places at which the pattern can end when it begins at the given one, the preferred ones first.
A repetition is tried no more often than there are characters ahead. -/
def ends : Pattern → Cursor → List Cursor
  | nothing, c => [c]
  | one k, c =>
    match c.ahead with
    | a :: rest => if k.holds a then [⟨some a, rest⟩] else []
    | [] => []
  | andThen p q, c => (p.ends c).flatMap fun d => q.ends d
  | orElse p q, c => p.ends c ++ q.ends c
  | many p, c => repeatMany (fun d => p.ends d) c.ahead.length c
  | few p, c => repeatFew (fun d => p.ends d) c.ahead.length c
  | peek p, c => if (p.ends c).isEmpty then [] else [c]
  | notPeek p, c => if (p.ends c).isEmpty then [c] else []
  | behind k, c => if c.before.any k.holds then [c] else []
  | notBehind k, c => if c.before.any k.holds then [] else [c]
  | wordEdge, c => if atWordEdge c then [c] else []
  | textEnd, c => if c.ahead = [] ∨ c.ahead = ['\n'] then [c] else []

/-- Where the pattern ends when it begins at the given place, if it fits there. -/
def end? (p : Pattern) (c : Cursor) : Option Cursor := (p.ends c).head?

instance : Append Pattern := ⟨andThen⟩

instance : OrElse Pattern := ⟨fun p q => orElse p (q ())⟩

/-- Once or not at all. -/
def optional (p : Pattern) : Pattern := p <|> nothing

/-- At least once, more rather than fewer times. -/
def several (p : Pattern) : Pattern := p ++ many p

/-- The characters of the text in order; a capital letter stands for either case. -/
def text (s : String) : Pattern :=
  s.toList.foldr (fun c p => one (if c.isUpper then .letter c else .exactly c) ++ p) nothing

instance : Coe String Pattern := ⟨text⟩

/-- The characters of the text in order, each in its own case. -/
def verbatim (s : Text) : Pattern := s.foldr (fun c p => one (.exactly c) ++ p) nothing

/-- One of the patterns; the earlier ones are preferred. -/
def anyOf : List Pattern → Pattern
  | [] => notPeek nothing
  | [p] => p
  | p :: q :: ps => p <|> anyOf (q :: ps)

/-! ## Progress -/

/-- Whether every way to fit the pattern takes at least one character. -/
def consumes : Pattern → Bool
  | one _ => true
  | andThen p q => p.consumes || q.consumes
  | orElse p q => p.consumes && q.consumes
  | _ => false

/-- Where a repetition ends lies ahead, if every step goes ahead. -/
theorem exists_skip_of_mem_repeatMany {step : Cursor → List Cursor}
    (h : ∀ c, ∀ d ∈ step c, ∃ n, d = c.skip n) (m : Nat) (c : Cursor) :
    ∀ d ∈ repeatMany step m c, ∃ n, d = c.skip n := by
  induction m generalizing c with
  | zero => simpa [repeatMany] using ⟨0, c.skip_zero.symm⟩
  | succ m ih =>
    intro d hd
    simp only [repeatMany, List.mem_append, List.mem_flatMap, List.mem_singleton] at hd
    rcases hd with ⟨e, he, hd⟩ | rfl
    · obtain ⟨k, rfl⟩ := h c e he
      obtain ⟨n, rfl⟩ := ih _ d hd
      exact ⟨k + n, c.skip_skip k n⟩
    · exact ⟨0, d.skip_zero.symm⟩

theorem exists_skip_of_mem_repeatFew {step : Cursor → List Cursor}
    (h : ∀ c, ∀ d ∈ step c, ∃ n, d = c.skip n) (m : Nat) (c : Cursor) :
    ∀ d ∈ repeatFew step m c, ∃ n, d = c.skip n := by
  induction m generalizing c with
  | zero => simpa [repeatFew] using ⟨0, c.skip_zero.symm⟩
  | succ m ih =>
    intro d hd
    simp only [repeatFew, List.mem_cons, List.mem_flatMap] at hd
    rcases hd with rfl | ⟨e, he, hd⟩
    · exact ⟨0, d.skip_zero.symm⟩
    · obtain ⟨k, rfl⟩ := h c e he
      obtain ⟨n, rfl⟩ := ih _ d hd
      exact ⟨k + n, c.skip_skip k n⟩

/-- A pattern ends where it begins or further on. -/
theorem exists_skip_of_mem_ends (p : Pattern) (c : Cursor) : ∀ d ∈ p.ends c, ∃ n, d = c.skip n := by
  induction p generalizing c with
  | one k =>
    obtain ⟨b, _ | ⟨a, s⟩⟩ := c
    · simp [ends]
    · intro d hd
      simp only [ends] at hd
      split at hd
      · exact ⟨1, List.mem_singleton.1 hd⟩
      · simp at hd
  | andThen p q ihp ihq =>
    intro d hd
    simp only [ends, List.mem_flatMap] at hd
    obtain ⟨e, he, hd⟩ := hd
    obtain ⟨k, rfl⟩ := ihp c e he
    obtain ⟨n, rfl⟩ := ihq _ d hd
    exact ⟨k + n, c.skip_skip k n⟩
  | orElse p q ihp ihq =>
    intro d hd
    simp only [ends, List.mem_append] at hd
    exact hd.elim (ihp c d) (ihq c d)
  | many p ih => exact exists_skip_of_mem_repeatMany ih _ c
  | few p ih => exact exists_skip_of_mem_repeatFew ih _ c
  | nothing | peek | notPeek | behind | notBehind | wordEdge | textEnd =>
    intro d hd
    refine ⟨0, ?_⟩
    rw [Cursor.skip_zero]
    unfold ends at hd
    try split at hd
    all_goals simp_all

theorem length_le_of_mem_ends (p : Pattern) (c : Cursor) :
    ∀ d ∈ p.ends c, d.ahead.length ≤ c.ahead.length := by
  intro d hd
  obtain ⟨n, rfl⟩ := exists_skip_of_mem_ends p c d hd
  exact Cursor.length_skip_le n c

/-- A pattern that has to consume something ends strictly further on. -/
theorem length_lt_of_mem_ends {p : Pattern} (hp : p.consumes = true) (c : Cursor) :
    ∀ d ∈ p.ends c, d.ahead.length < c.ahead.length := by
  induction p generalizing c with
  | one k =>
    intro d hd
    unfold ends at hd
    split at hd
    · split at hd <;> simp_all
    · simp at hd
  | andThen p q ihp ihq =>
    intro d hd
    simp only [ends, List.mem_flatMap] at hd
    obtain ⟨e, he, hd⟩ := hd
    simp only [consumes, Bool.or_eq_true] at hp
    rcases hp with hp | hp
    · exact Nat.lt_of_le_of_lt (length_le_of_mem_ends q e d hd) (ihp hp c e he)
    · exact Nat.lt_of_lt_of_le (ihq hp e d hd) (length_le_of_mem_ends p c e he)
  | orElse p q ihp ihq =>
    intro d hd
    simp only [ends, List.mem_append] at hd
    simp only [consumes, Bool.and_eq_true] at hp
    exact hd.elim (ihp hp.1 c d) (ihq hp.2 c d)
  | _ => simp [consumes] at hp

end Pattern

end SqlDialects
