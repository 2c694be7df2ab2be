/-
Words as the lexer cuts them. A keyword or a name that has only characters of words in it is a whole word, as
every rule that makes one ends at the edge of a word, takes all the word characters there are, or passes over
some other character (`Cursor.not_withinWord_of_isWord`). Blanks and comments end where no word goes on
(`Cursor.not_withinWord_of_isFiller`). So the first word of a statement is a whole word of it
(`exists_lexeme_of_leadingWord`).
-/
import SqlDialects.Proofs.Statement.Lexeme
import SqlDialects.Statement.Reader

namespace SqlDialects

/-! ## Places within a word -/

namespace CharClass

/-- Whether no character of the class belongs to words. -/
def outsideWords : CharClass → Bool
  | exactly d => !Character.isWordChar d
  | oneOf cs => cs.all fun d => !Character.isWordChar d
  | blank => true
  | either k l => k.outsideWords && l.outsideWords
  | letter _ | noneOf _ | wordChar | decimalDigit | nameStart => false

theorem isWordChar_of_outsideWords {k : CharClass} (hk : k.outsideWords = true) {a : Char}
    (ha : k.holds a = true) : Character.isWordChar a = false := by
  induction k with
  | exactly d =>
    obtain rfl : a = d := beq_iff_eq.1 ha
    exact Bool.not_eq_true' _ ▸ hk
  | oneOf cs => simpa using List.all_eq_true.1 hk a (List.contains_iff_mem.1 ha)
  | blank => exact Character.isWordChar_of_isBlank ha
  | either k l ihk ihl =>
    obtain ⟨hk, hl⟩ := Bool.and_eq_true_iff.1 hk
    exact (Bool.or_eq_true_iff.1 ha).elim (ihk hk) (ihl hl)
  | letter | noneOf | wordChar | decimalDigit | nameStart => cases hk

end CharClass

namespace Cursor

variable {c d : Cursor}

/-- A word goes on at the place. -/
def WithinWord (c : Cursor) : Prop :=
  c.before.any Character.isWordChar = true ∧ c.ahead.head?.any Character.isWordChar = true

theorem not_withinWord_of_before {a : Char} (hc : c.before = some a) (ha : Character.isWordChar a = false) :
    ¬ c.WithinWord := by
  rintro ⟨hbefore, -⟩
  rw [hc, Option.any_some, ha] at hbefore
  cases hbefore

theorem not_withinWord_of_ahead (hc : c.ahead.head?.any Character.isWordChar = false) : ¬ c.WithinWord := by
  rintro ⟨-, hahead⟩
  rw [hc] at hahead
  cases hahead

/-- In front of a place where a word begins stands no character of words. -/
theorem before_eq_false_of_not_withinWord (hc : ¬ c.WithinWord) (hahead : c.ahead.head?.any Character.isWordChar = true) :
    ∀ a ∈ c.before, Character.isWordChar a = false := by
  intro a ha
  by_contra hword
  exact hc ⟨by rw [Option.mem_def.1 ha]; exact Bool.eq_true_of_not_eq_false hword, hahead⟩

/-- Behind a place where a word ends stands no character of words. -/
theorem ahead_eq_false_of_not_withinWord (hc : ¬ c.WithinWord) (hbefore : c.before.any Character.isWordChar = true) :
    ∀ a ∈ c.ahead.head?, Character.isWordChar a = false := by
  intro a ha
  by_contra hword
  exact hc ⟨hbefore, by rw [Option.mem_def.1 ha]; exact Bool.eq_true_of_not_eq_false hword⟩

end Cursor

/-! ## Patterns and words -/

namespace Pattern

open Cursor

variable {p : Pattern} {c d : Cursor}

/-- Whether every text that the pattern passes over has a character that is none of words. -/
def leavesWord : Pattern → Bool
  | one k => k.outsideWords
  | andThen p q => p.leavesWord || q.leavesWord
  | orElse p q => p.leavesWord && q.leavesWord
  | _ => false

/-- Whether no word goes on where the pattern begins, if it takes anything there. -/
def beginsOutsideWord : Pattern → Bool
  | one k => k.outsideWords
  | andThen p q => p.beginsOutsideWord && (p.consumes || q.beginsOutsideWord)
  | orElse p q => p.beginsOutsideWord && q.beginsOutsideWord
  | many p | few p => p.beginsOutsideWord
  | _ => true

/-- Whether no word goes on where the pattern ends. -/
def endsOutsideWord : Pattern → Bool
  | one k => k.outsideWords
  | andThen p nothing => p.endsOutsideWord
  | andThen _ q => q.endsOutsideWord
  | orElse p q => p.endsOutsideWord && q.endsOutsideWord
  | peek p => p.consumes && p.beginsOutsideWord
  | wordEdge | textEnd => true
  | _ => false

theorem exists_notWordChar_of_leads (hp : p.leavesWord = true) (h : p.Leads c d) :
    ∃ u, c.Passes u d ∧ ∃ a ∈ u, Character.isWordChar a = false := by
  induction p generalizing c d with
  | one k =>
    obtain ⟨a, ha, hpass⟩ := leads_one_iff.1 h
    exact ⟨[a], hpass, a, List.mem_singleton.2 rfl, CharClass.isWordChar_of_outsideWords hp ha⟩
  | andThen p q ihp ihq =>
    obtain ⟨e, hce, hed⟩ := h
    rcases Bool.or_eq_true_iff.1 hp with hp | hq
    · obtain ⟨u, hu, a, ha, hword⟩ := ihp hp hce
      obtain ⟨v, hv⟩ := exists_passes_of_leads hed
      exact ⟨u ++ v, hu.append hv, a, List.mem_append_left v ha, hword⟩
    · obtain ⟨u, hu⟩ := exists_passes_of_leads hce
      obtain ⟨v, hv, a, ha, hword⟩ := ihq hq hed
      exact ⟨u ++ v, hu.append hv, a, List.mem_append_right u ha, hword⟩
  | orElse p q ihp ihq =>
    obtain ⟨hp, hq⟩ := Bool.and_eq_true_iff.1 hp
    exact h.elim (ihp hp) (ihq hq)
  | nothing | many | few | peek | notPeek | behind | notBehind | wordEdge | textEnd => cases hp

/-- A repetition stays where it is, or its first step further on begins there. -/
theorem eq_or_of_reflTransGen {step : Cursor → Cursor → Prop} {P : Cursor → Prop}
    (hstep : ∀ {c d}, step c d → d = c ∨ P c) (h : Relation.ReflTransGen step c d) : d = c ∨ P c := by
  induction h using Relation.ReflTransGen.head_induction_on with
  | refl => exact .inl rfl
  | head hfirst _ ih =>
    rcases hstep hfirst with rfl | hP
    · exact ih
    · exact .inr hP

theorem eq_or_ahead_of_leads (hp : p.beginsOutsideWord = true) (h : p.Leads c d) :
    d = c ∨ c.ahead.head?.any Character.isWordChar = false := by
  induction p generalizing c d with
  | one k =>
    obtain ⟨a, ha, hpass⟩ := leads_one_iff.1 h
    rw [hpass.1]
    exact .inr (CharClass.isWordChar_of_outsideWords hp ha)
  | andThen p q ihp ihq =>
    obtain ⟨hp, hq⟩ := Bool.and_eq_true_iff.1 hp
    obtain ⟨e, hce, hed⟩ := h
    rcases ihp hp hce with rfl | hahead
    · rcases Bool.or_eq_true_iff.1 hq with hconsumes | hq
      · exact absurd hce (not_leads_self hconsumes)
      · exact ihq hq hed
    · exact .inr hahead
  | orElse p q ihp ihq =>
    obtain ⟨hp, hq⟩ := Bool.and_eq_true_iff.1 hp
    exact h.elim (ihp hp) (ihq hq)
  | many p ih | few p ih => exact eq_or_of_reflTransGen (ih hp) h
  | nothing => exact .inl h
  | peek | notPeek | behind | notBehind | wordEdge | textEnd => exact .inl h.1

/-- What has to take something that is none of words does not fit where a word goes on. -/
theorem not_leads_of_isWordChar (hp : p.beginsOutsideWord = true) (hconsumes : p.consumes = true)
    (hc : c.ahead.head?.any Character.isWordChar = true) : ¬ p.Leads c d := by
  intro h
  rcases eq_or_ahead_of_leads hp h with rfl | hahead
  · exact absurd h (not_leads_self hconsumes)
  · rw [hc] at hahead
    cases hahead

theorem not_withinWord_of_leads (hp : p.endsOutsideWord = true) (h : p.Leads c d) : ¬ d.WithinWord := by
  induction p generalizing c d with
  | one k =>
    obtain ⟨a, ha, hpass⟩ := leads_one_iff.1 h
    exact not_withinWord_of_before (hpass.before_eq (u := [])) (CharClass.isWordChar_of_outsideWords hp ha)
  | andThen p q ihp ihq =>
    obtain ⟨e, hce, hed⟩ := h
    by_cases hq : q = nothing
    · subst hq
      obtain rfl : d = e := hed
      exact ihp hp hce
    · exact ihq (by rwa [endsOutsideWord] at hp; exact hq) hed
  | orElse p q ihp ihq =>
    obtain ⟨hp, hq⟩ := Bool.and_eq_true_iff.1 hp
    exact h.elim (ihp hp) (ihq hq)
  | peek p =>
    obtain ⟨hconsumes, hbegins⟩ := Bool.and_eq_true_iff.1 hp
    obtain ⟨rfl, e, he⟩ := h
    refine not_withinWord_of_ahead (Bool.eq_false_iff.2 fun hahead => ?_)
    exact not_leads_of_isWordChar hbegins hconsumes hahead he
  | wordEdge =>
    obtain ⟨rfl, hedge⟩ := h
    rintro ⟨hbefore, hahead⟩
    rw [atWordEdge, hbefore, hahead] at hedge
    cases hedge
  | textEnd =>
    obtain ⟨rfl, hend⟩ := h
    refine not_withinWord_of_ahead ?_
    rcases hend with hend | hend
    · rw [hend]
      rfl
    · rw [hend]
      rfl
  | nothing | many | few | notPeek | behind | notBehind => cases hp

/-- Behind all that there is of a class, the class does not go on. -/
theorem ahead_of_end?_append_many_one {k : CharClass} (h : (p ++ many (one k)).end? c = some d) :
    d.ahead.head?.any k.holds = false := by
  have hfirst : ∃ e : Cursor, d = e.skip (e.ahead.takeWhile k.holds).length := by
    have hall : ((p.ends c).flatMap fun e => (many (one k)).ends e).head? = some d := h
    cases hp : p.ends c with
    | nil =>
      rw [hp] at hall
      cases hall
    | cons e places =>
      have hgreedy : ((many (one k)).ends e).head? = _ := end?_many_one k e
      rw [hp, List.flatMap_cons, List.head?_append, hgreedy, Option.some_or] at hall
      exact ⟨e, (Option.some.inj hall).symm⟩
  obtain ⟨e, rfl⟩ := hfirst
  have happend := (List.takeWhile_append_dropWhile (p := k.holds) (l := e.ahead)).symm
  rw [(passes_skip happend).ahead_eq happend]
  cases hhead : (e.ahead.dropWhile k.holds).head? with
  | none => rfl
  | some a => exact Text.head?_dropWhile k.holds e.ahead a hhead

end Pattern

/-! ## Rules and words -/

namespace Rule

theorem endsOutsideWord_of_filler : ∀ r ∈ all, r.kind = .blank ∨ r.kind = .comment →
    r.pattern.endsOutsideWord = true := by
  decide

/-- The rules for keywords and names end at the edge of a word or pass over something else, but for two, which
take all the word characters that there are. -/
theorem words_of_mem_all : ∀ r ∈ all, r.kind = .keyword ∨ r.kind = .name →
    r.pattern.endsOutsideWord = true ∨ r.pattern.leavesWord = true ∨
      r.pattern = .behind (.exactly '.') ++ .one .nameStart ++ .many (.one .wordChar) ∨
      r.pattern = .one .wordChar ++ .many (.one wordPart) := by
  decide +kernel

end Rule

/-! ## Lexemes and words -/

namespace Cursor

variable {c d : Cursor} {k : LexemeKind}

/-- No word goes on behind a blank or a comment. -/
theorem not_withinWord_of_isFiller (h : c.next? = some (k, d)) (hk : k = .blank ∨ k = .comment) :
    ¬ d.WithinWord := by
  rcases next?_cases h with hspan | ⟨-, ⟨r, hr, rfl, hd⟩ | ⟨-, rfl, -⟩⟩
  · rcases span?_cases hspan with ⟨rfl, -⟩ | ⟨rfl, -, e, -, hd⟩
    · rcases hk with hk | hk <;> cases hk
    · obtain ⟨u, hu⟩ := exists_passes_of_behind? hd
      have hslash : e.Passes ((u ++ ['*']) ++ ['/']) d := by
        rw [List.append_assoc]
        exact hu
      exact not_withinWord_of_before hslash.before_eq (by decide)
  · exact Pattern.not_withinWord_of_leads (Rule.endsOutsideWord_of_filler r hr hk) (Pattern.leads_of_end? hd)
  · rcases hk with hk | hk <;> cases hk

/-- No word goes on behind a keyword or a name in which there are only characters of words. -/
theorem not_withinWord_of_isWord (h : c.next? = some (k, d)) (hk : k = .keyword ∨ k = .name)
    (hword : ∀ a ∈ c.upTo d, Character.isWordChar a = true) : ¬ d.WithinWord := by
  have hother : k ≠ .other := by
    rintro rfl
    rcases hk with hk | hk <;> cases hk
  rcases next?_cases h with hspan | ⟨-, ⟨r, hr, rfl, hd⟩ | ⟨-, rfl, -⟩⟩
  · rcases span?_cases hspan with ⟨rfl, -⟩ | ⟨rfl, -⟩
    · exact absurd rfl hother
    · rcases hk with hk | hk <;> cases hk
  · have hlead := Pattern.leads_of_end? hd
    rcases Rule.words_of_mem_all r hr hk with hends | hleaves | hpoint | hparts
    · exact Pattern.not_withinWord_of_leads hends hlead
    · obtain ⟨u, hu, a, ha, hnot⟩ := Pattern.exists_notWordChar_of_leads hleaves hlead
      rw [← hu.upTo_eq] at ha
      rw [hword a ha] at hnot
      cases hnot
    · rw [hpoint] at hd
      exact not_withinWord_of_ahead (Pattern.ahead_of_end?_append_many_one hd)
    · rw [hparts] at hd
      have hstop := Pattern.ahead_of_end?_append_many_one hd
      refine not_withinWord_of_ahead ?_
      cases hhead : d.ahead.head? with
      | none => rfl
      | some a =>
        rw [hhead] at hstop
        exact (Bool.or_eq_false_iff.1 hstop).1
  · exact absurd rfl hother

/-- A run of blanks and comments that begins where no word goes on ends where no word goes on. -/
theorem not_withinWord_of_fillers {fillers rest : List Lexeme} (h : c.lexemes = fillers ++ rest)
    (hfillers : ∀ l ∈ fillers, l.isFiller = true) (hc : ¬ c.WithinWord) :
    ∃ d, c.Passes (fillers.flatMap Lexeme.text) d ∧ d.lexemes = rest ∧ ¬ d.WithinWord := by
  induction fillers generalizing c with
  | nil => exact ⟨c, passes_nil_iff.2 rfl, h, hc⟩
  | cons l fillers ih =>
    rw [List.forall_mem_cons] at hfillers
    obtain ⟨k, d, hnext, hl, hrest⟩ := exists_next?_of_lexemes_eq_cons h
    have hk : k = .blank ∨ k = .comment := by
      have := hfillers.1
      rw [hl, Lexeme.isFiller, Bool.or_eq_true, decide_eq_true_eq, decide_eq_true_eq] at this
      exact this
    obtain ⟨e, hpass, he, hnot⟩ := ih hrest.symm hfillers.2 (not_withinWord_of_isFiller hnext hk)
    refine ⟨e, ?_, he, hnot⟩
    rw [List.flatMap_cons, hl]
    exact (exists_passes_of_next? hnext).append hpass

end Cursor

/-! ## The first word -/

/-- The middle one of three texts is a word between the other two, with no word character next to it. -/
structure Text.IsWholeWord (before w after : Text) : Prop where
  ne_nil : w ≠ []
  isWordChar : ∀ a ∈ w, Character.isWordChar a = true
  before : ∀ a ∈ before.getLast?, Character.isWordChar a = false
  after : ∀ a ∈ after.head?, Character.isWordChar a = false

theorem leadingWord_cases {s : Text} (h : leadingWord s ≠ []) :
    ∃ fillers l rest, lexemes s = fillers ++ l :: rest ∧ (∀ f ∈ fillers, f.isFiller = true) ∧
      (l.kind = .keyword ∨ l.kind = .name) ∧ l.text = leadingWord s ∧
      ∀ a ∈ l.text, Character.isWordChar a = true := by
  unfold leadingWord at h ⊢
  split at h
  · rename_i l hl
    obtain ⟨-, fillers, rest, hsplit, hfillers⟩ := List.find?_eq_some_iff_append.1 hl
    unfold Lexeme.word at h ⊢
    split at h
    · rename_i hword
      obtain ⟨hkind, hchars⟩ := Bool.and_eq_true_iff.1 hword
      refine ⟨fillers, l, rest, hsplit, fun f hf => by simpa using hfillers f hf, by simpa using hkind, ?_,
        List.all_eq_true.1 hchars⟩
      rw [if_pos hword]
    · exact absurd rfl h
  · exact absurd rfl h

/-- The first word of a text is a keyword or a name behind blanks and comments, and a whole word. -/
theorem exists_lexeme_of_leadingWord {s : Text} (h : leadingWord s ≠ []) :
    ∃ fillers l rest, lexemes s = fillers ++ l :: rest ∧ (∀ f ∈ fillers, f.isFiller = true) ∧
      (l.kind = .keyword ∨ l.kind = .name) ∧ l.text = leadingWord s ∧
      Text.IsWholeWord (fillers.flatMap Lexeme.text) l.text (rest.flatMap Lexeme.text) := by
  obtain ⟨fillers, l, rest, hsplit, hfillers, hkind, htext, hchars⟩ := leadingWord_cases h
  have hne : l.text ≠ [] := by rw [htext]; exact h
  have hstart : ¬ (Cursor.start s).WithinWord := by
    rintro ⟨hbefore, -⟩
    cases hbefore
  obtain ⟨c, hbefore, hc, hnotBefore⟩ := Cursor.not_withinWord_of_fillers hsplit hfillers hstart
  obtain ⟨k, d, hnext, rfl, rfl⟩ := Cursor.exists_next?_of_lexemes_eq_cons hc
  have hpass := Cursor.exists_passes_of_next? hnext
  refine ⟨fillers, _, _, hsplit, hfillers, hkind, htext, hne, hchars, ?_, ?_⟩
  · -- the word begins where no word goes on
    intro a ha
    obtain ⟨u, hu⟩ := List.getLast?_eq_some_iff.1 ha
    rw [hu] at hbefore
    obtain ⟨b, t, ht⟩ := List.exists_cons_of_ne_nil hne
    refine Cursor.before_eq_false_of_not_withinWord hnotBefore ?_ a hbefore.before_eq
    rw [hpass.1, show c.upTo d = b :: t from ht]
    exact hchars b (by rw [ht]; exact List.mem_cons_self)
  · -- and it ends where none does
    rw [Cursor.flatMap_text_lexemes]
    obtain ⟨u, b, hu⟩ := (List.eq_nil_or_concat' (c.upTo d)).resolve_left hne
    refine Cursor.ahead_eq_false_of_not_withinWord (Cursor.not_withinWord_of_isWord hnext hkind hchars) ?_
    rw [hu] at hpass
    rw [hpass.before_eq]
    exact hchars b (by rw [show (Lexeme.mk k (c.upTo d)).text = u ++ [b] from hu]; simp)

end SqlDialects
