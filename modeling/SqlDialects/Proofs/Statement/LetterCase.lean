/-
Statements that differ only in the case of ASCII letters. No rule of the lexer sees the case of a letter, and only
the delimiters of dollar quoted texts are compared with each other. So the lexer cuts such statements at the same
places into lexemes of the same kinds, up to a dollar quoted text at most (`Cursor.SameLetters.lexemes_cases`), and
all through if the dollar quoted texts that it comes to are closed at the same places (`lexemes_sameLetters`). A
dollar quoted text is no word, so the first words differ only in the case of letters in any case
(`leadingWord_sameLetters`).
-/
import SqlDialects.Proofs.Statement.Comment.Block
import SqlDialects.Proofs.Statement.Comment.Mark
import SqlDialects.Proofs.Statement.Dollar
import SqlDialects.Proofs.Text.LetterCase

namespace SqlDialects

open Character

/-! ## Rules -/

/-- Whether the class has both cases of each ASCII letter or none. -/
def CharClass.caseBlind (k : CharClass) : Bool := Character.caseBlind k.holds

namespace CharClass

/-- Whether the characters that the class names show that it has both cases of each ASCII letter or none. -/
def plainlyCaseBlind : CharClass → Bool
  | exactly d => !d.isAlpha
  | letter d => d.isUpper
  | oneOf ds => ds.all (fun d => !d.isAlpha) || (oneOf ds).caseBlind
  | noneOf ds => ds.all fun d => !d.isAlpha
  | wordChar | decimalDigit | blank | nameStart => true
  | either k l => k.plainlyCaseBlind && l.plainlyCaseBlind

theorem caseBlind_letter {d : Char} (hd : d.isUpper = true) : (letter d).caseBlind = true := by
  refine caseBlind_iff.2 fun a ha hupper => ?_
  have hlike : ((lookAlikes d).all fun b => !b.isAlpha) = true := by
    unfold lookAlikes
    split_ifs <;> decide
  rw [Bool.eq_iff_iff]
  simp only [holds, contains_eq_false_of_isAlpha hlike ha, contains_eq_false_of_isAlpha hlike hupper, Bool.or_false,
    Bool.or_eq_true, beq_iff_eq]
  rw [← toUpper_eq_iff hd]
  refine ⟨.inl, fun h => h.resolve_right fun hlower => ?_⟩
  -- capital letters are no small letters
  have hcapital : a.toUpper.isUpper = true := by rw [Char.isUpper_toUpper_eq_isAlpha, ha]
  rw [hlower] at hcapital
  exact Char.not_isUpper_of_isLower (by rw [Char.isLower_toLower_eq_isAlpha, Char.isAlpha, hd, Bool.true_or]) hcapital

theorem caseBlind_of_plainlyCaseBlind {k : CharClass} (hk : k.plainlyCaseBlind = true) : k.caseBlind = true := by
  induction k with
  | exactly d =>
    have hne {a : Char} (ha : a.isAlpha = true) : (exactly d).holds a = false := by
      refine beq_eq_false_iff_ne.2 fun had => ?_
      rw [plainlyCaseBlind, ← had, ha] at hk
      cases hk
    exact caseBlind_iff.2 fun a ha hupper => (hne ha).trans (hne hupper).symm
  | letter d => exact caseBlind_letter hk
  | oneOf ds =>
    rcases Bool.or_eq_true_iff.1 hk with hds | hds
    · refine caseBlind_iff.2 fun a ha hupper => ?_
      show ds.contains a = ds.contains a.toUpper
      rw [contains_eq_false_of_isAlpha hds ha, contains_eq_false_of_isAlpha hds hupper]
    · exact hds
  | noneOf ds =>
    refine caseBlind_iff.2 fun a ha hupper => ?_
    show (!ds.contains a) = !ds.contains a.toUpper
    rw [contains_eq_false_of_isAlpha hk ha, contains_eq_false_of_isAlpha hk hupper]
  | wordChar =>
    exact caseBlind_iff.2 fun a ha hupper => (isWordChar_of_isAlpha ha).trans (isWordChar_of_isAlpha hupper).symm
  | decimalDigit => decide
  | blank =>
    exact caseBlind_iff.2 fun a ha hupper => (isBlank_of_isWordChar (isWordChar_of_isAlpha ha)).trans
      (isBlank_of_isWordChar (isWordChar_of_isAlpha hupper)).symm
  | nameStart => decide
  | either k l ihk ihl =>
    obtain ⟨hk, hl⟩ := Bool.and_eq_true_iff.1 hk
    refine caseBlind_iff.2 fun a ha hupper => ?_
    show (k.holds a || l.holds a) = (k.holds a.toUpper || l.holds a.toUpper)
    rw [caseBlind_iff.1 (ihk hk) a ha hupper, caseBlind_iff.1 (ihl hl) a ha hupper]

end CharClass

theorem Pattern.asksOnly_caseBlind {p : Pattern}
    (hp : p.asksOnly CharClass.plainlyCaseBlind CharClass.plainlyCaseBlind = true) :
    p.asksOnly CharClass.caseBlind CharClass.caseBlind = true :=
  asksOnly_mono (fun _ => CharClass.caseBlind_of_plainlyCaseBlind) (fun _ => CharClass.caseBlind_of_plainlyCaseBlind) hp

theorem Rule.asksOnly_caseBlind :
    ∀ r ∈ all, r.pattern.asksOnly CharClass.caseBlind CharClass.caseBlind = true := by
  have hplain : ∀ r ∈ all, r.pattern.asksOnly CharClass.plainlyCaseBlind CharClass.plainlyCaseBlind = true := by
    decide
  exact fun r hr => Pattern.asksOnly_caseBlind (hplain r hr)

theorem asksOnly_caseBlind_openers :
    dollarOpener.asksOnly CharClass.caseBlind CharClass.caseBlind = true ∧
      blockOpener.asksOnly CharClass.caseBlind CharClass.caseBlind = true :=
  ⟨Pattern.asksOnly_caseBlind (by decide), Pattern.asksOnly_caseBlind (by decide)⟩

/-! ## Places -/

namespace Cursor

variable {c d e f : Cursor}

/-- The texts around the two places are the same but for the case of ASCII letters. -/
structure SameLetters (c d : Cursor) : Prop where
  before : c.before.map Char.toUpper = d.before.map Char.toUpper
  ahead : Text.SameLetters c.ahead d.ahead

/-- A test that does not see the case of letters does not tell the characters before apart. -/
theorem before_any_eq (h : c.before.map Char.toUpper = d.before.map Char.toUpper) {q : Char → Bool}
    (hq : caseBlind q = true) : c.before.any q = d.before.any q := by
  obtain ⟨x, s⟩ := c
  obtain ⟨y, t⟩ := d
  cases x with
  | none =>
    rw [eq_comm, Option.map_none, Option.map_eq_none_iff] at h
    rw [h]
  | some a =>
    rw [eq_comm, Option.map_some, Option.map_eq_some_iff] at h
    obtain ⟨b, rfl, hab⟩ := h
    exact eq_of_caseBlind hq (Eq.symm hab)

/-- Pieces of the same kind end at places with the same letters. -/
def SameEnd (x y : LexemeKind × Cursor) : Prop := x.1 = y.1 ∧ x.2.SameLetters y.2

namespace SameLetters

theorem symm (h : c.SameLetters d) : d.SameLetters c := ⟨h.before.symm, h.ahead.symm⟩

theorem skip (h : c.SameLetters d) (n : Nat) : (c.skip n).SameLetters (d.skip n) := by
  induction n generalizing c d with
  | zero =>
    rw [skip_zero, skip_zero]
    exact h
  | succ n ih =>
    obtain ⟨x, s⟩ := c
    obtain ⟨y, t⟩ := d
    rcases h.ahead.cases_cons with ⟨rfl, rfl⟩ | ⟨a, b, s', t', rfl, rfl, hab, hrest⟩
    · exact h
    · exact ih ⟨congrArg some hab, hrest⟩

theorem upTo (h : c.SameLetters d) (hef : e.SameLetters f) : Text.SameLetters (c.upTo e) (d.upTo f) := by
  rw [Cursor.upTo, Cursor.upTo, h.ahead.length_eq, hef.ahead.length_eq]
  exact h.ahead.take _

end SameLetters

theorem lockstep_sameLetters : Pattern.Lockstep SameLetters CharClass.caseBlind CharClass.caseBlind where
  look h hk := h.ahead.head?_any_eq hk
  lookBack h hk := before_any_eq h.before hk
  atEnd h := by
    have hend {s t : Text} (h : s.SameLetters t) (hs : s = [] ∨ s = ['\n']) : t = [] ∨ t = ['\n'] := by
      rcases h.cases_cons with ⟨-, ht⟩ | ⟨a, b, s', t', rfl, rfl, hab, hrest⟩
      · exact .inl ht
      · rcases hs with hs | hs
        · cases hs
        · obtain ⟨rfl, rfl⟩ := List.cons_eq_cons.1 hs
          rw [hab.eq (by decide), List.eq_nil_of_length_eq_zero hrest.length_eq.symm]
          exact .inr rfl
    exact ⟨hend h.ahead, hend h.ahead.symm⟩
  step h _ _ := h.skip 1

/-! ## The next lexeme -/

namespace SameLetters

theorem rel_byRule? (h : c.SameLetters d) : Option.Rel SameEnd c.byRule? d.byRule? :=
  rel_findSome? fun r hr =>
    rel_map (lockstep_sameLetters.rel_end? (Rule.asksOnly_caseBlind r hr) h) fun _ _ hef => ⟨rfl, hef⟩

theorem rel_behind? {closing closing' : Text} (h : c.SameLetters d)
    (hsame : Text.endOfFirst? closing c.ahead = Text.endOfFirst? closing' d.ahead) :
    Option.Rel SameLetters (c.behind? closing) (d.behind? closing') := by
  rw [behind?, behind?, hsame]
  cases Text.endOfFirst? closing' d.ahead with
  | none => exact .none
  | some n => exact .some (h.skip n)

end SameLetters

end Cursor

/-- What is found at the same places in two texts ends at the same place first. -/
theorem Text.endOfFirst?_eq {part part' s t : Text} (hlength : s.length = t.length)
    (hpart : part.length = part'.length) (h : ∀ n, part.isPrefixOf (s.drop n) = part'.isPrefixOf (t.drop n)) :
    endOfFirst? part s = endOfFirst? part' t := by
  have hempty : part.isEmpty = part'.isEmpty := by
    rw [Bool.eq_iff_iff, List.isEmpty_iff_length_eq_zero, List.isEmpty_iff_length_eq_zero, hpart]
  induction s generalizing t with
  | nil =>
    rw [List.eq_nil_of_length_eq_zero hlength.symm, endOfFirst?, endOfFirst?, hempty]
  | cons a s ih =>
    obtain ⟨b, t, rfl⟩ := List.exists_cons_of_length_eq_add_one hlength.symm
    have hhere : part.isPrefixOf (a :: s) = part'.isPrefixOf (b :: t) := h 0
    rw [endOfFirst?, endOfFirst?, hhere, hpart, ih (Nat.succ_injective hlength) fun n => h (n + 1)]

namespace Cursor

namespace SameLetters

variable {c d : Cursor}

/-- Delimited spans end at the same place if the closing delimiters of dollar quoted texts are found there. -/
theorem rel_span? (h : c.SameLetters d)
    (hclosing : ∀ e f, dollarOpener.end? c = some e → dollarOpener.end? d = some f →
      Text.endOfFirst? (c.upTo e) e.ahead = Text.endOfFirst? (d.upTo f) f.ahead) :
    Option.Rel SameEnd c.span? d.span? := by
  have hdollar := lockstep_sameLetters.rel_end? asksOnly_caseBlind_openers.1 h
  have hblock := lockstep_sameLetters.rel_end? asksOnly_caseBlind_openers.2 h
  unfold span?
  cases he : dollarOpener.end? c with
  | some e =>
    cases hf : dollarOpener.end? d with
    | none =>
      rw [he, hf] at hdollar
      cases hdollar
    | some f =>
      rw [he, hf] at hdollar
      cases hdollar with
      | some hef => exact rel_map (hef.rel_behind? (hclosing e f he hf)) fun _ _ h => ⟨rfl, h⟩
  | none =>
    cases hf : dollarOpener.end? d with
    | some f =>
      rw [he, hf] at hdollar
      cases hdollar
    | none =>
      dsimp only
      generalize blockOpener.end? c = e?, blockOpener.end? d = f? at hblock ⊢
      cases hblock with
      | none => exact .none
      | @some e f hef =>
        have hsame : Text.endOfFirst? "*/" e.ahead = Text.endOfFirst? "*/" f.ahead :=
          Text.endOfFirst?_eq hef.ahead.length_eq rfl fun n => (hef.ahead.drop n).isPrefixOf_eq (by decide)
        exact rel_map (hef.rel_behind? hsame) fun _ _ h => ⟨rfl, h⟩

theorem rel_next? (h : c.SameLetters d) (hspan : Option.Rel SameEnd c.span? d.span?) :
    Option.Rel SameEnd c.next? d.next? := by
  have hrule := h.rel_byRule?
  have hempty : c.ahead.isEmpty = d.ahead.isEmpty := h.ahead.isEmpty_eq
  unfold next?
  rw [hempty]
  generalize c.span? = x, d.span? = y at hspan ⊢
  generalize c.byRule? = x', d.byRule? = y' at hrule ⊢
  split
  · exact .none
  · cases hspan with
    | some hxy => exact .some hxy
    | none =>
      cases hrule with
      | some hxy => exact .some hxy
      | none => exact .some ⟨rfl, h.skip 1⟩

theorem exists_next? {k : LexemeKind} {e : Cursor} (h : c.SameLetters d) (hspan : Option.Rel SameEnd c.span? d.span?)
    (hnext : c.next? = some (k, e)) : ∃ f, d.next? = some (k, f) ∧ e.SameLetters f := by
  have hrel := h.rel_next? hspan
  rw [hnext] at hrel
  generalize d.next? = y at hrel ⊢
  cases hrel with
  | @some _ y hxy =>
    obtain ⟨rfl, hef⟩ := hxy
    exact ⟨y.2, rfl, hef⟩

end SameLetters

end Cursor

/-! ## Lexemes -/

/-- The lexemes are of the same kind and have the same letters. -/
structure Lexeme.SameLetters (l m : Lexeme) : Prop where
  kind : l.kind = m.kind
  text : l.text.SameLetters m.text

namespace Lexeme.SameLetters

variable {l m : Lexeme}

theorem isFiller_eq (h : l.SameLetters m) : l.isFiller = m.isFiller := by rw [isFiller, isFiller, h.kind]

theorem withoutComment (h : l.SameLetters m) : l.withoutComment.SameLetters m.withoutComment := by
  unfold Lexeme.withoutComment
  rw [h.kind, h.text.endsWith_eq (by decide)]
  split
  · exact .refl _
  · exact h.text

theorem word (h : l.SameLetters m) : l.word.SameLetters m.word := by
  unfold Lexeme.word
  rw [h.kind, h.text.all_eq (by decide)]
  split
  · exact h.text
  · exact .nil

end Lexeme.SameLetters

theorem sameLetters_flatMap_withoutComment {ls ms : List Lexeme} (h : List.Forall₂ Lexeme.SameLetters ls ms) :
    Text.SameLetters (ls.flatMap Lexeme.withoutComment) (ms.flatMap Lexeme.withoutComment) := by
  induction h with
  | nil => exact .nil
  | cons hlm _ ih => exact hlm.withoutComment.append ih

/-- The first of the lexemes that is no filler, if it is a single word. -/
def firstWord (ls : List Lexeme) : Text :=
  match ls.find? fun l => !l.isFiller with
  | some l => l.word
  | none => []

theorem firstWord_cons (l : Lexeme) (ls : List Lexeme) :
    firstWord (l :: ls) = if l.isFiller then firstWord ls else l.word := by
  unfold firstWord
  rw [List.find?_cons]
  cases l.isFiller with
  | true => rfl
  | false => rfl

theorem leadingWord_eq (s : Text) : leadingWord s = firstWord (lexemes s) := rfl

/-- What comes behind lexemes with the same letters counts only if they are fillers. -/
theorem sameLetters_firstWord_append {ls ms ls' ms' : List Lexeme} (h : List.Forall₂ Lexeme.SameLetters ls ms)
    (h' : (firstWord ls').SameLetters (firstWord ms')) :
    (firstWord (ls ++ ls')).SameLetters (firstWord (ms ++ ms')) := by
  induction h with
  | nil => exact h'
  | cons hlm _ ih =>
    rw [List.cons_append, List.cons_append, firstWord_cons, firstWord_cons, hlm.isFiller_eq]
    split
    · exact ih
    · exact hlm.word

namespace Cursor

variable {c d : Cursor} {k : LexemeKind} {a : Char} {s : Text}

/-- What begins with a character that is none of words is no word. -/
theorem firstWord_lexemes_eq_nil (hc : c.ahead = a :: s) (ha : Character.isWordChar a = false)
    (hfirst : ∀ k d, c.next? = some (k, d) → k ≠ .blank ∧ k ≠ .comment) : firstWord c.lexemes = [] := by
  obtain ⟨k, d, hnext⟩ := exists_next? (c := c) (by rw [hc]; exact List.cons_ne_nil a s)
  obtain ⟨u, hu⟩ := exists_upTo_eq_cons hnext hc
  obtain ⟨hblank, hcomment⟩ := hfirst k d hnext
  rw [lexemes_eq_cons hnext, hu, firstWord_cons]
  simp [Lexeme.isFiller, Lexeme.word, hblank, hcomment, ha]

/-- Neither a blank nor a comment begins with a dollar sign. -/
theorem not_filler_of_dollar {d : Cursor} (hc : c.ahead = '$' :: s) (hnext : c.next? = some (k, d)) :
    k ≠ .blank ∧ k ≠ .comment := by
  constructor
  · rintro rfl
    exact absurd (isBlank_of_next? hc hnext) (by decide)
  · exact kind_ne_comment_of_notMem (by decide) hc hnext

/-- Where a dollar sign begins a lexeme, there is no word. -/
theorem firstWord_lexemes_of_dollar (hc : c.ahead = '$' :: s) : firstWord c.lexemes = [] :=
  firstWord_lexemes_eq_nil hc (by decide) fun _ _ => not_filler_of_dollar hc

/-- The lexer cuts the two texts alike, all through or up to a place where it finds delimited spans that differ. -/
theorem SameLetters.lexemes_cases (h : c.SameLetters d) :
    List.Forall₂ Lexeme.SameLetters c.lexemes d.lexemes ∨
      ∃ ls ms n, List.Forall₂ Lexeme.SameLetters ls ms ∧ c.lexemes = ls ++ (c.skip n).lexemes ∧
        d.lexemes = ms ++ (d.skip n).lexemes ∧ ¬ Option.Rel SameEnd (c.skip n).span? (d.skip n).span? := by
  fun_induction lexemes c generalizing d with
  | case1 c hnext =>
    have hahead := h.ahead
    rw [(next?_eq_none_iff c).1 hnext] at hahead
    rw [lexemes_eq_nil (List.eq_nil_of_length_eq_zero hahead.length_eq.symm)]
    exact .inl .nil
  | case2 c k e hnext ih =>
    by_cases hspan : Option.Rel SameEnd c.span? d.span?
    · obtain ⟨f, hnext', hef⟩ := h.exists_next? hspan hnext
      have hlexeme : Lexeme.SameLetters ⟨k, c.upTo e⟩ ⟨k, d.upTo f⟩ := ⟨rfl, h.upTo hef⟩
      rw [lexemes_eq_cons hnext']
      rcases ih hef with hall | ⟨ls, ms, n, hlexemes, hls, hms, hdiffer⟩
      · exact .inl (.cons hlexeme hall)
      · have he : e.skip n = c.skip ((c.upTo e).length + n) := by
          rw [← skip_skip, ← (exists_passes_of_next? hnext).2]
        have hf : f.skip n = d.skip ((c.upTo e).length + n) := by
          rw [← skip_skip, (h.upTo hef).length_eq, ← (exists_passes_of_next? hnext').2]
        rw [he] at hls hdiffer
        rw [hf] at hms hdiffer
        refine .inr ⟨_ :: ls, _ :: ms, _, .cons hlexeme hlexemes, ?_, ?_, hdiffer⟩
        · rw [hls, List.cons_append]
        · rw [hms, List.cons_append]
    · refine .inr ⟨[], [], 0, .nil, ?_, ?_, ?_⟩
      · rw [List.nil_append, skip_zero, lexemes_eq_cons hnext]
      · rw [List.nil_append, skip_zero]
      · rwa [skip_zero, skip_zero]

/-- Where delimited spans differ, both are dollar quoted texts. -/
theorem SameLetters.exists_dollar (h : c.SameLetters d) (hdiffer : ¬ Option.Rel SameEnd c.span? d.span?) :
    (∃ s, c.ahead = '$' :: s) ∧ ∃ t, d.ahead = '$' :: t := by
  have hfirst {c e : Cursor} (he : dollarOpener.end? c = some e) : ∃ s, c.ahead = '$' :: s := by
    obtain ⟨tag, -, hu, rest, hrest⟩ := Text.delimiter?_eq_some_iff.1 (delimiter?_of_dollarOpener he)
    rw [hu] at hrest
    exact ⟨_, hrest.symm⟩
  cases he : dollarOpener.end? c with
  | none => exact absurd (h.rel_span? fun e f he' => by rw [he] at he'; cases he') hdiffer
  | some e =>
    cases hf : dollarOpener.end? d with
    | none => exact absurd (h.rel_span? fun e f _ hf' => by rw [hf] at hf'; cases hf') hdiffer
    | some f => exact ⟨hfirst he, hfirst hf⟩

/-- A blank or a comment in the one text is one in the other. -/
theorem SameLetters.exists_next?_of_isFiller {e : Cursor} (h : c.SameLetters d) (hnext : c.next? = some (k, e))
    (hk : k = .blank ∨ k = .comment) : ∃ f, d.next? = some (k, f) ∧ e.SameLetters f := by
  have hspan : Option.Rel SameEnd c.span? d.span? := by
    by_contra hdiffer
    obtain ⟨⟨s, hs⟩, -⟩ := h.exists_dollar hdiffer
    obtain ⟨hblank, hcomment⟩ := not_filler_of_dollar hs hnext
    exact hk.elim hblank hcomment
  exact h.exists_next? hspan hnext

end Cursor

/-! ## Block comments -/

namespace BlockComments

variable {m : BlockComments} {s t : Text}

/-- No mark of comments has a letter in it. -/
def WithoutLetters (m : BlockComments) : Prop :=
  ∀ mark ∈ m.opening :: m.closing :: m.lineMarks, mark.any Char.isAlpha = false

instance (m : BlockComments) : Decidable m.WithoutLetters :=
  inferInstanceAs (Decidable (∀ mark ∈ _, List.any mark Char.isAlpha = false))

theorem WithoutLetters.opening (hm : m.WithoutLetters) (h : s.SameLetters t) :
    s.opensWith m.opening = t.opensWith m.opening :=
  h.opensWith_eq (hm _ (by simp))

theorem WithoutLetters.closing (hm : m.WithoutLetters) (h : s.SameLetters t) :
    s.opensWith m.closing = t.opensWith m.closing :=
  h.opensWith_eq (hm _ (by simp))

theorem WithoutLetters.lineMarks (hm : m.WithoutLetters) (h : s.SameLetters t) :
    m.lineMarks.any s.opensWith = m.lineMarks.any t.opensWith := by
  rw [Bool.eq_iff_iff, List.any_eq_true, List.any_eq_true]
  refine exists_congr fun mark => and_congr_right fun hmark => ?_
  rw [h.opensWith_eq (hm mark (by simp [hmark]))]

/-- What is asked of a text from a character on, and of one with the same letters. -/
theorem WithoutLetters.exists_cons (hm : m.WithoutLetters) {a : Char} (h : Text.SameLetters (a :: s) t) :
    ∃ b t', t = b :: t' ∧ SameLetter a b ∧ s.SameLetters t' ∧ (b = '\'' ↔ a = '\'') ∧
      Text.opensWith (b :: t') m.opening = Text.opensWith (a :: s) m.opening ∧
      Text.opensWith (b :: t') m.closing = Text.opensWith (a :: s) m.closing ∧
      m.lineMarks.any (Text.opensWith (b :: t')) = m.lineMarks.any (Text.opensWith (a :: s)) := by
  have hopening := hm.opening h
  have hclosing := hm.closing h
  have hline := hm.lineMarks h
  obtain ⟨b, t, rfl, hab, hrest⟩ := h.exists_cons
  refine ⟨b, t, rfl, hab, hrest, ⟨?_, ?_⟩, hopening.symm, hclosing.symm, hline.symm⟩
  · rintro rfl
    exact SameLetter.eq (Eq.symm hab) (by decide)
  · rintro rfl
    exact hab.eq (by decide)

/-- Taking block comments out does not see the case of letters. -/
theorem sameLetters_eraseFrom (hm : m.WithoutLetters) (mode : Mode) (h : s.SameLetters t) :
    (m.eraseFrom mode s).SameLetters (m.eraseFrom mode t) := by
  fun_induction eraseFrom m mode s generalizing t with
  | case1 mode =>
    rw [List.eq_nil_of_length_eq_zero h.length_eq.symm, eraseFrom]
    exact .nil
  | case2 rest ih =>
    obtain ⟨b, t, rfl, hab, hrest, hquote, -⟩ := hm.exists_cons h
    rw [eraseFrom, if_pos (hquote.2 rfl)]
    exact .cons hab (ih hrest)
  | case3 a rest ha hopens ih =>
    obtain ⟨b, t, rfl, -, hrest, hquote, hopening, -⟩ := hm.exists_cons h
    rw [eraseFrom, if_neg (mt hquote.1 ha), hopening, if_pos hopens]
    exact ih (hrest.drop _)
  | case4 a rest ha hopens hline ih =>
    obtain ⟨b, t, rfl, hab, hrest, hquote, hopening, -, hmarks⟩ := hm.exists_cons h
    rw [eraseFrom, if_neg (mt hquote.1 ha), hopening, if_neg hopens, hmarks, if_pos hline]
    have hfeed : caseBlind (fun x => decide (x ≠ '\n')) = true := by decide
    exact (Text.SameLetters.cons hab (hrest.takeWhile hfeed)).append (ih (hrest.dropWhile hfeed))
  | case5 a rest ha hopens hline ih =>
    obtain ⟨b, t, rfl, hab, hrest, hquote, hopening, -, hmarks⟩ := hm.exists_cons h
    rw [eraseFrom, if_neg (mt hquote.1 ha), hopening, if_neg hopens, hmarks, if_neg hline]
    exact .cons hab (ih hrest)
  | case6 a rest ih =>
    obtain ⟨b, t, rfl, hab, hrest, hquote, -⟩ := hm.exists_cons h
    rw [eraseFrom]
    refine .cons hab ?_
    have hbehind := ih hrest
    by_cases ha : a = '\''
    · rw [dif_pos ha] at hbehind
      rw [if_pos ha, if_pos (hquote.2 ha)]
      exact hbehind
    · rw [dif_neg ha] at hbehind
      rw [if_neg ha, if_neg (mt hquote.1 ha)]
      exact hbehind
  | case7 a rest hcloses ih =>
    obtain ⟨b, t, rfl, -, hrest, -, -, hclosing, -⟩ := hm.exists_cons h
    rw [eraseFrom, hclosing, if_pos hcloses]
    exact .cons rfl (ih (hrest.drop _))
  | case8 a rest hcloses n ih =>
    obtain ⟨b, t, rfl, -, hrest, -, -, hclosing, -⟩ := hm.exists_cons h
    rw [eraseFrom, hclosing, if_pos hcloses]
    exact ih (hrest.drop _)
  | case9 n a rest hcloses hopens ih =>
    obtain ⟨b, t, rfl, -, hrest, -, hopening, hclosing, -⟩ := hm.exists_cons h
    rw [eraseFrom_not_closing n (by rw [hclosing]; simpa using hcloses), hopening, if_pos hopens]
    exact ih (hrest.drop _)
  | case10 n a rest hcloses hopens ih =>
    obtain ⟨b, t, rfl, -, hrest, -, hopening, hclosing, -⟩ := hm.exists_cons h
    rw [eraseFrom_not_closing n (by rw [hclosing]; simpa using hcloses), hopening, if_neg hopens]
    exact ih hrest

end BlockComments

/-! ## Statements -/

namespace Text

/-- The places at which a lexeme begins with the delimiter of a dollar quoted text, whether it is closed or not. -/
def dollarOpenings (s : Text) : List Nat :=
  ((lexemes s).inits.map fun front => (front.flatMap Lexeme.text).length).filter fun n =>
    (dollarOpener.end? ((Cursor.start s).skip n)).isSome

/-- Where the lexer comes to the delimiter of a dollar quoted text in both texts, it finds the closing one at the same
place or in neither. -/
def SameDelimiters (s t : Text) : Prop :=
  ∀ n ∈ s.dollarOpenings, n ∈ t.dollarOpenings → closingDelimiter? (s.drop n) = closingDelimiter? (t.drop n)

instance (s t : Text) : Decidable (s.SameDelimiters t) :=
  inferInstanceAs (Decidable (∀ n ∈ s.dollarOpenings, n ∈ t.dollarOpenings → _ = _))

end Text

section

open Cursor

variable {s t : Text}

/-- Where the lexemes of the rest are the last ones of the text and a delimiter fits, the lexer comes to it. -/
theorem mem_dollarOpenings {front : List Lexeme} {n : Nat} {e : Cursor}
    (h : lexemes s = front ++ ((start s).skip n).lexemes) (he : dollarOpener.end? ((start s).skip n) = some e) :
    n ∈ s.dollarOpenings := by
  refine List.mem_filter.2 ⟨List.mem_map.2 ⟨front, ?_, ?_⟩, by rw [he]; rfl⟩
  · rw [h]
    exact (List.mem_inits _ _).2 (List.prefix_append _ _)
  · -- something is left at the place, so it lies within the text
    have hlt := Pattern.length_lt_of_mem_ends (p := dollarOpener) rfl _ e (List.mem_of_mem_head? he)
    have hlength := congrArg List.length (congrArg (List.flatMap Lexeme.text) h)
    rw [List.flatMap_append, List.length_append, flatMap_text_lexemes, Cursor.flatMap_text_lexemes] at hlength
    rw [ahead_skip, List.length_drop] at hlt hlength
    have hstart : (start s).ahead.length = s.length := rfl
    omega

/-- Where the closing delimiters are found at the same places, dollar quoted texts end at the same places. -/
theorem rel_span?_of_sameDelimiters (h : s.SameLetters t) (hsame : s.SameDelimiters t) {ls ms : List Lexeme} {n : Nat}
    (hls : lexemes s = ls ++ ((start s).skip n).lexemes) (hms : lexemes t = ms ++ ((start t).skip n).lexemes) :
    Option.Rel SameEnd ((start s).skip n).span? ((start t).skip n).span? := by
  have hstart : (start s).SameLetters (start t) := ⟨rfl, h⟩
  have hplace := hstart.skip n
  refine hplace.rel_span? fun e f he hf => ?_
  have hef : e.SameLetters f := by
    have hrel := lockstep_sameLetters.rel_end? asksOnly_caseBlind_openers.1 hplace
    rw [he, hf] at hrel
    cases hrel with
    | some hef => exact hef
  have hclosing := hsame n (mem_dollarOpenings hls he) (mem_dollarOpenings hms hf)
  rw [endOfFirst?_of_dollarOpener he, endOfFirst?_of_dollarOpener hf, (hplace.upTo hef).length_eq, ahead_skip, ahead_skip]
  exact congrArg (Option.map _) hclosing

/-- Texts with the same letters, whose dollar quoted texts are closed at the same places, have the same lexemes but for
the case of letters. -/
theorem lexemes_sameLetters (h : s.SameLetters t) (hsame : s.SameDelimiters t) :
    List.Forall₂ Lexeme.SameLetters (lexemes s) (lexemes t) := by
  have hstart : (start s).SameLetters (start t) := ⟨rfl, h⟩
  rcases hstart.lexemes_cases with hall | ⟨ls, ms, n, -, hls, hms, hdiffer⟩
  · exact hall
  · exact absurd (rel_span?_of_sameDelimiters h hsame hls hms) hdiffer

/-- The first words of texts with the same letters have the same letters, whatever dollar quoted texts there are. -/
theorem leadingWord_sameLetters (h : s.SameLetters t) : (leadingWord s).SameLetters (leadingWord t) := by
  have hstart : (start s).SameLetters (start t) := ⟨rfl, h⟩
  rw [leadingWord_eq, leadingWord_eq]
  rcases hstart.lexemes_cases with hall | ⟨ls, ms, n, hlexemes, hls, hms, hdiffer⟩
  · have hnil : (firstWord []).SameLetters (firstWord []) := .nil
    have hsame := sameLetters_firstWord_append hall hnil
    rwa [List.append_nil, List.append_nil] at hsame
  · obtain ⟨⟨s', hs'⟩, t', ht'⟩ := (hstart.skip n).exists_dollar hdiffer
    rw [lexemes, lexemes, hls, hms]
    refine sameLetters_firstWord_append hlexemes ?_
    rw [firstWord_lexemes_of_dollar hs', firstWord_lexemes_of_dollar ht']
    exact .nil

end

end SqlDialects
