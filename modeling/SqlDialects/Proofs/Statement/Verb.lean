/-
How a text begins that begins with one of the verbs that change something and then ends or has a blank
(`VerbLed`). Whatever follows, the lexer takes the verb by itself as a keyword or a name
(`VerbLed.next?_verb`), with one exception: `CREATE OR REPLACE` is one lexeme
(`VerbLed.next?_createOrReplace`). So the first word is the verb, or in that one case there is none
(`VerbLed.leadingWord_eq`, `VerbLed.leadingWord_createOrReplace`), and taking comments out leaves the verb
and the blank in place (`VerbLed.flatMap_withoutComment`).

Each rule of the lexer that comes before the one for words is checked against the outline of a verb.
-/
import SqlDialects.Proofs.Statement.Lexeme
import SqlDialects.Proofs.Statement.Outline
import SqlDialects.Statement.Reader

namespace SqlDialects

/-- The verbs with which a statement changes something. -/
def modifyingVerbs : List Text :=
  ["INSERT", "UPDATE", "DELETE", "MERGE", "CREATE", "ALTER", "DROP", "TRUNCATE"]

/-- The text is a run of blanks. -/
def Text.IsBlank (s : Text) : Prop := s ≠ [] ∧ ∀ a ∈ s, Character.isBlank a = true

/-- The text is the two words that may follow `CREATE`, with blanks before each. -/
def IsOrReplace (v : Text) : Prop :=
  ∃ b₁ or b₂ replace : Text, v = b₁ ++ or ++ b₂ ++ replace ∧ b₁.IsBlank ∧ or.Spells "OR" ∧ b₂.IsBlank ∧
    replace.Spells "REPLACE"

/-- The text begins with `CREATE OR REPLACE`, whatever blanks there are between the words. -/
def CreatesOrReplaces (s : Text) : Prop :=
  ∃ create v rest : Text, s = create ++ v ++ rest ∧ create.Spells "CREATE" ∧ IsOrReplace v ∧
    rest.head?.any Character.isWordChar = false

theorem isUpper_of_mem_modifyingVerbs :
    ∀ verb ∈ modifyingVerbs, verb ≠ [] ∧ verb.all Char.isUpper = true := by
  decide

/-! ## The outline of a word -/

/-- What is known of a text that begins with a word in any case and then ends or has a blank. -/
def Outline.ofWord (word : Text) : Outline where
  previous := .missing
  ahead := word.map (fun b => .among [b, b.toLower]) ++ [.blankOrMissing]

theorem Outline.size_ofWord (word : Text) : (ofWord word).size = word.length + 1 := by
  simp [ofWord, size]

theorem Outline.fits_ofWord {word w rest : Text} (hword : word.all Char.isUpper = true)
    (hw : w.Spells word) (hrest : ∀ a ∈ rest.head?, Character.isBlank a = true) :
    (ofWord word).Fits (Cursor.start (w ++ rest)) := by
  refine ⟨rfl, fun i s hs => ?_⟩
  rcases Nat.lt_or_ge i word.length with hi | hi
  · have hletter : w[i]?.map Char.toUpper = word[i]? := by rw [← hw, List.getElem?_map]
    rw [List.getElem?_eq_getElem hi, Option.map_eq_some_iff] at hletter
    obtain ⟨a, ha, hupper⟩ := hletter
    have hmem : word[i].isUpper = true := List.all_eq_true.1 hword _ (List.getElem_mem hi)
    simp only [ofWord] at hs
    rw [List.getElem?_append_left (by simpa using hi), List.getElem?_map, List.getElem?_eq_getElem hi] at hs
    cases hs
    refine ⟨a, ?_, ?_⟩
    · simpa using (toUpper_eq_iff hmem).1 hupper
    · show (w ++ rest)[i]? = some a
      rw [List.getElem?_append_left (by rw [hw.length_eq]; exact hi), ha]
  · simp only [ofWord] at hs
    rw [List.getElem?_append_right (by simpa using hi), List.length_map, List.getElem?_singleton] at hs
    split at hs
    · rename_i hlast
      cases hs
      show ∀ a ∈ (w ++ rest)[i]?, Character.isBlank a = true
      have hi' : i = w.length := by rw [hw.length_eq]; omega
      rw [hi', List.getElem?_append_right (Nat.le_refl _), Nat.sub_self, ← List.head?_eq_getElem?]
      exact hrest
    · cases hs

/-- The two words begin with a blank. -/
theorem IsOrReplace.exists_cons {v : Text} (h : IsOrReplace v) :
    ∃ b v', v = b :: v' ∧ Character.isBlank b = true := by
  obtain ⟨b₁, o, b₂, r, rfl, hb₁, -⟩ := h
  cases b₁ with
  | nil => exact absurd rfl hb₁.1
  | cons b b₁ => exact ⟨b, b₁ ++ o ++ b₂ ++ r, rfl, hb₁.2 b List.mem_cons_self⟩

/-! ## Texts that begin with a verb -/

/-- A text that begins with a verb, in any case, and then ends or has a blank. -/
structure VerbLed (verb w rest : Text) : Prop where
  modifying : verb ∈ modifyingVerbs
  spells : w.Spells verb
  stops : ∀ a ∈ rest.head?, Character.isBlank a = true

namespace VerbLed

variable {verb w rest : Text}

theorem ne_nil (h : VerbLed verb w rest) : w ≠ [] := by
  rintro rfl
  exact (isUpper_of_mem_modifyingVerbs verb h.modifying).1 h.spells.symm

theorem isWordChar (h : VerbLed verb w rest) : ∀ a ∈ w, Character.isWordChar a = true := fun a ha =>
  isWordChar_of_isAlpha (h.spells.isAlpha (isUpper_of_mem_modifyingVerbs verb h.modifying).2 a ha)

theorem fits (h : VerbLed verb w rest) : (Outline.ofWord verb).Fits (Cursor.start (w ++ rest)) :=
  Outline.fits_ofWord (isUpper_of_mem_modifyingVerbs verb h.modifying).2 h.spells h.stops

/-- Where a blank follows the verb, any other text that begins with it may follow. -/
theorem of_prefix {b : Char} {t t' : Text} (h : VerbLed verb w (b :: t)) (hstart : rest <+: b :: t') :
    VerbLed verb w rest := by
  refine ⟨h.modifying, h.spells, ?_⟩
  cases rest with
  | nil =>
    intro a ha
    cases ha
  | cons a rest =>
    obtain ⟨rfl, -⟩ := List.cons_prefix_cons.1 hstart
    exact h.stops

/-- A pattern that reaches nothing from a place of the verb does not fit there. -/
theorem not_leads (h : VerbLed verb w rest) {p : Pattern} {j : Nat} (hj : j ≤ w.length)
    (hp : (Outline.ofWord verb).reach p j = []) {d : Cursor} :
    ¬ p.Leads ((Cursor.start (w ++ rest)).skip j) d := by
  have hlength : j ≤ (Cursor.start (w ++ rest)).ahead.length := by
    show j ≤ (w ++ rest).length
    rw [List.length_append]
    omega
  have hmin : min j (Outline.ofWord verb).size = j := by
    rw [Outline.size_ofWord, ← h.spells.length_eq]
    omega
  exact Outline.not_leads h.fits hlength (by rw [hmin]; exact hp)

theorem not_leads_start (h : VerbLed verb w rest) {p : Pattern}
    (hp : (Outline.ofWord verb).reach p 0 = []) {d : Cursor} : ¬ p.Leads (Cursor.start (w ++ rest)) d :=
  Outline.not_leads_here h.fits hp

end VerbLed

/-! ## Rules and outlines -/

namespace Rule

open Pattern

/-- The rule for the words that no rule before it takes. -/
def word : Rule := ⟨.name, one .wordChar ++ many (one wordPart)⟩

def orReplace : Pattern := blanks ++ "OR" ++ blanks ++ "REPLACE"

def create : Rule := ⟨.keyword, "CREATE" ++ optional orReplace ++ wordEdge⟩

def nameBeforePoint : Rule :=
  ⟨.name, one .nameStart ++ many (one .wordChar) ++
    peek (many (one .blank) ++ "." ++ notPeek (one .decimalDigit))⟩

theorem word_mem_all : word ∈ all := by decide

theorem create_mem_all : create ∈ all := by decide

/-- A rule that comes before the one for words and fits a verb ends behind it, the rule for `CREATE`
excepted. -/
theorem reach_before_word :
    ∀ verb ∈ modifyingVerbs, ∀ r ∈ before word, (verb = ("CREATE" : Text) ∧ r = create) ∨
      ∀ i ∈ (Outline.ofWord verb).reach r.pattern 0,
        i = verb.length ∧ (r.kind = .keyword ∨ r.kind = .name) := by
  decide

theorem reach_before_create :
    ∀ r ∈ before create, r = nameBeforePoint ∨ (Outline.ofWord "CREATE").reach r.pattern 0 = [] := by
  decide

theorem reach_nameBeforePoint :
    ∀ i ∈ (Outline.ofWord "CREATE").reach nameBeforePoint.pattern 0, i = 6 := by
  decide

/-- No comment begins behind a verb. -/
theorem reach_comment :
    ∀ verb ∈ modifyingVerbs, ∀ r ∈ all, r.kind = .comment →
      (Outline.ofWord verb).reach r.pattern verb.length = [] := by
  decide

end Rule

theorem reach_opener :
    ∀ verb ∈ modifyingVerbs, ∀ i ∈ [0, verb.length],
      (Outline.ofWord verb).reach dollarOpener i = [] ∧ (Outline.ofWord verb).reach blockOpener i = [] := by
  decide

/-! ## `CREATE OR REPLACE` -/

namespace Rule

open Pattern Cursor

variable {c d : Cursor} {v w rest : Text}

theorem leads_orReplace_iff : orReplace.Leads c d ↔ ∃ v, IsOrReplace v ∧ c.Passes v d := by
  constructor
  · rintro ⟨e₃, ⟨e₂, ⟨e₁, hblanks₁, hor⟩, hblanks₂⟩, hreplace⟩
    obtain ⟨b₁, hne₁, hb₁, hp₁⟩ := leads_several_one_iff.1 hblanks₁
    obtain ⟨o, ho, hpo⟩ := (leads_text_iff (by decide)).1 hor
    obtain ⟨b₂, hne₂, hb₂, hp₂⟩ := leads_several_one_iff.1 hblanks₂
    obtain ⟨r, hr, hpr⟩ := (leads_text_iff (by decide)).1 hreplace
    exact ⟨_, ⟨b₁, o, b₂, r, rfl, ⟨hne₁, hb₁⟩, ho, ⟨hne₂, hb₂⟩, hr⟩, ((hp₁.append hpo).append hp₂).append hpr⟩
  · rintro ⟨_, ⟨b₁, o, b₂, r, rfl, hb₁, ho, hb₂, hr⟩, hpass⟩
    obtain ⟨e₃, hpass, hpr⟩ := passes_append_iff.1 hpass
    obtain ⟨e₂, hpass, hp₂⟩ := passes_append_iff.1 hpass
    obtain ⟨e₁, hp₁, hpo⟩ := passes_append_iff.1 hpass
    have hblanks₁ : blanks.Leads c e₁ := leads_several_one_iff.2 ⟨b₁, hb₁.1, hb₁.2, hp₁⟩
    have hblanks₂ : blanks.Leads e₂ e₃ := leads_several_one_iff.2 ⟨b₂, hb₂.1, hb₂.2, hp₂⟩
    exact ⟨e₃, ⟨e₂, ⟨e₁, hblanks₁, (leads_text_iff (by decide)).2 ⟨o, ho, hpo⟩⟩, hblanks₂⟩,
      (leads_text_iff (by decide)).2 ⟨r, hr, hpr⟩⟩

/-- The last of the words ends where no further letter follows. -/
theorem atWordEdge_iff (hv : IsOrReplace v) (h : c.Passes v d) :
    atWordEdge d = true ↔ d.ahead.head?.any Character.isWordChar = false := by
  obtain ⟨b₁, o, b₂, r, rfl, -, -, -, hr⟩ := hv
  rcases List.eq_nil_or_concat' r with rfl | ⟨r, a, rfl⟩
  · cases hr
  · have ha : Character.isWordChar a = true :=
      isWordChar_of_isAlpha (hr.isAlpha (by decide) a (by simp))
    rw [← List.append_assoc] at h
    rw [atWordEdge, h.before_eq, Option.any_some, ha]
    cases d.ahead.head?.any Character.isWordChar <;> simp

/-- Where the rule for `CREATE` fits, it ends behind that word or the text has the other two as well. -/
theorem eq_skip_of_leads_create (hw : w.Spells "CREATE") (h : create.pattern.Leads (start (w ++ rest)) d) :
    d = (start (w ++ rest)).skip w.length ∨ CreatesOrReplaces (w ++ rest) := by
  obtain ⟨e, ⟨f, hcreate, hmore⟩, rfl, hedge⟩ := h
  obtain ⟨u, hu, hpass⟩ := (leads_text_iff (by decide)).1 hcreate
  rcases hmore with hmore | rfl
  · obtain ⟨v, hv, hpass'⟩ := leads_orReplace_iff.1 hmore
    exact .inr ⟨u, v, d.ahead, (hpass.append hpass').1, hu, hv, (atWordEdge_iff hv hpass').1 hedge⟩
  · exact .inl (by rw [hpass.2, hu.length_eq, hw.length_eq])

/-- Where the text has all three words, the rule for `CREATE` prefers to take them. -/
theorem end?_create (hw : w.Spells "CREATE") (h : CreatesOrReplaces (w ++ rest)) :
    ∃ v d, create.pattern.end? (start (w ++ rest)) = some d ∧ IsOrReplace v ∧
      (start (w ++ rest)).Passes (w ++ v) d := by
  obtain ⟨u, v, t, hs, hu, hv, ht⟩ := h
  rw [List.append_assoc] at hs
  obtain ⟨rfl, rfl⟩ := List.append_inj hs (by rw [hw.length_eq, hu.length_eq])
  obtain ⟨e, hcreate⟩ : ∃ e, (start (w ++ (v ++ t))).Passes w e := ⟨_, passes_skip rfl⟩
  have hahead : e.ahead = v ++ t := (List.append_cancel_left hcreate.1).symm
  have hmore : e.Passes v (e.skip v.length) := passes_skip hahead
  have hedge : atWordEdge (e.skip v.length) = true := by
    rw [atWordEdge_iff hv hmore, ahead_skip, hahead, List.drop_left]
    exact ht
  have hends : create.pattern.ends (start (w ++ (v ++ t))) =
      (orReplace.ends e).flatMap (fun d => wordEdge.ends d) ++ wordEdge.ends e := by
    show (((text "CREATE").ends _).flatMap fun d => orReplace.ends d ++ [d]).flatMap
      (fun d => wordEdge.ends d) = _
    rw [ends_text ((leads_text_iff (by decide)).2 ⟨w, hw, hcreate⟩), List.flatMap_singleton,
      List.flatMap_append, List.flatMap_singleton]
  have hmem : e.skip v.length ∈ (orReplace.ends e).flatMap fun d => wordEdge.ends d :=
    List.mem_flatMap.2 ⟨_, mem_ends_iff.2 (leads_orReplace_iff.2 ⟨v, hv, hmore⟩), mem_ends_iff.2 ⟨rfl, hedge⟩⟩
  obtain ⟨d, hd⟩ := Option.isSome_iff_exists.1 (List.isSome_head?.2 (List.ne_nil_of_mem hmem))
  obtain ⟨d', hd', hedge'⟩ := List.mem_flatMap.1 (List.mem_of_mem_head? hd)
  obtain ⟨rfl, -⟩ := mem_ends_iff.1 hedge'
  obtain ⟨v', hv', hpass⟩ := leads_orReplace_iff.1 (mem_ends_iff.1 hd')
  refine ⟨v', d, ?_, hv', hcreate.append hpass⟩
  rw [end?, hends, List.head?_append, hd]
  rfl

/-- No point follows the first of the three words. -/
theorem not_leads_nameBeforePoint (hled : VerbLed "CREATE" w rest) (h : CreatesOrReplaces (w ++ rest)) :
    ¬ nameBeforePoint.pattern.Leads (start (w ++ rest)) d := by
  intro hlead
  have hd : d = (start (w ++ rest)).skip 6 := by
    obtain ⟨i, hi, hd⟩ := Outline.exists_mem_reach hled.fits
      (by rw [Outline.size_ofWord]; decide) hlead
    rw [hd, reach_nameBeforePoint i hi]
  obtain ⟨u, v, t, hs, hu, ⟨b₁, o, b₂, r, rfl, hb₁, ho, -⟩, -⟩ := h
  have ho' : o.map Char.toUpper = ['O', 'R'] := ho
  obtain ⟨a, o, rfl, ha, -⟩ := List.map_eq_cons_iff.1 ho'
  obtain ⟨e, -, rfl, _, _, ⟨z, hblanks, hpoint⟩, -⟩ := hlead
  obtain ⟨b, hb, hpass⟩ := leads_many_one_iff.1 hblanks
  obtain ⟨-, ⟨x, t', hz, hx, -⟩, -⟩ := hpoint
  obtain rfl : x = '.' := beq_iff_eq.1 hx
  have hb' : ∀ a ∈ b, Character.isBlank a = true := hb
  have ha' : Character.isBlank a = false :=
    Character.isBlank_of_isWordChar (isWordChar_of_isAlpha (isAlpha_of_toUpper ha (by decide)))
  have hahead : (b ++ '.' :: t').dropWhile Character.isBlank =
      (b₁ ++ a :: (o ++ b₂ ++ r ++ t)).dropWhile Character.isBlank := by
    have hlength : u.length = 6 := hu.length_eq
    rw [← hz, ← hpass.1, hd, ahead_skip]
    show (List.drop 6 (w ++ rest)).dropWhile _ = _
    rw [hs, List.append_assoc, List.drop_left' hlength]
    simp only [List.append_assoc, List.cons_append]
  rw [List.dropWhile_append_of_pos hb', List.dropWhile_append_of_pos hb₁.2,
    List.dropWhile_cons_of_neg (by decide), List.dropWhile_cons_of_neg (by simp [ha'])] at hahead
  obtain ⟨rfl, -⟩ := List.cons_eq_cons.1 hahead
  cases ha

end Rule

/-! ## The first lexeme -/

section

open Cursor Rule

variable {w rest : Text}

/-- The rule for words takes all that a word may go on with. -/
theorem Rule.exists_end?_word {c : Cursor} (hc : c.ahead.head?.any Character.isWordChar = true) :
    ∃ d, word.pattern.end? c = some d ∧ c.Passes (c.ahead.takeWhile wordPart.holds) d := by
  obtain ⟨x, _ | ⟨a, s⟩⟩ := c
  · cases hc
  · have hword : Character.isWordChar a = true := hc
    have hfirst : word.pattern.end? ⟨x, a :: s⟩ = (Pattern.many (.one wordPart)).end? ⟨some a, s⟩ := by
      show ((if Character.isWordChar a = true then [(⟨some a, s⟩ : Cursor)] else []).flatMap _).head? = _
      rw [if_pos hword, List.flatMap_singleton]
      rfl
    have ha : wordPart.holds a = true := Bool.or_eq_true_iff.2 (.inl hc)
    rw [hfirst, Pattern.end?_many_one, List.takeWhile_cons_of_pos ha]
    exact ⟨_, rfl, passes_skip (v := s.dropWhile wordPart.holds) (by simp)⟩

/-- That is a word at the beginning of a text if the text ends behind it or has a blank there. -/
theorem Rule.end?_word (hne : w ≠ []) (hw : ∀ a ∈ w, Character.isWordChar a = true)
    (hrest : ∀ a ∈ rest.head?, Character.isBlank a = true) :
    word.pattern.end? (start (w ++ rest)) = some ((start (w ++ rest)).skip w.length) := by
  have hstop : ∀ b ∈ rest.head?, wordPart.holds b = false := by
    intro b hb
    refine Bool.eq_false_iff.2 fun hpart => ?_
    have := CharClass.mayHoldBlank_of_holds hpart (hrest b hb)
    cases this
  have hparts : ∀ a ∈ w, wordPart.holds a = true := fun a ha => Bool.or_eq_true_iff.2 (.inl (hw a ha))
  have hhead : (w ++ rest).head?.any Character.isWordChar = true := by
    cases w with
    | nil => exact absurd rfl hne
    | cons a w => exact hw a List.mem_cons_self
  obtain ⟨d, hd, hpass⟩ := exists_end?_word (c := start (w ++ rest)) hhead
  rw [show (start (w ++ rest)).ahead = w ++ rest from rfl, Text.takeWhile_append_of_head hparts hstop] at hpass
  rw [hd, hpass.2]

/-- The lexer takes such a word by itself if the rules that come before the one for words take no more of the text. -/
theorem Cursor.next?_word (hne : w ≠ []) (hw : ∀ a ∈ w, Character.isWordChar a = true)
    (hrest : ∀ a ∈ rest.head?, Character.isBlank a = true) (hspan : (start (w ++ rest)).span? = none)
    (hbefore : ∀ r ∈ word.before, ∀ d, r.pattern.Leads (start (w ++ rest)) d →
      d = (start (w ++ rest)).skip w.length ∧ (r.kind = .keyword ∨ r.kind = .name)) :
    ∃ k, (start (w ++ rest)).next? = some (k, (start (w ++ rest)).skip w.length) ∧
      (k = .keyword ∨ k = .name) := by
  obtain ⟨k, d, hrule, rfl, hk⟩ := exists_byRule? (P := fun k d =>
    d = (start (w ++ rest)).skip w.length ∧ (k = .keyword ∨ k = .name)) word_mem_all
    (fun r hr d hd => hbefore r hr d (Pattern.leads_of_end? hd)) ⟨_, end?_word hne hw hrest, rfl, .inr rfl⟩
  exact ⟨k, next?_of_byRule? (List.append_ne_nil_of_left_ne_nil hne rest) hspan hrule, hk⟩

end

namespace VerbLed

open Cursor Rule

variable {verb w rest : Text}

/-- No delimited span begins with the verb or behind it. -/
theorem span?_eq_none (h : VerbLed verb w rest) {j : Nat} (hj : j ∈ [0, w.length]) :
    ((start (w ++ rest)).skip j).span? = none := by
  have hle : j ≤ w.length := by
    rcases List.mem_pair.1 hj with rfl | rfl
    · exact Nat.zero_le _
    · exact Nat.le_refl _
  rw [h.spells.length_eq] at hj
  obtain ⟨hdollar, hblock⟩ := reach_opener verb h.modifying j hj
  exact Cursor.span?_eq_none (fun d => h.not_leads hle hdollar) (fun d => h.not_leads hle hblock)

theorem span?_start (h : VerbLed verb w rest) : (start (w ++ rest)).span? = none := by
  rw [← (start (w ++ rest)).skip_zero]
  exact h.span?_eq_none List.mem_cons_self

/-- The lexer takes the verb by itself, unless it is the first of three words that belong together. -/
theorem next?_verb (h : VerbLed verb w rest) (hone : ¬ CreatesOrReplaces (w ++ rest)) :
    ∃ k, (start (w ++ rest)).next? = some (k, (start (w ++ rest)).skip w.length) ∧
      (k = .keyword ∨ k = .name) := by
  refine next?_word h.ne_nil h.isWordChar h.stops h.span?_start ?_
  intro r hr d hd
  rcases reach_before_word verb h.modifying r hr with ⟨rfl, rfl⟩ | hreach
  · rcases eq_skip_of_leads_create h.spells hd with hd' | hthree
    · exact ⟨hd', .inl rfl⟩
    · exact absurd hthree hone
  · have hwithin : ∀ i ∈ (Outline.ofWord verb).reach r.pattern 0, i < (Outline.ofWord verb).size := by
      intro i hi
      rw [(hreach i hi).1, Outline.size_ofWord]
      exact Nat.lt_succ_self _
    obtain ⟨i, hi, rfl⟩ := Outline.exists_mem_reach h.fits hwithin hd
    rw [(hreach i hi).1, h.spells.length_eq]
    exact ⟨rfl, (hreach i hi).2⟩

/-- The three words are taken together. -/
theorem next?_createOrReplace (h : VerbLed "CREATE" w rest) (hthree : CreatesOrReplaces (w ++ rest)) :
    ∃ v d, (start (w ++ rest)).next? = some (.keyword, d) ∧ IsOrReplace v ∧
      (start (w ++ rest)).Passes (w ++ v) d := by
  have hbefore : ∀ r ∈ before create, ∀ d, ¬ r.pattern.Leads (start (w ++ rest)) d := by
    intro r hr d
    rcases reach_before_create r hr with rfl | hnone
    · exact not_leads_nameBeforePoint h hthree
    · exact h.not_leads_start hnone
  obtain ⟨v, d, hend, hv, hpass⟩ := end?_create h.spells hthree
  obtain ⟨k, d, hrule, rfl, hd⟩ := exists_byRule? (P := fun k d =>
    k = .keyword ∧ create.pattern.end? (start (w ++ rest)) = some d) create_mem_all
    (fun r hr d hd => absurd (Pattern.leads_of_end? hd) (hbefore r hr d)) ⟨d, hend, rfl, hend⟩
  obtain rfl := Option.some.inj (hend.symm.trans hd)
  exact ⟨v, _, next?_of_byRule? (List.append_ne_nil_of_left_ne_nil h.ne_nil rest) h.span?_start hrule, hv, hpass⟩

/-- No comment begins behind the verb. -/
theorem next?_behind (h : VerbLed verb w rest) {k : LexemeKind} {d : Cursor}
    (hnext : ((start (w ++ rest)).skip w.length).next? = some (k, d)) : k ≠ .comment := by
  have hspan : ((start (w ++ rest)).skip w.length).span? = none := h.span?_eq_none (by simp)
  rintro rfl
  obtain ⟨r, hr, hk, hlead⟩ := exists_rule_of_comment hspan hnext
  have hnone := reach_comment verb h.modifying r hr hk
  rw [← h.spells.length_eq] at hnone
  exact h.not_leads (Nat.le_refl _) hnone hlead

/-! ## The first word -/

/-- The first word of a statement is the verb. -/
theorem leadingWord_eq (h : VerbLed verb w rest) (hone : ¬ CreatesOrReplaces (w ++ rest)) :
    leadingWord (w ++ rest) = w := by
  obtain ⟨k, hnext, hk⟩ := h.next?_verb hone
  have hall : w.all Character.isWordChar = true := List.all_eq_true.2 h.isWordChar
  rw [leadingWord, SqlDialects.lexemes, lexemes_eq_cons hnext, (passes_skip rfl).upTo_eq]
  rcases hk with rfl | rfl
  · simp [Lexeme.isFiller, Lexeme.word, hall]
  · simp [Lexeme.isFiller, Lexeme.word, hall]

/-- A statement that begins with the three words has no first word. -/
theorem leadingWord_createOrReplace (h : VerbLed "CREATE" w rest)
    (hthree : CreatesOrReplaces (w ++ rest)) : leadingWord (w ++ rest) = [] := by
  obtain ⟨v, d, hnext, hv, hpass⟩ := h.next?_createOrReplace hthree
  obtain ⟨b, v, rfl, hb⟩ := hv.exists_cons
  have hall : ¬ (w ++ b :: v).all Character.isWordChar = true := by
    intro hall
    have := List.all_eq_true.1 hall b (by simp)
    rw [Character.isWordChar_of_isBlank hb] at this
    cases this
  rw [leadingWord, SqlDialects.lexemes, lexemes_eq_cons hnext, hpass.upTo_eq]
  generalize w ++ b :: v = u at hall
  simp [Lexeme.isFiller, Lexeme.word, hall]

/-- No other verb begins the three words. -/
theorem create_of_createsOrReplaces (h : VerbLed verb w rest) (hthree : CreatesOrReplaces (w ++ rest)) :
    VerbLed "CREATE" w rest := by
  refine ⟨by decide, ?_, h.stops⟩
  obtain ⟨u, v, t, hs, hu, hv, -⟩ := hthree
  obtain ⟨b, v, rfl, hb⟩ := hv.exists_cons
  rw [List.append_assoc] at hs
  have hled : VerbLed "CREATE" u (b :: v ++ t) :=
    ⟨by decide, hu, fun a ha => by rw [← Option.some.inj ha]; exact hb⟩
  have hstop {b : Char} (hb : Character.isBlank b = true) : Character.isWordChar b = false :=
    Character.isWordChar_of_isBlank hb
  -- both words are the run of word characters that the text begins with
  have hwhile := congrArg (List.takeWhile Character.isWordChar) hs
  rw [Text.takeWhile_append_of_head h.isWordChar fun a ha => hstop (h.stops a ha),
    Text.takeWhile_append_of_head hled.isWordChar fun a ha => hstop (hled.stops a ha)] at hwhile
  rw [hwhile]
  exact hu

/-! ## Taking comments out -/

/-- Taking comments out of the lexemes keeps the verb and the blank behind it. -/
theorem flatMap_withoutComment {b : Char} {t : Text} (h : VerbLed verb w (b :: t)) :
    ∃ t', (SqlDialects.lexemes (w ++ b :: t)).flatMap Lexeme.withoutComment = w ++ b :: t' := by
  by_cases hthree : CreatesOrReplaces (w ++ b :: t)
  · -- the blank belongs to the first lexeme, which is no comment
    obtain ⟨v, d, hnext, hv, hpass⟩ := (h.create_of_createsOrReplaces hthree).next?_createOrReplace hthree
    obtain ⟨b', v, rfl, -⟩ := hv.exists_cons
    have hahead := hpass.1
    rw [List.append_assoc] at hahead
    obtain ⟨rfl, -⟩ := List.cons_eq_cons.1 (List.append_cancel_left hahead)
    refine ⟨v ++ d.lexemes.flatMap Lexeme.withoutComment, ?_⟩
    rw [SqlDialects.lexemes, lexemes_eq_cons hnext, hpass.upTo_eq, List.flatMap_cons]
    simp [Lexeme.withoutComment]
  · -- the blank begins the second lexeme, which is no comment either
    obtain ⟨k, hnext, hk⟩ := h.next?_verb hthree
    have hpass : (start (w ++ b :: t)).Passes w ((start (w ++ b :: t)).skip w.length) := passes_skip rfl
    have hahead : ((start (w ++ b :: t)).skip w.length).ahead = b :: t :=
      (List.append_cancel_left hpass.1).symm
    obtain ⟨k', d, hnext'⟩ := exists_next? (c := (start (w ++ b :: t)).skip w.length)
      (by rw [hahead]; exact List.cons_ne_nil b t)
    obtain ⟨v, hv⟩ := exists_left_of_next? hnext' (h.next?_behind hnext') hahead
    have hkeep : k ≠ .comment := by
      rintro rfl
      rcases hk with hk | hk <;> cases hk
    exact ⟨v, by rw [SqlDialects.lexemes, flatMap_withoutComment_of_ne hnext hkeep, hpass.upTo_eq, hv]⟩

end VerbLed

end SqlDialects
