/-
Statements that are alike but for the case of letters, up to a dollar sign with which different things begin. Taking
the comments out of them leaves statements of which the same can be said. The rules that decide on a word do not look
past the dollar sign (`Cursor.lockstep_beforeDollar`), but for the one for time zones, and that one is kept from it by
how the statements have come about (`BeforeDollar.Left`). So the first words of what is left are the same but for the
case of letters (`leadingWord_stripped_sameLetters`).
-/
import SqlDialects.Proofs.Statement.LetterCase
import SqlDialects.Proofs.Statement.Rereading
import SqlDialects.Proofs.Statement.TimeZone
import SqlDialects.Proofs.Statement.Verb

namespace SqlDialects

open Character Cursor Pattern

/-! ## Rules -/

namespace Rule

/-- The rule for the one word that is an operator. -/
def divide : Rule :=
  ⟨.other, one (.oneOf ['D', 'd']) ++ one (.oneOf ['I', 'i', '\u0131']) ++ one (.oneOf ['V', 'v']) ++
    notPeek (one wordPart)⟩

/-- A rule that fits a word begins outside of words or does not ask for a dollar sign, but for three. -/
theorem dollar_of_mem_all : ∀ r ∈ all, r.pattern.beginsOutsideWord = true ∨
    r.pattern.asksOnly (fun k => !k.holds '$') (fun _ => true) = true ∨
      r = word ∨ r = divide ∨ r = timeZone := by
  decide +kernel

end Rule

/-! ## Places in front of the dollar sign -/

namespace Cursor

variable {r r' : Text} {c d e f : Cursor}

/-- The texts around the two places are the same but for the case of letters, up to a dollar sign; what comes behind
that is a certain text each. -/
structure BeforeDollar (r r' : Text) (c d : Cursor) : Prop where
  before : c.before.map Char.toUpper = d.before.map Char.toUpper
  ahead : ∃ u v : Text, c.ahead = u ++ '$' :: r ∧ d.ahead = v ++ '$' :: r' ∧ u.SameLetters v

namespace BeforeDollar

theorem symm (h : BeforeDollar r r' c d) : BeforeDollar r' r d c := by
  obtain ⟨u, v, hu, hv, huv⟩ := h.ahead
  exact ⟨h.before.symm, v, u, hv, hu, huv.symm⟩

theorem head?_any_eq (h : BeforeDollar r r' c d) {q : Char → Bool} (hq : caseBlind q = true) :
    c.ahead.head?.any q = d.ahead.head?.any q := by
  obtain ⟨u, v, hu, hv, huv⟩ := h.ahead
  rw [hu, hv]
  rcases huv.cases_cons with ⟨rfl, rfl⟩ | ⟨a, b, u, v, rfl, rfl, hab, -⟩
  · rfl
  · exact eq_of_caseBlind hq hab

/-- What lies between two places in front of the dollar sign has the same letters. -/
theorem upTo (h : BeforeDollar r r' c d) (hef : BeforeDollar r r' e f) :
    Text.SameLetters (c.upTo e) (d.upTo f) := by
  have hcut {x y : Cursor} {u v r : Text} (hx : x.ahead = u ++ '$' :: r) (hy : y.ahead = v ++ '$' :: r) :
      x.upTo y = u.take (u.length - v.length) := by
    rw [Cursor.upTo, hx, hy, List.length_append, List.length_append, Nat.add_sub_add_right,
      List.take_append_of_le_length (Nat.sub_le _ _)]
  obtain ⟨u, v, hu, hv, huv⟩ := h.ahead
  obtain ⟨u', v', hu', hv', huv'⟩ := hef.ahead
  rw [hcut hu hu', hcut hv hv', huv.length_eq, huv'.length_eq]
  exact huv.take _

end BeforeDollar

theorem beforeDollar_start {w w' : Text} (h : w.SameLetters w') :
    BeforeDollar r r' (start (w ++ '$' :: r)) (start (w' ++ '$' :: r')) :=
  ⟨rfl, w, w', rfl, rfl, h⟩

/-- Searches that do not ask for the dollar sign are in step in front of it. -/
theorem lockstep_beforeDollar :
    Lockstep (BeforeDollar r r') (fun k => k.caseBlind && !k.holds '$') CharClass.caseBlind where
  look h hk := h.head?_any_eq (Bool.and_eq_true_iff.1 hk).1
  lookBack h hk := before_any_eq h.before hk
  atEnd {c d} h := by
    have hnot {s u r : Text} (hs : s = u ++ '$' :: r) : ¬ (s = [] ∨ s = ['\n']) := by
      have hmem : '$' ∈ s := hs ▸ List.mem_append_right u List.mem_cons_self
      rintro (rfl | rfl)
      · cases hmem
      · revert hmem
        decide
    obtain ⟨u, v, hu, hv, -⟩ := h.ahead
    exact iff_of_false (hnot hu) (hnot hv)
  step {c d k} h hk hc := by
    obtain ⟨x, s⟩ := c
    obtain ⟨y, t⟩ := d
    obtain ⟨u, v, rfl, rfl, huv⟩ := h.ahead
    rcases huv.cases_cons with ⟨rfl, rfl⟩ | ⟨a, b, u, v, rfl, rfl, hab, hrest⟩
    · have hdollar : k.holds '$' = true := hc
      rw [hdollar, Bool.not_true, Bool.and_false] at hk
      cases hk
    · exact ⟨congrArg some hab, u, v, rfl, rfl, hrest⟩

end Cursor

/-! ## What comments leave in front of the dollar sign -/

/-- How a statement without comments has come about: nothing begins it that would not count, and if a time zone might
begin it, that ends in front of the dollar sign or not at all. -/
structure Left (w r : Text) : Prop where
  first : ∀ k d, (start (w ++ '$' :: r)).next? = some (k, d) → k ≠ .blank ∧ k ≠ .comment
  zone : ∀ m v c d, w = m ++ v → Rule.zoneOpening.Leads c d → c.Passes m d → '\'' ∉ v → '\'' ∉ r

variable {w w' r r' : Text} {c d : Cursor}

theorem Rule.exists_leads_divide (h : BeforeDollar r r' c d) (hc : ∃ e, divide.pattern.Leads c e) :
    ∃ f, divide.pattern.Leads d f := by
  obtain ⟨e, _, hletters, rfl, hnot⟩ := hc
  obtain ⟨f, hf, hef⟩ := lockstep_beforeDollar.exists_leads (by decide) h hletters
  have hsame : (∃ x, (one wordPart).Leads e x) ↔ ∃ x, (one wordPart).Leads f x := by
    rw [exists_leads_one_iff, exists_leads_one_iff, hef.head?_any_eq (by decide)]
  refine ⟨f, f, hf, rfl, fun x hx => ?_⟩
  obtain ⟨y, hy⟩ := hsame.2 ⟨x, hx⟩
  exact hnot y hy

theorem Rule.exists_leads_timeZone (h : w.SameLetters w') (hw : Left w r)
    (hc : ∃ e, timeZone.pattern.Leads (start (w ++ '$' :: r)) e) :
    ∃ f, timeZone.pattern.Leads (start (w' ++ '$' :: r')) f := by
  obtain ⟨x, hopening, hfirst, hlater⟩ := exists_leads_timeZone_iff.1 hc
  have hstart : BeforeDollar r r' (start (w ++ '$' :: r)) (start (w' ++ '$' :: r')) := beforeDollar_start h
  obtain ⟨y, hopening', hxy⟩ := lockstep_beforeDollar.exists_leads (by decide) hstart hopening
  refine exists_leads_timeZone_iff.2 ⟨y, hopening', ?_, ?_⟩
  · intro hy
    have hsame : x.ahead.head?.any (· == '\'') = y.ahead.head?.any (· == '\'') := hxy.head?_any_eq (by decide)
    have hx : x.ahead.head?.any (· == '\'') = true := by rw [hsame, hy, Option.any_some, beq_self_eq_true]
    obtain ⟨a, ha, hquote⟩ := (Option.any_eq_true _ _).1 hx
    exact hfirst (by rw [ha, beq_iff_eq.1 hquote])
  · obtain ⟨m, hm⟩ := exists_passes_of_leads hopening
    obtain ⟨u, v, hu, hv, huv⟩ := hxy.ahead
    have hsplit : w = m ++ u := by
      have hahead := hm.1
      rw [hu, ← List.append_assoc] at hahead
      exact List.append_cancel_right hahead
    by_cases hmem : '\'' ∈ u
    · rw [hv]
      exact List.mem_append_left _ (huv.mem (by decide) hmem)
    · rw [hu, List.mem_append, List.mem_cons] at hlater
      exact absurd ((hlater.resolve_left hmem).resolve_left (by decide)) (hw.zone m u _ _ hsplit hopening hm hmem)

/-! ## The first word -/

/-- The lexemes that end at the two places are the same single word but for the case of letters, or none is one. -/
def SameWord (c d : Cursor) (x y : LexemeKind × Cursor) : Prop :=
  (Lexeme.word ⟨x.1, c.upTo x.2⟩).SameLetters (Lexeme.word ⟨y.1, d.upTo y.2⟩)

/-- Where a rule makes no single word at either place, it is enough that it fits at both or at none. -/
theorem rel_sameWord_of_nil {rule : Rule} (hfits : (∃ e, rule.pattern.Leads c e) ↔ ∃ f, rule.pattern.Leads d f)
    (hc : ∀ e, rule.pattern.Leads c e → Lexeme.word ⟨rule.kind, c.upTo e⟩ = [])
    (hd : ∀ f, rule.pattern.Leads d f → Lexeme.word ⟨rule.kind, d.upTo f⟩ = []) :
    Option.Rel (SameWord c d) ((rule.pattern.end? c).map (rule.kind, ·))
      ((rule.pattern.end? d).map (rule.kind, ·)) := by
  cases he : rule.pattern.end? c with
  | none =>
    have hnone (f : Cursor) : ¬ rule.pattern.Leads d f := fun hf => by
      obtain ⟨e, he'⟩ := hfits.2 ⟨f, hf⟩
      rw [end?_eq_none_iff] at he
      exact he e he'
    rw [end?_eq_none_iff.2 hnone]
    exact .none
  | some e =>
    obtain ⟨f, hf⟩ := hfits.1 ⟨e, leads_of_end? he⟩
    obtain ⟨g, hg⟩ := exists_end?_of_leads hf
    rw [hg]
    refine .some ?_
    rw [SameWord, hc e (leads_of_end? he), hd g (leads_of_end? hg)]
    exact .nil

theorem Lexeme.word_eq_nil {l : Lexeme} (h : l.kind = .other ∨ ∃ a ∈ l.text, isWordChar a = false) : l.word = [] := by
  refine if_neg fun hword => ?_
  obtain ⟨hkind, hall⟩ := Bool.and_eq_true_iff.1 hword
  rcases h with hother | ⟨a, ha, hnot⟩
  · rw [hother] at hkind
    cases hkind
  · rw [List.all_eq_true.1 hall a ha] at hnot
    cases hnot

/-- A time zone is no single word. -/
theorem Rule.word_timeZone {e : Cursor} (h : timeZone.pattern.Leads c e) :
    Lexeme.word ⟨timeZone.kind, c.upTo e⟩ = [] := by
  obtain ⟨m, u, -, hpass⟩ := exists_of_leads_timeZone h
  exact Lexeme.word_eq_nil (.inr ⟨'\'', by rw [hpass.upTo_eq]; simp, by decide⟩)

/-- What a word may go on with is no single word any more where it goes beyond the dollar sign. -/
theorem sameLetters_word_takeWhile (h : w.SameLetters w') :
    Text.SameLetters (Lexeme.word ⟨.name, (w ++ '$' :: r).takeWhile Rule.wordPart.holds⟩)
      (Lexeme.word ⟨.name, (w' ++ '$' :: r').takeWhile Rule.wordPart.holds⟩) := by
  have hparts : caseBlind Rule.wordPart.holds = true := by decide
  have hbeyond {u r : Text} (hu : u.all Rule.wordPart.holds = true) :
      Lexeme.word ⟨.name, (u ++ '$' :: r).takeWhile Rule.wordPart.holds⟩ = [] := by
    refine Lexeme.word_eq_nil (.inr ⟨'$', ?_, by decide⟩)
    rw [List.takeWhile_append_of_pos (List.all_eq_true.1 hu), List.takeWhile_cons_of_pos (by decide)]
    exact List.mem_append_right u List.mem_cons_self
  have hwithin {u r : Text} (hu : ¬ u.all Rule.wordPart.holds = true) :
      (u ++ '$' :: r).takeWhile Rule.wordPart.holds = u.takeWhile Rule.wordPart.holds := by
    rw [List.takeWhile_append, if_neg]
    intro hlength
    have hself := (List.takeWhile_prefix Rule.wordPart.holds).eq_of_length hlength
    exact hu (List.all_eq_true.2 (List.takeWhile_eq_self_iff.1 hself))
  by_cases hall : w.all Rule.wordPart.holds = true
  · rw [hbeyond hall, hbeyond (h.all_eq hparts ▸ hall)]
    exact .nil
  · rw [hwithin hall, hwithin (h.all_eq hparts ▸ hall)]
    have hlexeme : Lexeme.SameLetters ⟨.name, w.takeWhile Rule.wordPart.holds⟩
        ⟨.name, w'.takeWhile Rule.wordPart.holds⟩ := ⟨rfl, h.takeWhile hparts⟩
    exact hlexeme.word

/-- Each rule makes the same single word of both texts, or of neither. -/
theorem rel_sameWord (h : w.SameLetters w') (hw : Left w r) (hw' : Left w' r')
    (hc : (w ++ '$' :: r).head?.any isWordChar = true) {rule : Rule} (hrule : rule ∈ Rule.all) :
    Option.Rel (SameWord (start (w ++ '$' :: r)) (start (w' ++ '$' :: r')))
      ((rule.pattern.end? (start (w ++ '$' :: r))).map (rule.kind, ·))
      ((rule.pattern.end? (start (w' ++ '$' :: r'))).map (rule.kind, ·)) := by
  have hstart : BeforeDollar r r' (start (w ++ '$' :: r)) (start (w' ++ '$' :: r')) := beforeDollar_start h
  have hd : (w' ++ '$' :: r').head?.any isWordChar = true := (hstart.head?_any_eq (by decide)).symm.trans hc
  rcases Rule.dollar_of_mem_all rule hrule with hbegins | hasks | rfl | rfl | rfl
  · -- the rule does not fit where a word goes on
    have hnone {c : Cursor} (hc : c.ahead.head?.any isWordChar = true) (e : Cursor) : ¬ rule.pattern.Leads c e :=
      not_leads_of_isWordChar hbegins (Rule.consumes_of_mem_all rule hrule) hc
    exact rel_sameWord_of_nil (iff_of_false (fun ⟨e, he⟩ => hnone hc e he) fun ⟨f, hf⟩ => hnone hd f hf)
      (fun e he => absurd he (hnone hc e)) fun f hf => absurd hf (hnone hd f)
  · have hboth := asksOnly_and (Rule.asksOnly_caseBlind rule hrule) hasks
    refine rel_map (lockstep_beforeDollar.rel_end? hboth hstart) fun e f hef => ?_
    have hlexeme : Lexeme.SameLetters ⟨rule.kind, (start (w ++ '$' :: r)).upTo e⟩
        ⟨rule.kind, (start (w' ++ '$' :: r')).upTo f⟩ := ⟨rfl, hstart.upTo hef⟩
    exact hlexeme.word
  · -- the rule for words goes on over the dollar sign, but what it takes there is no word
    obtain ⟨e, he, hpass⟩ := Rule.exists_end?_word (c := start (w ++ '$' :: r)) hc
    obtain ⟨f, hf, hpass'⟩ := Rule.exists_end?_word (c := start (w' ++ '$' :: r')) hd
    rw [he, hf]
    refine .some ?_
    rw [SameWord, hpass.upTo_eq, hpass'.upTo_eq]
    exact sameLetters_word_takeWhile h
  · exact rel_sameWord_of_nil ⟨Rule.exists_leads_divide hstart, Rule.exists_leads_divide hstart.symm⟩
      (fun _ _ => Lexeme.word_eq_nil (.inl rfl)) fun _ _ => Lexeme.word_eq_nil (.inl rfl)
  · exact rel_sameWord_of_nil ⟨Rule.exists_leads_timeZone h hw, Rule.exists_leads_timeZone h.symm hw'⟩
      (fun _ => Rule.word_timeZone) fun _ => Rule.word_timeZone

namespace Left

theorem firstWord_eq_nil (hw : Left w r) (hhead : (w ++ '$' :: r).head?.any isWordChar = false) :
    firstWord (start (w ++ '$' :: r)).lexemes = [] := by
  obtain ⟨a, s, hs⟩ := List.exists_cons_of_ne_nil (show w ++ '$' :: r ≠ [] by simp)
  rw [hs] at hhead
  exact firstWord_lexemes_eq_nil hs hhead hw.first

/-- Where a word character comes first, a rule decides what the first word is. -/
theorem firstWord_eq_word (hw : Left w r) (hhead : (w ++ '$' :: r).head?.any isWordChar = true) :
    ∃ x, (start (w ++ '$' :: r)).byRule? = some x ∧
      firstWord (start (w ++ '$' :: r)).lexemes = Lexeme.word ⟨x.1, (start (w ++ '$' :: r)).upTo x.2⟩ := by
  obtain ⟨f, hf, -⟩ := Rule.exists_end?_word (c := start (w ++ '$' :: r)) hhead
  obtain ⟨k, d, hrule, -⟩ : ∃ k d, (start (w ++ '$' :: r)).byRule? = some (k, d) ∧ True :=
    exists_byRule? (P := fun _ _ => True) Rule.word_mem_all (fun _ _ _ _ => trivial) ⟨f, hf, trivial⟩
  have hspan : (start (w ++ '$' :: r)).span? = none :=
    span?_eq_none (fun _ => not_leads_of_isWordChar (by decide) rfl hhead)
      fun _ => not_leads_of_isWordChar (by decide) rfl hhead
  have hnext := next?_of_byRule? (show w ++ '$' :: r ≠ [] by simp) hspan hrule
  obtain ⟨hblank, hcomment⟩ := hw.first k d hnext
  refine ⟨(k, d), hrule, ?_⟩
  rw [lexemes_eq_cons hnext, firstWord_cons, if_neg (by simp [Lexeme.isFiller, hblank, hcomment])]

end Left

/-- Statements that are alike up to the dollar sign begin with the same word but for the case of letters. -/
theorem sameLetters_firstWord_of_left (h : w.SameLetters w') (hw : Left w r) (hw' : Left w' r') :
    (leadingWord (w ++ '$' :: r)).SameLetters (leadingWord (w' ++ '$' :: r')) := by
  have hstart : BeforeDollar r r' (start (w ++ '$' :: r)) (start (w' ++ '$' :: r')) := beforeDollar_start h
  have hhead : (w ++ '$' :: r).head?.any isWordChar = (w' ++ '$' :: r').head?.any isWordChar :=
    hstart.head?_any_eq (by decide)
  rw [leadingWord_eq, leadingWord_eq, lexemes, lexemes]
  cases hc : (w ++ '$' :: r).head?.any isWordChar with
  | false =>
    rw [hw.firstWord_eq_nil hc, hw'.firstWord_eq_nil (hhead ▸ hc)]
    exact .nil
  | true =>
    obtain ⟨x, hx, hword⟩ := hw.firstWord_eq_word hc
    obtain ⟨y, hy, hword'⟩ := hw'.firstWord_eq_word (hhead ▸ hc)
    have hrel : Option.Rel _ (start (w ++ '$' :: r)).byRule? (start (w' ++ '$' :: r')).byRule? :=
      rel_findSome? fun rule hrule => rel_sameWord h hw hw' hc hrule
    rw [hx, hy] at hrel
    rw [hword, hword']
    cases hrel with
    | some hxy => exact hxy

/-! ## Taking comments out -/

section

variable {s u : Text} {e : Cursor} {k : LexemeKind} {ls : List Lexeme}

/-- If a statement begins with something that counts and has a dollar sign further on, what comments leave in front of
that is in front of the dollar sign again. -/
theorem exists_left (hnext : (start s).next? = some (k, d)) (hk : k ≠ .blank ∧ k ≠ .comment)
    (hcuts : (start s).Cuts ls e) (he : e.ahead = '$' :: u) :
    ∃ r, (start s).stripped = ls.flatMap Lexeme.withoutComment ++ '$' :: r ∧
      Left (ls.flatMap Lexeme.withoutComment) r := by
  obtain ⟨k', f, hnext'⟩ := exists_next? (c := e) (by rw [he]; exact List.cons_ne_nil _ _)
  obtain ⟨v, hv⟩ := exists_left_of_next? hnext' (not_filler_of_dollar he hnext').2 he
  have hleft : (start s).lexemes.flatMap Lexeme.withoutComment =
      ls.flatMap Lexeme.withoutComment ++ '$' :: v := by
    rw [hcuts.lexemes_eq, List.flatMap_append, hv]
  have hfirst : ∀ b ∈ (ls.flatMap Lexeme.withoutComment ++ ['$']).head?, isBlank b = false := by
    obtain ⟨a, x, hs⟩ := exists_cons_of_next? hnext
    obtain ⟨y, hy⟩ := exists_left_of_next? hnext hk.2 hs
    have hhead : (ls.flatMap Lexeme.withoutComment ++ '$' :: v).head? = some a := by
      rw [← hleft, hy, List.head?_cons]
    rw [List.append_cons, List.head?_append_of_ne_nil _ (by simp)] at hhead
    intro b hb
    rw [hhead] at hb
    rw [← Option.some.inj hb]
    exact isBlank_eq_false_of_next? hnext hk.1 hs
  obtain ⟨r, hstripped, hr⟩ := Text.trim_append_cons hfirst (by decide) v
  rw [← hleft] at hstripped
  refine ⟨r, hstripped, ?_, ?_⟩
  · intro k' d' hnext''
    refine kind_of_prefix_withoutComment hnext hk ?_ hnext''
    rw [hleft]
    exact (List.prefix_append_right_inj _).2 (List.cons_prefix_cons.2 ⟨rfl, hr⟩)
  · intro m y x z hsplit hopening hpass hy hmem
    refine apostrophe_notMem_of_zoneOpening hcuts hsplit hopening hpass hy ?_ ?_
    · rw [he, List.head?_cons]
      decide
    · have hblanked := e.blanked_lexemes
      rw [hv] at hblanked
      exact hblanked.mem (by decide) (List.mem_cons_of_mem _ (hr.subset hmem))

/-- What is left of statements with the same letters when comments are taken out begins with the same word but for
the case of letters, whatever dollar quoted texts there are. -/
theorem leadingWord_stripped_sameLetters {s t : Text} (h : s.SameLetters t) :
    (leadingWord (start s).stripped).SameLetters (leadingWord (start t).stripped) := by
  have hstart : (start s).SameLetters (start t) := ⟨rfl, h⟩
  rcases hstart.lexemes_cases with hall | ⟨ls, ms, n, hlexemes, hls, hms, hdiffer⟩
  · exact leadingWord_sameLetters (sameLetters_flatMap_withoutComment hall).trim
  obtain ⟨⟨u, hu⟩, v, hv⟩ := (hstart.skip n).exists_dollar hdiffer
  obtain ⟨e, hcuts, he⟩ := exists_cuts_ahead_eq hls
  obtain ⟨f, hcuts', hf⟩ := exists_cuts_ahead_eq hms
  obtain ⟨k, d, hnext⟩ := exists_next? (c := start s) (by rw [hcuts.passes.1, he, hu]; simp)
  by_cases hk : k = .blank ∨ k = .comment
  · -- nothing changes if the first lexeme is taken away from both
    obtain ⟨d', hnext', hdd'⟩ := hstart.exists_next?_of_isFiller hnext hk
    have : d.ahead.length < s.length := length_next?_lt hnext
    rw [stripped_of_isFiller hnext hk, stripped_of_isFiller hnext' hk]
    exact leadingWord_stripped_sameLetters hdd'.ahead
  · -- both begin with something that counts, and what is left of them is alike up to the dollar sign
    obtain ⟨k', d', hnext'⟩ := exists_next? (c := start t) (by rw [hcuts'.passes.1, hf, hv]; simp)
    have hk' : ¬ (k' = .blank ∨ k' = .comment) := fun hk' => by
      obtain ⟨d'', hsame, -⟩ := hstart.symm.exists_next?_of_isFiller hnext' hk'
      exact hk ((next?_unique hsame hnext).1 ▸ hk')
    obtain ⟨r, hr, hleft⟩ := exists_left hnext (not_or.1 hk) hcuts (he.trans hu)
    obtain ⟨r', hr', hleft'⟩ := exists_left hnext' (not_or.1 hk') hcuts' (hf.trans hv)
    rw [hr, hr']
    exact sameLetters_firstWord_of_left (sameLetters_flatMap_withoutComment hlexemes) hleft hleft'
termination_by s.length

end

end SqlDialects
