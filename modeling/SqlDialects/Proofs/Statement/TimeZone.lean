/-
The one rule that begins with a word and goes on to an apostrophe, the rule for time zones, and what it means for
apostrophes in a statement. Where another apostrophe comes further on, a lexeme with an apostrophe behind nothing but
words and blanks is closed by a second one (`Cursor.exists_closing_apostrophe`). So no statement in front of which
comments have been taken out ends within a time zone in one place and within another piece in another
(`apostrophe_notMem_of_zoneOpening`).
-/
import SqlDialects.Proofs.Statement.Cut
import SqlDialects.Proofs.Statement.Quoted

namespace SqlDialects

open Cursor Pattern

/-! ## Words and blanks -/

/-- Characters of words and blanks, one blank among them. -/
structure Text.IsSpacedWords (s : Text) : Prop where
  hasBlank : ∃ a ∈ s, Character.isBlank a = true
  chars : ∀ a ∈ s, Character.isWordChar a = true ∨ Character.isBlank a = true

theorem apostrophe_notMem {s : Text} (hs : ∀ a ∈ s, Character.isWordChar a = true ∨ Character.isBlank a = true) :
    '\'' ∉ s := by
  intro h
  rcases hs _ h with hword | hblank
  · revert hword
    decide
  · revert hblank
    decide

theorem Text.IsSpacedWords.chars_append {s t : Text} (h : t.IsSpacedWords)
    (hs : ∀ a ∈ s, Character.isWordChar a = true) :
    ∀ a ∈ s ++ t, Character.isWordChar a = true ∨ Character.isBlank a = true :=
  List.forall_mem_append.2 ⟨fun a ha => .inl (hs a ha), h.chars⟩

theorem Text.IsSpacedWords.not_isWordChar {s : Text} (h : s.IsSpacedWords) :
    ¬ ∀ a ∈ s, Character.isWordChar a = true := by
  intro hall
  obtain ⟨a, ha, hblank⟩ := h.hasBlank
  have hword := hall a ha
  rw [Character.isWordChar_of_isBlank hblank] at hword
  cases hword

/-- Where the first of the characters stands. -/
theorem eq_or_exists_of_first {α : Type} {a : α} {p q m w : List α} (h : p ++ a :: q = m ++ a :: w) (hp : a ∉ p) :
    (m = p ∧ q = w) ∨ ∃ x, m = p ++ a :: x ∧ q = x ++ a :: w := by
  rcases cases_of_append_eq_append_cons h with ⟨x, rfl, hx⟩ | ⟨x, rfl, -⟩
  · cases x with
    | nil => exact .inl ⟨List.append_nil p, (List.cons_eq_cons.1 hx).2⟩
    | cons b x =>
      obtain ⟨rfl, rfl⟩ := List.cons_eq_cons.1 hx
      exact .inr ⟨x, rfl, rfl⟩
  · exact absurd (List.mem_append_right m List.mem_cons_self) hp

theorem eq_of_first {α : Type} {a : α} {p q m w : List α} (h : p ++ a :: q = m ++ a :: w) (hp : a ∉ p) (hm : a ∉ m) :
    p = m ∧ q = w := by
  rcases eq_or_exists_of_first h hp with ⟨rfl, rfl⟩ | ⟨x, rfl, -⟩
  · exact ⟨rfl, rfl⟩
  · exact absurd (List.mem_append_right p List.mem_cons_self) hm

/-- Behind a stretch without the character, the first part that has one goes up to it. -/
theorem exists_of_mem_first {α : Type} {a : α} {g q v w : List α} (h : g ++ a :: v = q ++ w) (hq : a ∈ q)
    (hg : a ∉ g) : ∃ z, q = g ++ a :: z ∧ v = z ++ w := by
  rcases cases_of_append_eq_append_cons h.symm with ⟨x, rfl, -⟩ | hz
  · exact absurd (List.mem_append_left x hq) hg
  · exact hz

theorem eq_nil_of_last {α : Type} {a : α} {g z u : List α} (h : g ++ a :: z = u ++ [a]) (hz : a ∉ z) : z = [] := by
  rcases List.eq_nil_or_concat' z with rfl | ⟨z, b, rfl⟩
  · rfl
  · have hlast := congrArg List.getLast? h
    obtain rfl : b = a := by simpa [List.getLast?_append, List.getLast?_cons] using hlast
    exact absurd (List.mem_append_right z (List.mem_singleton.2 rfl)) hz

namespace CharClass

/-- Whether the class has only letters of words. -/
def insideWords : CharClass → Bool
  | letter d => (d :: d.toLower :: lookAlikes d).all Character.isWordChar
  | _ => false

theorem isWordChar_of_insideWords {k : CharClass} (hk : k.insideWords = true) {a : Char} (ha : k.holds a = true) :
    Character.isWordChar a = true := by
  cases k with
  | letter d =>
    simp only [holds, Bool.or_eq_true, beq_iff_eq, List.contains_iff_mem] at ha
    refine List.all_eq_true.1 hk a ?_
    rcases ha with (rfl | rfl) | ha
    · exact List.mem_cons_self
    · exact List.mem_cons_of_mem _ List.mem_cons_self
    · exact List.mem_cons_of_mem _ (List.mem_cons_of_mem _ ha)
  | exactly | oneOf | noneOf | wordChar | decimalDigit | blank | nameStart | either => cases hk

end CharClass

/-! ## The rule -/

namespace Rule

/-- The words in front of a time zone, up to its opening apostrophe. -/
def zoneOpening : Pattern := ("AT" <|> "WITH'") ++ blanks ++ "TIME" ++ blanks ++ "ZONE" ++ blanks ++ "'"

def timeZone : Rule := ⟨.keyword, zoneOpening ++ several (one (.noneOf ['\''])) ++ "'"⟩

theorem timeZone_mem_all : timeZone ∈ all := by decide

/-- What the text in front of a time zone looks like, with its opening apostrophe. -/
inductive IsZoneOpening : Text → Prop
  | ofAt {h g : Text} (hword : ∀ a ∈ h, Character.isWordChar a = true) (hspaced : g.IsSpacedWords) :
      IsZoneOpening (h ++ (g ++ ['\'']))
  | ofWith {h g : Text} {e : Cursor} (hword : ∀ a ∈ h, Character.isWordChar a = true) (hspaced : g.IsSpacedWords)
      (hwith : (text "WITH'").Leads (start (h ++ ['\''])) e) (hpass : (start (h ++ ['\''])).Passes (h ++ ['\'']) e) :
      IsZoneOpening (h ++ '\'' :: (g ++ ['\'']))

variable {c d : Cursor} {m u p q g v y : Text}

theorem exists_isZoneOpening (h : zoneOpening.Leads c d) : ∃ m, IsZoneOpening m ∧ c.Passes m d := by
  obtain ⟨z, ⟨y₅, ⟨y₄, ⟨y₃, ⟨y₂, ⟨y₁, hfirst, hblanks⟩, htime⟩, hblanks'⟩, hzone⟩, hblanks''⟩, hquote⟩ := h
  have hquote := (leads_iff_passes (u := ['\'']) (by decide)).1 hquote
  -- what stands behind the first word
  obtain ⟨g, hspaced, hg⟩ : ∃ g : Text, g.IsSpacedWords ∧ y₁.Passes g z := by
    obtain ⟨b, hne, hb, hpb⟩ := leads_several_one_iff.1 hblanks
    have hmore : (text "TIME" ++ blanks ++ "ZONE" ++ blanks).Leads y₂ z :=
      ⟨y₅, ⟨y₄, ⟨y₃, htime, hblanks'⟩, hzone⟩, hblanks''⟩
    have hasks : (text "TIME" ++ blanks ++ "ZONE" ++ blanks).asksOnly (fun k => k.insideWords || k == .blank)
        (fun _ => true) = true := by decide
    have hchars (k : CharClass) (a : Char) (hk : (k.insideWords || k == .blank) = true) (ha : k.holds a = true) :
        Character.isWordChar a = true ∨ Character.isBlank a = true := by
      rcases Bool.or_eq_true_iff.1 hk with hk | hk
      · exact .inl (CharClass.isWordChar_of_insideWords hk ha)
      · rw [beq_iff_eq.1 hk] at ha
        exact .inr ha
    obtain ⟨w, hpw, hw⟩ := exists_passes_of_asksOnly hchars hasks hmore
    obtain ⟨a, b, rfl⟩ := List.exists_cons_of_ne_nil hne
    refine ⟨a :: b ++ w, ⟨⟨a, by simp, hb a List.mem_cons_self⟩, ?_⟩, hpb.append hpw⟩
    exact List.forall_mem_append.2 ⟨fun x hx => .inr (hb x hx), hw⟩
  have hletters {p : Pattern} {e : Cursor} (hp : p.asksOnly CharClass.insideWords (fun _ => true) = true)
      (h : p.Leads c e) : ∃ w, c.Passes w e ∧ ∀ a ∈ w, Character.isWordChar a = true :=
    exists_passes_of_asksOnly (fun _ _ hk ha => CharClass.isWordChar_of_insideWords hk ha) hp h
  rcases hfirst with hat | hwith
  · obtain ⟨w, hpw, hw⟩ := hletters (by decide) hat
    exact ⟨_, .ofAt hw hspaced, hpw.append (hg.append hquote)⟩
  · obtain ⟨f, hword, hmark⟩ : ∃ f, (text "WITH").Leads c f ∧ f.Passes ['\''] y₁ := by
      obtain ⟨e₁, hw, e₂, hi, e₃, ht, e₄, hh, e₅, hq, rfl⟩ := hwith
      exact ⟨e₄, ⟨e₁, hw, e₂, hi, e₃, ht, e₄, hh, rfl⟩, leads_exactly_iff.1 hq⟩
    obtain ⟨w, hpw, hw⟩ := hletters (by decide) hword
    have hself : (start (w ++ ['\''])).Passes (w ++ ['\'']) _ := passes_skip (List.append_nil _).symm
    refine ⟨_, .ofWith hw hspaced (leads_of_passes (by decide) hwith (hpw.append hmark) hself) hself, ?_⟩
    have hpass := (hpw.append hmark).append (hg.append hquote)
    rwa [List.append_assoc] at hpass

theorem exists_of_leads_timeZone (h : timeZone.pattern.Leads c d) :
    ∃ m u, IsZoneOpening m ∧ c.Passes (m ++ (u ++ ['\''])) d := by
  obtain ⟨f, ⟨e, hopening, hzone⟩, hclosing⟩ := h
  obtain ⟨m, hm, hpass⟩ := exists_isZoneOpening hopening
  obtain ⟨u, -, -, hpass'⟩ := leads_several_one_iff.1 hzone
  have hclosing := (leads_iff_passes (u := ['\'']) (by decide)).1 hclosing
  exact ⟨m, u, hm, hpass.append (hpass'.append hclosing)⟩

/-- Behind the first apostrophe of a time zone there is another one. -/
theorem IsZoneOpening.apostrophe_mem (hm : IsZoneOpening m) (h : m ++ (u ++ ['\'']) = p ++ '\'' :: q) (hp : '\'' ∉ p) :
    '\'' ∈ q := by
  cases hm with
  | @ofAt w g hword hspaced =>
    have hfree : '\'' ∉ w ++ g := apostrophe_notMem (hspaced.chars_append hword)
    have hsame : (w ++ g) ++ '\'' :: (u ++ ['\'']) = p ++ '\'' :: q := by simpa using h
    rw [← (eq_of_first hsame hfree hp).2]
    simp
  | @ofWith w g e hword hspaced hwith hpass =>
    have hfree : '\'' ∉ w := apostrophe_notMem fun a ha => .inl (hword a ha)
    have hsame : w ++ '\'' :: (g ++ '\'' :: (u ++ ['\''])) = p ++ '\'' :: q := by simpa using h
    rw [← (eq_of_first hsame hfree hp).2]
    simp

/-- Behind a word, an apostrophe and another one, there is a third in a time zone. -/
theorem IsZoneOpening.apostrophe_mem_of_word (hm : IsZoneOpening m)
    (h : m ++ (u ++ ['\'']) ++ y = p ++ '\'' :: (g ++ '\'' :: v)) (hp : ∀ a ∈ p, Character.isWordChar a = true)
    (hg : '\'' ∉ g) : '\'' ∈ v := by
  have hfree : '\'' ∉ p := apostrophe_notMem fun a ha => .inl (hp a ha)
  cases hm with
  | @ofAt w k hword hspaced =>
    -- there would be a blank in the word
    have hfree' : '\'' ∉ w ++ k := apostrophe_notMem (hspaced.chars_append hword)
    have hsame : (w ++ k) ++ '\'' :: (u ++ '\'' :: y) = p ++ '\'' :: (g ++ '\'' :: v) := by simpa using h
    rw [← (eq_of_first hsame hfree' hfree).1] at hp
    exact absurd (fun a ha => hp a (List.mem_append_right w ha)) hspaced.not_isWordChar
  | @ofWith w k e hword hspaced hwith hpass =>
    have hfree' : '\'' ∉ w := apostrophe_notMem fun a ha => .inl (hword a ha)
    have hsame : w ++ '\'' :: (k ++ '\'' :: (u ++ '\'' :: y)) = p ++ '\'' :: (g ++ '\'' :: v) := by simpa using h
    have hbehind := (eq_of_first hsame hfree' hfree).2
    rw [← (eq_of_first hbehind (apostrophe_notMem hspaced.chars) hg).2]
    simp

/-- A rule that fits a word begins outside of words, takes no apostrophe, or is the one for time zones. -/
theorem apostrophe_of_mem_all : ∀ r ∈ all, r.pattern.beginsOutsideWord = true ∨
    r.pattern.asksOnly (fun k => !k.holds '\'') (fun _ => true) = true ∨ r = timeZone := by
  decide +kernel

theorem leads_betweenEscaped (h : (betweenEscaped '\'').Leads c d) : ∃ u, c.Passes ('\'' :: (u ++ ['\''])) d := by
  obtain ⟨f, ⟨e, hopening, hinside⟩, hclosing⟩ := h
  obtain ⟨u, hu⟩ := exists_passes_of_leads hinside
  exact ⟨u, (leads_exactly_iff.1 hopening).append (hu.append (leads_exactly_iff.1 hclosing))⟩

/-- A literal between apostrophes is closed if another apostrophe comes. -/
theorem exists_end?_betweenEscaped_of_mem {x : Option Char} (h : '\'' ∈ u) :
    ∃ d, (betweenEscaped '\'').end? ⟨x, '\'' :: u⟩ = some d := by
  obtain ⟨s, t, rfl, hs⟩ := List.eq_append_cons_of_mem h
  have hinside {e f : Cursor} (hpass : e.Passes s f) : (many (escapedStep '\'')).Leads e f := by
    have hchars : ∀ a ∈ s, (CharClass.noneOf ['\'']).holds a = true := fun a ha => by
      simpa [CharClass.holds] using ne_of_mem_of_not_mem ha hs
    have hone : (many (one (.noneOf ['\'']))).Leads e f := leads_many_one_iff.2 ⟨s, hchars, hpass⟩
    unfold Leads at hone ⊢
    exact Relation.ReflTransGen.mono (fun _ _ hstep => .inr (.inr hstep)) _ _ hone
  have hpass := passes_skip (c := ⟨x, '\'' :: (s ++ '\'' :: t)⟩) (u := ['\''] ++ s ++ ['\'']) (v := t) (by simp)
  obtain ⟨f, hpass, hclosing⟩ := passes_append_iff.1 hpass
  obtain ⟨e, hopening, hpass⟩ := passes_append_iff.1 hpass
  exact exists_end?_of_leads
    ⟨f, ⟨e, leads_exactly_iff.2 hopening, hinside hpass⟩, leads_exactly_iff.2 hclosing⟩

end Rule

/-! ## Lexemes with apostrophes -/

namespace Cursor

variable {c d e : Cursor} {k : LexemeKind} {a : Char} {s p q : Text} {ls : List Lexeme}

/-- A lexeme that begins with a word and has an apostrophe is a time zone. -/
theorem exists_isZoneOpening_of_next? (hnext : c.next? = some (k, d)) (hc : c.ahead = a :: s)
    (hword : Character.isWordChar a = true) (hmem : '\'' ∈ c.upTo d) :
    ∃ m u, Rule.IsZoneOpening m ∧ c.upTo d = m ++ (u ++ ['\'']) := by
  have houtside {p : Pattern} {e : Cursor} (hp : p.beginsOutsideWord = true) (hconsumes : p.consumes = true) :
      ¬ p.Leads c e :=
    not_leads_of_isWordChar hp hconsumes (by rwa [hc, List.head?_cons, Option.any_some])
  rcases next?_cases hnext with hspan | ⟨-, ⟨r, hr, -, hd⟩ | ⟨-, -, hd⟩⟩
  · rw [span?_eq_none (fun e => houtside (by decide) rfl) fun e => houtside (by decide) rfl] at hspan
    cases hspan
  · have hlead := leads_of_end? hd
    rcases Rule.apostrophe_of_mem_all r hr with hbegins | hfree | rfl
    · exact absurd hlead (houtside hbegins (Rule.consumes_of_mem_all r hr))
    · have hchars (k : CharClass) (b : Char) (hk : (!k.holds '\'') = true) (hb : k.holds b = true) : b ≠ '\'' := by
        rintro rfl
        simp [hb] at hk
      obtain ⟨u, hu, hnone⟩ := exists_passes_of_asksOnly hchars hfree hlead
      rw [hu.upTo_eq] at hmem
      exact absurd rfl (hnone _ hmem)
    · obtain ⟨m, u, hm, hu⟩ := Rule.exists_of_leads_timeZone hlead
      exact ⟨m, u, hm, hu.upTo_eq⟩
  · have hone : c.Passes [a] d := hd ▸ passes_skip hc
    rw [hone.upTo_eq, List.mem_singleton] at hmem
    exact absurd (hmem ▸ hword) (by decide)

/-- A blank has no apostrophe. -/
theorem apostrophe_notMem_upTo_of_blank (hnext : c.next? = some (k, d)) (hc : c.ahead = a :: s)
    (hblank : Character.isBlank a = true) : '\'' ∉ c.upTo d := by
  obtain ⟨x, _⟩ := c
  obtain rfl := hc
  obtain ⟨u, e, he, hu, hshort⟩ := next?_blank (x := x) (s := s) hblank
  obtain ⟨rfl, rfl⟩ := next?_unique he hnext
  rw [hu.upTo_eq]
  rcases hshort with rfl | rfl
  · exact fun hmem => absurd (List.mem_singleton.1 hmem ▸ hblank) (by decide)
  · decide

/-- Where another apostrophe comes further on, a lexeme with an apostrophe behind nothing but words and blanks is
closed by an apostrophe: it is a literal or a time zone. -/
theorem exists_closing_apostrophe (hnext : c.next? = some (k, d)) (hupTo : c.upTo d = p ++ '\'' :: q)
    (hp : ∀ a ∈ p, Character.isWordChar a = true ∨ Character.isBlank a = true) (hlater : '\'' ∈ d.ahead) :
    (p = [] ∧ ∃ u, q = u ++ ['\'']) ∨ ∃ m u, Rule.IsZoneOpening m ∧ c.upTo d = m ++ (u ++ ['\'']) := by
  have hpass := exists_passes_of_next? hnext
  rw [hupTo] at hpass
  obtain ⟨x, s⟩ := c
  obtain ⟨t, ht⟩ : ∃ t, q ++ d.ahead = t := ⟨_, rfl⟩
  obtain rfl : s = p ++ '\'' :: t := by
    rw [← ht]
    simpa using hpass.1
  cases p with
  | nil =>
    have hlater' : '\'' ∈ t := ht ▸ List.mem_append_right q hlater
    obtain ⟨e, he⟩ := Rule.exists_end?_betweenEscaped_of_mem (x := x) hlater'
    have hquoting : ('\'', ⟨.other, Rule.betweenEscaped '\''⟩) ∈ Rule.quoting := by decide
    obtain ⟨rfl, rfl⟩ := next?_unique (next?_of_quoting hquoting he) hnext
    obtain ⟨u, hu⟩ := Rule.leads_betweenEscaped (leads_of_end? he)
    have hsame := hpass.upTo_eq.symm.trans hu.upTo_eq
    exact .inl ⟨rfl, u, (List.cons_eq_cons.1 hsame).2⟩
  | cons a p =>
    rw [List.forall_mem_cons] at hp
    have hmem : '\'' ∈ (mk x (a :: p ++ '\'' :: t)).upTo d := by
      rw [hupTo]
      exact List.mem_append_right _ List.mem_cons_self
    rcases hp.1 with hword | hblank
    · exact .inr (exists_isZoneOpening_of_next? hnext rfl hword hmem)
    · exact absurd hmem (apostrophe_notMem_upTo_of_blank hnext rfl hblank)

end Cursor

/-! ## In front of a time zone -/

/-- What is known of a text that begins with a certain one, its letters in either case. -/
def Outline.ofText (s : String) : Outline where
  previous := .missing
  ahead := s.toList.map fun a => .among (if a.isUpper then a :: a.toLower :: lookAlikes a else [a])

theorem Outline.fits_ofText {s : String} {t : Text} {e : Cursor} (h : (text s).Leads (start t) e) :
    (ofText s).Fits (start t) := by
  refine ⟨rfl, ?_⟩
  unfold text at h
  unfold ofText
  generalize s.toList = word at h
  generalize start t = c at h
  induction word generalizing c with
  | nil =>
    intro i sight hi
    cases hi
  | cons b word ih =>
    obtain ⟨f, ⟨a, rest, hahead, ha, rfl⟩, hrest⟩ := h
    intro i sight hi
    rw [hahead]
    cases i with
    | zero =>
      cases hi
      refine ⟨a, ?_, rfl⟩
      split at ha
      · rename_i hupper
        rw [if_pos hupper]
        simpa [CharClass.holds, or_assoc] using ha
      · rename_i hupper
        rw [if_neg hupper]
        simpa [CharClass.holds] using ha
    | succ i => exact ih _ hrest i sight hi

theorem Rule.reach_before_timeZone : (∀ r ∈ before timeZone, (Outline.ofText "WITH'").reach r.pattern 0 = []) ∧
    (Outline.ofText "WITH'").reach dollarOpener 0 = [] ∧ (Outline.ofText "WITH'").reach blockOpener 0 = [] := by
  decide

/-- A time zone is what goes in front of one, something that is no apostrophe, and an apostrophe further on. -/
theorem Rule.exists_leads_timeZone_iff {c : Cursor} : (∃ e, timeZone.pattern.Leads c e) ↔
    ∃ d, zoneOpening.Leads c d ∧ d.ahead.head? ≠ some '\'' ∧ '\'' ∈ d.ahead := by
  constructor
  · rintro ⟨e, f, ⟨d, hopening, hinside⟩, hclosing⟩
    obtain ⟨u, hne, hu, hpass⟩ := leads_several_one_iff.1 hinside
    have hclosing := (leads_iff_passes (u := ['\'']) (by decide)).1 hclosing
    obtain ⟨a, u, rfl⟩ := List.exists_cons_of_ne_nil hne
    refine ⟨d, hopening, ?_, ?_⟩
    · rw [hpass.1]
      rintro ⟨⟩
      exact absurd (hu '\'' List.mem_cons_self) (by decide)
    · rw [hpass.1, hclosing.1]
      exact List.mem_append_right _ List.mem_cons_self
  · rintro ⟨d, hopening, hd, hlater⟩
    obtain ⟨u, t, hahead, hu⟩ := List.eq_append_cons_of_mem hlater
    have hne : u ≠ [] := by
      rintro rfl
      rw [hahead] at hd
      exact hd rfl
    have hchars : ∀ a ∈ u, (CharClass.noneOf ['\'']).holds a = true := fun a ha => by
      simpa [CharClass.holds] using ne_of_mem_of_not_mem ha hu
    have hpass : d.Passes (u ++ ['\'']) _ := passes_skip (v := t) (by rw [hahead]; simp)
    obtain ⟨f, hinside, hclosing⟩ := passes_append_iff.1 hpass
    exact ⟨_, f, ⟨d, hopening, leads_several_one_iff.2 ⟨u, hne, hchars, hinside⟩⟩,
      (leads_iff_passes (u := ['\'']) (by decide)).2 hclosing⟩

namespace Cursor

variable {c d e y c₀ d₀ : Cursor} {ls : List Lexeme} {s m v w h g : Text}

/-- Where `WITH` and a literal could begin a time zone, the lexer takes them for one. -/
theorem exists_next?_timeZone (hwith : (text "WITH'").Leads (start s) e) (hopening : Rule.zoneOpening.Leads (start s) y)
    (hy : y.ahead.head? ≠ some '\'') (hlater : '\'' ∈ y.ahead) :
    ∃ d m u, (start s).next? = some (.keyword, d) ∧ Rule.IsZoneOpening m ∧
      (start s).upTo d = m ++ (u ++ ['\'']) := by
  have hfits := Outline.fits_ofText hwith
  obtain ⟨d, hd⟩ := Rule.exists_leads_timeZone_iff.2 ⟨y, hopening, hy, hlater⟩
  obtain ⟨f, hf⟩ := exists_end?_of_leads hd
  obtain ⟨k, d, hrule, rfl, rfl⟩ : ∃ k d, (start s).byRule? = some (k, d) ∧ k = .keyword ∧ d = f :=
    exists_byRule? (P := fun k d => k = .keyword ∧ d = f) Rule.timeZone_mem_all
      (fun r hr d hd => absurd (leads_of_end? hd) (Outline.not_leads_here hfits (Rule.reach_before_timeZone.1 r hr)))
      ⟨f, hf, rfl, rfl⟩
  obtain ⟨m, u, hm, hpass⟩ := Rule.exists_of_leads_timeZone (leads_of_end? hf)
  have hne : (start s).ahead ≠ [] := by
    intro hnil
    rw [hpass.1] at hnil
    simp at hnil
  exact ⟨d, m, u, next?_of_byRule? hne (Outline.span?_eq_none hfits Rule.reach_before_timeZone.2) hrule, hm,
    hpass.upTo_eq⟩

/-- The piece in which an apostrophe stands behind nothing but words and blanks, where another apostrophe comes behind
the pieces, is a literal or a time zone, and has another apostrophe. -/
theorem Cuts.exists_apostrophes (hcuts : c.Cuts ls e) (hleft : ls.flatMap Lexeme.withoutComment = w ++ '\'' :: v)
    (hw : ∀ a ∈ w, Character.isWordChar a = true ∨ Character.isBlank a = true) (hlater : '\'' ∈ e.ahead) :
    ∃ ls₁ x y ls₂ p q, c.Cuts ls₁ x ∧ x.Passes (p ++ '\'' :: q) y ∧ y.Cuts ls₂ e ∧
      w = ls₁.flatMap Lexeme.withoutComment ++ p ∧ v = q ++ ls₂.flatMap Lexeme.withoutComment ∧ '\'' ∈ q ∧
      ((p = [] ∧ ∃ u, q = u ++ ['\'']) ∨ ∃ m u, Rule.IsZoneOpening m ∧ p ++ '\'' :: q = m ++ (u ++ ['\''])) := by
  obtain ⟨ls₁, k, x, y, ls₂, p, q, hcuts₁, hnext, hcuts₂, -, hupTo, rfl, rfl⟩ :=
    hcuts.exists_lexeme (by decide) hleft
  have hpass := exists_passes_of_next? hnext
  have hp : ∀ a ∈ p, Character.isWordChar a = true ∨ Character.isBlank a = true :=
    fun a ha => hw a (List.mem_append_right _ ha)
  have hbehind : '\'' ∈ y.ahead := by
    rw [hcuts₂.passes.1]
    exact List.mem_append_right _ hlater
  have hclosing := exists_closing_apostrophe hnext hupTo hp hbehind
  rw [hupTo] at hpass hclosing
  refine ⟨ls₁, x, y, ls₂, p, q, hcuts₁, hpass, hcuts₂, rfl, rfl, ?_, hclosing⟩
  rcases hclosing with ⟨-, u, rfl⟩ | ⟨m, u, hm, hsame⟩
  · exact List.mem_append_right u (List.mem_singleton.2 rfl)
  · exact hm.apostrophe_mem hsame.symm (apostrophe_notMem hp)

/-- Where only characters of words are left, nothing has been taken out. -/
theorem Cuts.passes_left (hcuts : c.Cuts ls e)
    (hword : ∀ a ∈ ls.flatMap Lexeme.withoutComment, Character.isWordChar a = true) :
    c.Passes (ls.flatMap Lexeme.withoutComment) e := by
  have hblank : (ls.flatMap Lexeme.withoutComment).any Character.isBlank = false :=
    List.any_eq_false.2 fun a ha => by simp [Character.isBlank_of_isWordChar (hword a ha)]
  rw [← hcuts.blanked.eq_of_not_blank hblank]
  exact hcuts.passes

/-- No apostrophe begins what is left where none begins the text. -/
theorem Cuts.head?_ne_apostrophe (hcuts : c.Cuts ls e) (hv : '\'' ∉ ls.flatMap Lexeme.withoutComment)
    (he : e.ahead.head? ≠ some '\'') : c.ahead.head? ≠ some '\'' := by
  intro hhead
  cases hcuts with
  | nil => exact he hhead
  | @cons _ d _ k ls hnext _ =>
    obtain ⟨t, ht⟩ := List.head?_eq_some_iff.1 hhead
    obtain ⟨u, hu⟩ := exists_upTo_eq_cons hnext ht
    have hk : k ≠ .comment := kind_ne_comment_of_notMem (by decide) ht hnext
    rw [List.flatMap_cons, Lexeme.withoutComment_of_ne hk, hu] at hv
    exact hv (List.mem_append_left _ List.mem_cons_self)

/-- In front of a time zone behind `WITH`, the lexer does not stop at a literal. -/
theorem apostrophe_mem_of_withZone (hcuts : (start s).Cuts ls e)
    (hleft : ls.flatMap Lexeme.withoutComment = h ++ '\'' :: (g ++ '\'' :: v))
    (hword : ∀ a ∈ h, Character.isWordChar a = true) (hg : '\'' ∉ g) (hwith : (text "WITH'").Leads (start s) d)
    (hopening : Rule.zoneOpening.Leads (start s) y) (hy : y.ahead.head? ≠ some '\'') (hlater : '\'' ∈ y.ahead) :
    '\'' ∈ v := by
  obtain ⟨d, m, u, hnext, hm, hupTo⟩ := exists_next?_timeZone hwith hopening hy hlater
  cases hcuts with
  | nil => simp at hleft
  | @cons _ d' _ k ls hnext' _ =>
    obtain ⟨rfl, rfl⟩ := next?_unique hnext hnext'
    rw [List.flatMap_cons, Lexeme.withoutComment_of_ne (by decide), hupTo] at hleft
    exact hm.apostrophe_mem_of_word hleft hword hg

/-- If a statement in front of some place has what goes in front of a time zone, and no apostrophe behind that, no
apostrophe comes behind the place. -/
theorem apostrophe_notMem_of_zoneOpening (hcuts : (start s).Cuts ls e)
    (hleft : ls.flatMap Lexeme.withoutComment = m ++ v) (hopening : Rule.zoneOpening.Leads c₀ d₀)
    (hpass : c₀.Passes m d₀) (hv : '\'' ∉ v) (he : e.ahead.head? ≠ some '\'') : '\'' ∉ e.ahead := by
  intro hlater
  obtain ⟨m', hm, hpass'⟩ := Rule.exists_isZoneOpening hopening
  obtain rfl : m' = m := hpass'.upTo_eq.symm.trans hpass.upTo_eq
  cases hm with
  | @ofAt h g hword hspaced =>
    have hleft' : ls.flatMap Lexeme.withoutComment = (h ++ g) ++ '\'' :: v := by rw [hleft]; simp
    obtain ⟨-, -, -, ls₂, -, q, -, -, -, -, rfl, hq, -⟩ := hcuts.exists_apostrophes hleft'
      (hspaced.chars_append hword) hlater
    exact hv (List.mem_append_left _ hq)
  | @ofWith h g f hword hspaced hwith hpassWith =>
    have hg : '\'' ∉ g := apostrophe_notMem hspaced.chars
    have hleft' : ls.flatMap Lexeme.withoutComment = h ++ '\'' :: (g ++ '\'' :: v) := by rw [hleft]; simp
    obtain ⟨ls₁, x, y, ls₂, p, q, hcuts₁, hlexeme, hcuts₂, hh, hq, hmem, hkind⟩ :=
      hcuts.exists_apostrophes hleft' (fun a ha => .inl (hword a ha)) hlater
    -- both apostrophes are in the same piece
    obtain ⟨z, rfl, rfl⟩ := exists_of_mem_first hq hmem hg
    have hz : '\'' ∉ z := fun h => hv (List.mem_append_left _ h)
    rcases hkind with ⟨rfl, u, hu⟩ | ⟨m, u, hm, hsame⟩
    · -- `WITH` and a literal, with nothing taken out before or between them
      obtain rfl := eq_nil_of_last hu hz
      rw [List.append_nil] at hh
      have hstart : (start s).Passes h x := hh ▸ hcuts₁.passes_left (hh ▸ hword)
      have hzone : (start s).Passes (h ++ '\'' :: (g ++ ['\''])) y := hstart.append hlexeme
      obtain ⟨d, hd, -⟩ : ∃ d, (start s).Passes (h ++ ['\'']) d ∧ d.Passes (g ++ ['\'']) y :=
        passes_append_iff.1 (by simpa using hzone)
      have hbehind : '\'' ∈ y.ahead := by
        rw [hcuts₂.passes.1]
        exact List.mem_append_right _ hlater
      exact hv (apostrophe_mem_of_withZone hcuts hleft' hword hg (leads_of_passes (by decide) hwith hpassWith hd)
        (leads_of_passes (by decide) hopening hpass hzone) (hcuts₂.head?_ne_apostrophe hv he) hbehind)
    · refine hz (hm.apostrophe_mem_of_word (u := u) (y := []) (p := p) (g := g) ?_ ?_ hg)
      · rw [← hsame, List.append_nil]
      · rw [hh] at hword
        exact fun a ha => hword a (List.mem_append_right _ ha)

end Cursor

end SqlDialects
