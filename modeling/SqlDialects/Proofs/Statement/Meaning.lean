/-
What a pattern means. A pattern leads from one place of a text to others; a repetition leads as far as
the steps of its body do, one after another, however many they are. The search, which tries a repetition
only so many times, ends at exactly the places that the pattern leads to (`mem_ends_iff`).

Words and runs of one class are told by the text that they pass over (`leads_text_iff`,
`leads_several_one_iff`).
-/
import SqlDialects.Proofs.Text.Character

namespace SqlDialects

open Relation

namespace Pattern

/-- The pattern leads from one place to another. -/
def Leads : Pattern → Cursor → Cursor → Prop
  | nothing, c, d => d = c
  | one k, c, d => ∃ a rest, c.ahead = a :: rest ∧ k.holds a = true ∧ d = ⟨some a, rest⟩
  | andThen p q, c, d => ∃ e, p.Leads c e ∧ q.Leads e d
  | orElse p q, c, d => p.Leads c d ∨ q.Leads c d
  | many p, c, d => ReflTransGen (fun c d => p.Leads c d) c d
  | few p, c, d => ReflTransGen (fun c d => p.Leads c d) c d
  | peek p, c, d => d = c ∧ ∃ e, p.Leads c e
  | notPeek p, c, d => d = c ∧ ∀ e, ¬ p.Leads c e
  | behind k, c, d => d = c ∧ c.before.any k.holds = true
  | notBehind k, c, d => d = c ∧ c.before.any k.holds = false
  | wordEdge, c, d => d = c ∧ atWordEdge c = true
  | textEnd, c, d => d = c ∧ (c.ahead = [] ∨ c.ahead = ['\n'])

/-! ## Repetitions -/

section Repetition

variable {step : Cursor → List Cursor}

theorem mem_repeatMany_succ {m : Nat} {c d : Cursor} :
    d ∈ repeatMany step (m + 1) c ↔ d = c ∨ ∃ e ∈ step c, d ∈ repeatMany step m e := by
  rw [repeatMany, List.mem_append, List.mem_flatMap, List.mem_singleton, or_comm]

/-- The order of preference aside, both repetitions are the same. -/
theorem mem_repeatFew_iff {m : Nat} {c d : Cursor} :
    d ∈ repeatFew step m c ↔ d ∈ repeatMany step m c := by
  induction m generalizing c with
  | zero => rfl
  | succ m ih =>
    rw [mem_repeatMany_succ, repeatFew, List.mem_cons, List.mem_flatMap]
    simp only [ih]

/-- A repetition that may be tried for each character ahead misses nothing: steps that stay where they
are add no place, and all others use up a character. -/
theorem mem_repeatMany_iff (hstep : ∀ c, ∀ d ∈ step c, ∃ n, d = c.skip n) {m : Nat} {c d : Cursor}
    (hm : c.ahead.length ≤ m) :
    d ∈ repeatMany step m c ↔ ReflTransGen (fun c d => d ∈ step c) c d := by
  constructor
  · intro h
    clear hm
    induction m generalizing c with
    | zero =>
      rw [repeatMany, List.mem_singleton] at h
      rw [h]
    | succ m ih =>
      rcases mem_repeatMany_succ.1 h with rfl | ⟨e, he, hd⟩
      · exact .refl
      · exact .head he (ih hd)
  · intro h
    induction h using ReflTransGen.head_induction_on generalizing m with
    | refl =>
      cases m with
      | zero => exact List.mem_singleton.2 rfl
      | succ m => exact mem_repeatMany_succ.2 (.inl rfl)
    | @head c e he _ ih =>
      obtain ⟨n, hn⟩ := hstep c e he
      by_cases hstay : n = 0 ∨ c.ahead = []
      · have hec : e = c := by
          rcases hstay with rfl | hc
          · rw [hn, Cursor.skip_zero]
          · rw [hn, Cursor.skip_of_ahead_nil hc]
        rw [← hec]
        exact ih (hec ▸ hm)
      · rw [not_or] at hstay
        have hlt : e.ahead.length < c.ahead.length := hn ▸ Cursor.length_skip_lt hstay.1 hstay.2
        obtain ⟨m, rfl⟩ : ∃ m', m = m' + 1 := ⟨m - 1, by omega⟩
        exact mem_repeatMany_succ.2 (.inr ⟨e, he, ih (by omega)⟩)

end Repetition

/-! ## The search finds what the pattern means -/

@[simp] theorem ends_append (p q : Pattern) (c : Cursor) : (p ++ q).ends c = (p.ends c).flatMap fun d => q.ends d := rfl

@[simp] theorem ends_orElse (p q : Pattern) (c : Cursor) : (p <|> q).ends c = p.ends c ++ q.ends c := rfl

/-- The places at which a pattern can end are those that it leads to. -/
theorem mem_ends_iff {p : Pattern} {c d : Cursor} : d ∈ p.ends c ↔ p.Leads c d := by
  induction p generalizing c d with
  | nothing => simp [ends, Leads]
  | one k =>
    unfold ends Leads
    obtain ⟨b, _ | ⟨a, s⟩⟩ := c
    · simp
    · dsimp only
      constructor
      · intro h
        split at h
        · rename_i ha
          exact ⟨a, s, rfl, ha, List.mem_singleton.1 h⟩
        · cases h
      · rintro ⟨a', s', h, ha, rfl⟩
        cases h
        rw [if_pos ha, List.mem_singleton]
  | andThen p q ihp ihq => simp only [ends, Leads, List.mem_flatMap, ihp, ihq]
  | orElse p q ihp ihq => simp only [ends, Leads, List.mem_append, ihp, ihq]
  | many p ih =>
    unfold ends Leads
    rw [mem_repeatMany_iff (exists_skip_of_mem_ends p) (Nat.le_refl _)]
    simp only [ih]
  | few p ih =>
    unfold ends Leads
    rw [mem_repeatFew_iff, mem_repeatMany_iff (exists_skip_of_mem_ends p) (Nat.le_refl _)]
    simp only [ih]
  | peek p ih =>
    have hnone : p.ends c = [] ↔ ¬ ∃ e, p.Leads c e := by
      simp only [List.eq_nil_iff_forall_not_mem, ih, not_exists]
    unfold ends Leads
    by_cases h : p.ends c = [] <;> simp_all
  | notPeek p ih =>
    have hnone : p.ends c = [] ↔ ∀ e, ¬ p.Leads c e := by
      simp only [List.eq_nil_iff_forall_not_mem, ih]
    unfold ends Leads
    by_cases h : p.ends c = [] <;> simp_all
  | behind k | notBehind k | wordEdge | textEnd =>
    unfold ends Leads
    split <;> simp_all

theorem ends_eq_nil_iff {p : Pattern} {c : Cursor} : p.ends c = [] ↔ ∀ d, ¬ p.Leads c d := by
  simp only [List.eq_nil_iff_forall_not_mem, mem_ends_iff]

theorem end?_eq_none_iff {p : Pattern} {c : Cursor} : p.end? c = none ↔ ∀ d, ¬ p.Leads c d := by
  rw [end?, List.head?_eq_none_iff, ends_eq_nil_iff]

theorem leads_of_end? {p : Pattern} {c d : Cursor} (h : p.end? c = some d) : p.Leads c d :=
  mem_ends_iff.1 (List.mem_of_mem_head? h)

/-- What has to take something does not lead back to where it begins. -/
theorem not_leads_self {p : Pattern} {c : Cursor} (hp : p.consumes = true) : ¬ p.Leads c c :=
  fun h => Nat.lt_irrefl _ (length_lt_of_mem_ends hp c c (mem_ends_iff.2 h))

/-- A pattern that leads somewhere ends somewhere. -/
theorem exists_end?_of_leads {p : Pattern} {c d : Cursor} (h : p.Leads c d) : ∃ e, p.end? c = some e := by
  cases he : p.end? c with
  | none => exact absurd h (end?_eq_none_iff.1 he d)
  | some e => exact ⟨e, rfl⟩

/-- What leads to one place only ends there. -/
theorem end?_of_unique {p : Pattern} {c d : Cursor} (h : p.Leads c d) (hunique : ∀ e, p.Leads c e → e = d) :
    p.end? c = some d := by
  obtain ⟨e, he⟩ := exists_end?_of_leads h
  rw [he, hunique e (leads_of_end? he)]

/-- Where the second of two patterns ends at the same place however the first one has ended, so do both. -/
theorem end?_append {p q : Pattern} {c d : Cursor} (hp : ∃ e, p.Leads c e) (hq : ∀ e, p.Leads c e → q.end? e = some d) :
    (p ++ q).end? c = some d := by
  have hall : ∀ e ∈ p.ends c, (q.ends e).head? = some d := fun e he => hq e (mem_ends_iff.1 he)
  obtain ⟨e, he⟩ := hp
  have hne : p.ends c ≠ [] := List.ne_nil_of_mem (mem_ends_iff.2 he)
  show ((p.ends c).flatMap fun e => q.ends e).head? = some d
  revert hall hne
  generalize p.ends c = places
  intro hall hne
  cases places with
  | nil => exact absurd rfl hne
  | cons e places => rw [List.flatMap_cons, List.head?_append, hall e List.mem_cons_self, Option.some_or]

theorem end?_optional_of_some {p : Pattern} {c d : Cursor} (h : p.end? c = some d) :
    (optional p).end? c = some d := by
  show (p.ends c ++ [c]).head? = some d
  rw [List.head?_append, show (p.ends c).head? = some d from h, Option.some_or]

theorem end?_optional_of_none {p : Pattern} {c : Cursor} (h : p.end? c = none) :
    (optional p).end? c = some c := by
  show (p.ends c ++ [c]).head? = some c
  rw [List.head?_append, show (p.ends c).head? = none from h, Option.none_or, List.head?_cons]

/-! ## Repetitions of what consumes something -/

section Consuming

variable {step : Cursor → List Cursor} (hstep : ∀ c, ∀ d ∈ step c, d.ahead.length < c.ahead.length)

include hstep

/-- If every step uses up a character, there is none where no character is left. -/
theorem step_eq_nil {c : Cursor} (hc : c.ahead.length ≤ 0) : step c = [] :=
  List.eq_nil_iff_forall_not_mem.2 fun d hd => by
    have := hstep c d hd
    omega

/-- A repetition that is tried often enough finds the same places, in the same order, however often it may be
tried beyond that. -/
theorem repeatMany_eq_of_le {m n : Nat} {c : Cursor} (hm : c.ahead.length ≤ m) (hn : c.ahead.length ≤ n) :
    repeatMany step m c = repeatMany step n c := by
  induction m generalizing n c with
  | zero =>
    cases n with
    | zero => rfl
    | succ n => rw [repeatMany, repeatMany, step_eq_nil hstep hm, List.flatMap_nil, List.nil_append]
  | succ m ih =>
    have hrest : ∀ {k}, c.ahead.length ≤ k + 1 → ∀ d ∈ step c, d.ahead.length ≤ k := fun hk d hd => by
      have := hstep c d hd
      omega
    cases n with
    | zero => rw [repeatMany, repeatMany, step_eq_nil hstep hn, List.flatMap_nil, List.nil_append]
    | succ n => rw [repeatMany, repeatMany, List.flatMap_congr fun d hd => ih (hrest hm d hd) (hrest hn d hd)]

theorem repeatFew_eq_of_le {m n : Nat} {c : Cursor} (hm : c.ahead.length ≤ m) (hn : c.ahead.length ≤ n) :
    repeatFew step m c = repeatFew step n c := by
  induction m generalizing n c with
  | zero =>
    cases n with
    | zero => rfl
    | succ n => rw [repeatFew, repeatFew, step_eq_nil hstep hm, List.flatMap_nil]
  | succ m ih =>
    have hrest : ∀ {k}, c.ahead.length ≤ k + 1 → ∀ d ∈ step c, d.ahead.length ≤ k := fun hk d hd => by
      have := hstep c d hd
      omega
    cases n with
    | zero => rw [repeatFew, repeatFew, step_eq_nil hstep hn, List.flatMap_nil]
    | succ n => rw [repeatFew, repeatFew, List.flatMap_congr fun d hd => ih (hrest hm d hd) (hrest hn d hd)]

end Consuming

/-- A repetition takes one step and goes on from there, or stays where it is. -/
theorem ends_many {p : Pattern} (hp : p.consumes = true) (c : Cursor) :
    (many p).ends c = ((p.ends c).flatMap fun d => (many p).ends d) ++ [c] := by
  have hstep : ∀ c, ∀ d ∈ p.ends c, d.ahead.length < c.ahead.length := length_lt_of_mem_ends hp
  show repeatMany _ _ c = _
  rw [repeatMany_eq_of_le hstep (Nat.le_refl _) (Nat.le_succ c.ahead.length), repeatMany]
  congr 1
  refine List.flatMap_congr fun d hd => ?_
  exact repeatMany_eq_of_le hstep (Nat.le_of_lt (hstep c d hd)) (Nat.le_refl _)

/-- One that prefers fewer steps stays where it is, or takes one step and goes on from there. -/
theorem ends_few {p : Pattern} (hp : p.consumes = true) (c : Cursor) :
    (few p).ends c = c :: (p.ends c).flatMap fun d => (few p).ends d := by
  have hstep : ∀ c, ∀ d ∈ p.ends c, d.ahead.length < c.ahead.length := length_lt_of_mem_ends hp
  show repeatFew _ _ c = _
  rw [repeatFew_eq_of_le hstep (Nat.le_refl _) (Nat.le_succ c.ahead.length), repeatFew]
  congr 1
  refine List.flatMap_congr fun d hd => ?_
  exact repeatFew_eq_of_le hstep (Nat.le_of_lt (hstep c d hd)) (Nat.le_refl _)

/-- Behind a repetition, the first place counts from which one more step and what follows fit; only if there is
none, what follows fits at once. -/
theorem end?_many_append {p q : Pattern} (hp : p.consumes = true) (c : Cursor) :
    (many p ++ q).end? c = ((p.ends c).findSome? (many p ++ q).end?).or (q.end? c) := by
  show (((many p).ends c).flatMap fun d => q.ends d).head? = _
  rw [ends_many hp, List.flatMap_append, List.flatMap_singleton, List.head?_append, List.flatMap_assoc,
    List.head?_flatMap]
  rfl

end Pattern

/-! ## Texts that are passed over -/

namespace Cursor

theorem before_skip_succ {n : Nat} {c : Cursor} (hn : n < c.ahead.length) :
    (c.skip (n + 1)).before = c.ahead[n]? := by
  induction n generalizing c with
  | zero =>
    obtain ⟨b, _ | ⟨a, s⟩⟩ := c
    · cases hn
    · rfl
  | succ n ih =>
    obtain ⟨b, _ | ⟨a, s⟩⟩ := c
    · cases hn
    · exact ih (Nat.lt_of_succ_lt_succ hn)

/-- Places with the same text ahead do not differ further on. -/
theorem skip_eq_skip {c d : Cursor} (h : c.ahead = d.ahead) {n : Nat} (hn : n ≠ 0) (hc : c.ahead ≠ []) :
    c.skip n = d.skip n := by
  obtain ⟨b, s⟩ := c
  obtain ⟨b', s'⟩ := d
  obtain rfl : s = s' := h
  obtain ⟨a, s, rfl⟩ := List.exists_cons_of_ne_nil hc
  obtain ⟨n, rfl⟩ := Nat.exists_eq_succ_of_ne_zero hn
  rfl

/-- Going from the one place to the other passes over the text. -/
def Passes (c : Cursor) (u : Text) (d : Cursor) : Prop := c.ahead = u ++ d.ahead ∧ d = c.skip u.length

variable {c d e : Cursor} {u v : Text}

theorem passes_skip (h : c.ahead = u ++ v) : c.Passes u (c.skip u.length) := by
  constructor
  · rw [ahead_skip, h, List.drop_left]
  · rfl

theorem passes_nil_iff : c.Passes [] d ↔ d = c := by
  constructor
  · rintro ⟨-, hd⟩
    rw [hd, List.length_nil, skip_zero]
  · rintro rfl
    exact ⟨rfl, d.skip_zero.symm⟩

theorem Passes.upTo_eq (h : c.Passes u d) : c.upTo d = u := by
  rw [upTo, h.1, List.length_append, Nat.add_sub_cancel, List.take_left]

theorem Passes.ahead_eq {s : Text} (hc : c.ahead = u ++ s) (h : c.Passes u d) : d.ahead = s :=
  (List.append_cancel_left (hc.symm.trans h.1)).symm

/-- What is passed over within a line begins the line. -/
theorem Passes.prefix_line {l rest : Text} (h : c.Passes u d) (hc : c.ahead = l ++ rest) (hu : '\n' ∉ u)
    (hrest : ∀ a ∈ rest.head?, a = '\n') : u <+: l := by
  have hbegins : u <+: l ++ rest := ⟨d.ahead, h.1.symm.trans hc⟩
  refine Text.prefix_of_prefix_append (fun a ha => ?_) hbegins
  rwa [hrest a ha]

/-- What is passed over last is the character before. -/
theorem Passes.before_eq {a : Char} (h : c.Passes (u ++ [a]) d) : d.before = some a := by
  rw [h.2, List.length_append, List.length_singleton, before_skip_succ (by rw [h.1]; simp), h.1]
  simp

theorem Passes.append (hu : c.Passes u d) (hv : d.Passes v e) : c.Passes (u ++ v) e := by
  constructor
  · rw [hu.1, hv.1, List.append_assoc]
  · rw [hv.2, hu.2, skip_skip, List.length_append]

theorem passes_append_iff : c.Passes (u ++ v) e ↔ ∃ d, c.Passes u d ∧ d.Passes v e := by
  constructor
  · rintro ⟨hahead, he⟩
    have hu : c.Passes u (c.skip u.length) := passes_skip (by rw [hahead, List.append_assoc])
    refine ⟨_, hu, ?_, ?_⟩
    · have := hu.1.symm.trans hahead
      rw [List.append_assoc] at this
      exact List.append_cancel_left this
    · rw [he, skip_skip, List.length_append]
  · rintro ⟨d, hu, hv⟩
    exact hu.append hv

theorem skip_length_add (c : Cursor) (n : Nat) : c.skip (c.ahead.length + n) = c.skip c.ahead.length := by
  rw [← skip_skip, skip_of_ahead_nil]
  rw [ahead_skip, List.drop_length]

/-- What lies between a place and one further on is passed over. -/
theorem exists_passes_skip (c : Cursor) (n : Nat) : ∃ u, c.Passes u (c.skip n) := by
  rcases Nat.le_total n c.ahead.length with hn | hn
  · refine ⟨c.ahead.take n, ?_⟩
    have hlength : (c.ahead.take n).length = n := List.length_take_of_le hn
    have hpass := passes_skip (c := c) (List.take_append_drop n c.ahead).symm
    rwa [hlength] at hpass
  · obtain ⟨m, rfl⟩ := Nat.exists_eq_add_of_le hn
    rw [skip_length_add]
    exact ⟨c.ahead, passes_skip (List.append_nil _).symm⟩

end Cursor

namespace Pattern

open Cursor

variable {k : CharClass} {c d : Cursor}

theorem exists_passes_of_leads {p : Pattern} (h : p.Leads c d) : ∃ u, c.Passes u d := by
  obtain ⟨n, rfl⟩ := exists_skip_of_mem_ends p c d (mem_ends_iff.2 h)
  exact c.exists_passes_skip n

theorem leads_one_iff : (one k).Leads c d ↔ ∃ a, k.holds a = true ∧ c.Passes [a] d := by
  obtain ⟨b, s⟩ := c
  constructor
  · rintro ⟨a, rest, rfl, ha, rfl⟩
    exact ⟨a, ha, rfl, rfl⟩
  · rintro ⟨a, ha, rfl, hd⟩
    exact ⟨a, d.ahead, rfl, ha, hd⟩

theorem leads_exactly_iff {a : Char} : (one (.exactly a)).Leads c d ↔ c.Passes [a] d := by
  rw [leads_one_iff]
  constructor
  · rintro ⟨b, hb, hpass⟩
    obtain rfl : b = a := beq_iff_eq.1 hb
    exact hpass
  · exact fun hpass => ⟨a, beq_self_eq_true a, hpass⟩

theorem leads_many_one_iff :
    (many (one k)).Leads c d ↔ ∃ u, (∀ a ∈ u, k.holds a = true) ∧ c.Passes u d := by
  constructor
  · intro h
    unfold Leads at h
    induction h using ReflTransGen.head_induction_on with
    | refl => exact ⟨[], by simp, passes_nil_iff.2 rfl⟩
    | head hstep _ ih =>
      obtain ⟨a, ha, hpass⟩ := leads_one_iff.1 hstep
      obtain ⟨u, hu, hrest⟩ := ih
      exact ⟨a :: u, List.forall_mem_cons.2 ⟨ha, hu⟩, hpass.append hrest⟩
  · rintro ⟨u, hu, hpass⟩
    unfold Leads
    induction u generalizing c with
    | nil => rw [passes_nil_iff.1 hpass]
    | cons a u ih =>
      rw [List.forall_mem_cons] at hu
      obtain ⟨e, hfirst, hrest⟩ := passes_append_iff.1 (show c.Passes ([a] ++ u) d from hpass)
      exact .head (leads_one_iff.2 ⟨a, hu.1, hfirst⟩) (ih hu.2 hrest)

theorem leads_several_one_iff :
    (several (one k)).Leads c d ↔ ∃ u, u ≠ [] ∧ (∀ a ∈ u, k.holds a = true) ∧ c.Passes u d := by
  constructor
  · rintro ⟨e, hone, hmany⟩
    obtain ⟨a, ha, hfirst⟩ := leads_one_iff.1 hone
    obtain ⟨u, hu, hrest⟩ := leads_many_one_iff.1 hmany
    exact ⟨a :: u, by simp, List.forall_mem_cons.2 ⟨ha, hu⟩, hfirst.append hrest⟩
  · rintro ⟨u, hne, hu, hpass⟩
    cases u with
    | nil => exact absurd rfl hne
    | cons a u =>
      rw [List.forall_mem_cons] at hu
      obtain ⟨e, hfirst, hrest⟩ := passes_append_iff.1 (show c.Passes ([a] ++ u) d from hpass)
      exact ⟨e, leads_one_iff.2 ⟨a, hu.1, hfirst⟩, leads_many_one_iff.2 ⟨u, hu.2, hrest⟩⟩

/-- Whether the pattern asks for nothing but what it takes. -/
def looksNowhere : Pattern → Bool
  | nothing | one _ => true
  | andThen p q | orElse p q => p.looksNowhere && q.looksNowhere
  | many p | few p => p.looksNowhere
  | _ => false

theorem reflTransGen_of_passes {step : Cursor → Cursor → Prop} {c' d' : Cursor} {u : Text}
    (hpasses : ∀ {c d}, step c d → ∃ u, c.Passes u d)
    (hstep : ∀ {c d c' d' u}, step c d → c.Passes u d → c'.Passes u d' → step c' d') (h : ReflTransGen step c d)
    (hpass : c.Passes u d) (hpass' : c'.Passes u d') : ReflTransGen step c' d' := by
  have htext {c d : Cursor} (h : ReflTransGen step c d) : ∃ u, c.Passes u d := by
    induction h using ReflTransGen.head_induction_on with
    | refl => exact ⟨[], passes_nil_iff.2 rfl⟩
    | head hfirst _ ih =>
      obtain ⟨u, hu⟩ := hpasses hfirst
      obtain ⟨v, hv⟩ := ih
      exact ⟨u ++ v, hu.append hv⟩
  induction h using ReflTransGen.head_induction_on generalizing c' u with
  | refl =>
    obtain rfl : u = [] := hpass.upTo_eq.symm.trans (passes_nil_iff.2 rfl).upTo_eq
    rw [passes_nil_iff.1 hpass']
  | head hfirst hrest ih =>
    obtain ⟨u₁, hu₁⟩ := hpasses hfirst
    obtain ⟨u₂, hu₂⟩ := htext hrest
    obtain rfl : u = u₁ ++ u₂ := hpass.upTo_eq.symm.trans (hu₁.append hu₂).upTo_eq
    obtain ⟨e', hu₁', hu₂'⟩ := passes_append_iff.1 hpass'
    exact .head (hstep hfirst hu₁ hu₁') (ih hu₂ hu₂')

/-- It leads over the same text anywhere. -/
theorem leads_of_passes {p : Pattern} {c' d' : Cursor} {u : Text} (hp : p.looksNowhere = true) (h : p.Leads c d)
    (hpass : c.Passes u d) (hpass' : c'.Passes u d') : p.Leads c' d' := by
  induction p generalizing c d c' d' u with
  | nothing =>
    obtain rfl : d = c := h
    obtain rfl : u = [] := hpass.upTo_eq.symm.trans (passes_nil_iff.2 rfl).upTo_eq
    exact passes_nil_iff.1 hpass'
  | one k =>
    obtain ⟨a, ha, hone⟩ := leads_one_iff.1 h
    obtain rfl : u = [a] := hpass.upTo_eq.symm.trans hone.upTo_eq
    exact leads_one_iff.2 ⟨a, ha, hpass'⟩
  | andThen p q ihp ihq =>
    obtain ⟨hp, hq⟩ := Bool.and_eq_true_iff.1 hp
    obtain ⟨e, hce, hed⟩ := h
    obtain ⟨u₁, hu₁⟩ := exists_passes_of_leads hce
    obtain ⟨u₂, hu₂⟩ := exists_passes_of_leads hed
    obtain rfl : u = u₁ ++ u₂ := hpass.upTo_eq.symm.trans (hu₁.append hu₂).upTo_eq
    obtain ⟨e', hu₁', hu₂'⟩ := passes_append_iff.1 hpass'
    exact ⟨e', ihp hp hce hu₁ hu₁', ihq hq hed hu₂ hu₂'⟩
  | orElse p q ihp ihq =>
    obtain ⟨hp, hq⟩ := Bool.and_eq_true_iff.1 hp
    exact h.imp (ihp hp · hpass hpass') (ihq hq · hpass hpass')
  | many p ih | few p ih => exact reflTransGen_of_passes exists_passes_of_leads (ih hp) h hpass hpass'
  | peek | notPeek | behind | notBehind | wordEdge | textEnd => cases hp

/-- A repetition of one class takes all of the class that lies ahead. -/
theorem end?_many_one (k : CharClass) (c : Cursor) :
    (many (one k)).end? c = some (c.skip (c.ahead.takeWhile k.holds).length) := by
  have greedy : ∀ m c, c.ahead.length ≤ m →
      (repeatMany (fun d => (one k).ends d) m c).head? =
        some (c.skip (c.ahead.takeWhile k.holds).length) := by
    intro m
    induction m with
    | zero =>
      intro c hc
      have hnil : c.ahead = [] := List.length_eq_zero_iff.1 (Nat.le_zero.1 hc)
      rw [hnil, List.takeWhile_nil, List.length_nil, skip_zero]
      rfl
    | succ m ih =>
      rintro ⟨b, _ | ⟨a, s⟩⟩ hc
      · rfl
      · by_cases ha : k.holds a = true
        · have hnext : (one k).ends ⟨b, a :: s⟩ = [⟨some a, s⟩] := by simp [ends, ha]
          rw [repeatMany, hnext, List.flatMap_singleton, List.head?_append,
            ih ⟨some a, s⟩ (Nat.le_of_succ_le_succ hc)]
          simp [ha, Cursor.skip]
        · have hnext : (one k).ends ⟨b, a :: s⟩ = [] := by simp [ends, ha]
          rw [repeatMany, hnext]
          simp [ha, Cursor.skip]
  exact greedy c.ahead.length c (Nat.le_refl _)

theorem ends_one (k : CharClass) (c : Cursor) :
    (one k).ends c = if c.ahead.head?.any k.holds then [c.skip 1] else [] := by
  obtain ⟨b, _ | ⟨a, s⟩⟩ := c
  · rfl
  · rfl

theorem exists_leads_one_iff : (∃ d, (one k).Leads c d) ↔ c.ahead.head?.any k.holds = true := by
  obtain ⟨b, _ | ⟨a, s⟩⟩ := c
  · refine iff_of_false ?_ Bool.false_ne_true
    rintro ⟨_, _, _, hnil, _⟩
    cases hnil
  · constructor
    · rintro ⟨d, hd⟩
      obtain ⟨a', ha, hpass⟩ := leads_one_iff.1 hd
      rwa [show a = a' from (List.cons_eq_cons.1 hpass.1).1]
    · exact fun ha => ⟨_, leads_one_iff.2 ⟨a, ha, passes_skip rfl⟩⟩

/-- The fewest steps are those up to the first place at which the rest fits. -/
theorem end?_few_one_append {q : Pattern} {u s : Text} (hc : c.ahead = u ++ s) (hu : ∀ a ∈ u, k.holds a = true)
    (hbefore : ∀ a ∈ u, ∀ e, e.ahead.head? = some a → q.end? e = none)
    (hd : q.end? (c.skip u.length) = some d) : (few (one k) ++ q).end? c = some d := by
  have shortest : ∀ n, u.length ≤ n →
      ((repeatFew (fun e => (one k).ends e) n c).flatMap fun e => q.ends e).head? = some d := by
    intro n hn
    induction u generalizing c n with
    | nil =>
      rw [List.length_nil, skip_zero] at hd
      cases n with
      | zero => rw [repeatFew, List.flatMap_singleton]; exact hd
      | succ n =>
        have hhead : (q.ends c).head? = some d := hd
        rw [repeatFew, List.flatMap_cons, List.head?_append, hhead, Option.some_or]
    | cons a u ih =>
      obtain ⟨x, _⟩ := c
      obtain rfl := hc
      obtain ⟨n, rfl⟩ : ∃ m, n = m + 1 := ⟨n - 1, by rw [List.length_cons] at hn; omega⟩
      -- the rest does not fit yet, so one more step is taken
      rw [List.forall_mem_cons] at hu hbefore
      have hnone : q.ends ⟨x, a :: u ++ s⟩ = [] := List.head?_eq_none_iff.1 (hbefore.1 _ rfl)
      have hone : (one k).ends ⟨x, a :: u ++ s⟩ = [⟨some a, u ++ s⟩] := by rw [ends_one]; exact if_pos hu.1
      rw [repeatFew, hone, List.flatMap_singleton, List.flatMap_cons, hnone, List.nil_append]
      exact ih rfl hu.2 hbefore.2 hd n (Nat.le_of_succ_le_succ hn)
  exact shortest _ (by rw [hc, List.length_append]; omega)

/-- A text leads past itself. -/
theorem leads_verbatim_iff {u : Text} : (verbatim u).Leads c d ↔ c.Passes u d := by
  unfold verbatim
  induction u generalizing c with
  | nil => exact passes_nil_iff.symm
  | cons a u ih =>
    rw [List.foldr_cons]
    constructor
    · rintro ⟨e, hone, hrest⟩
      exact (leads_exactly_iff.1 hone).append (ih.1 hrest)
    · intro hpass
      obtain ⟨e, hfirst, hrest⟩ := passes_append_iff.1 (show c.Passes ([a] ++ u) d from hpass)
      exact ⟨e, leads_exactly_iff.2 hfirst, ih.2 hrest⟩

theorem leads_iff_passes {p : Pattern} {u : Text} (hp : p = verbatim u) : p.Leads c d ↔ c.Passes u d := by
  rw [hp, leads_verbatim_iff]

/-! ## Words in capital letters -/

/-- A letter that shares its case with no letter beyond ASCII. -/
def isPlainCapital (a : Char) : Bool := a.isUpper && (lookAlikes a).isEmpty

theorem holds_letter_iff {a b : Char} (hb : isPlainCapital b = true) :
    (CharClass.letter b).holds a = true ↔ a.toUpper = b := by
  simp only [isPlainCapital, Bool.and_eq_true, List.isEmpty_iff] at hb
  simp [CharClass.holds, hb.2, toUpper_eq_iff hb.1]

/-- A word of plain capitals fits what spells it. -/
theorem leads_text_iff {s : String} (hs : s.toList.all isPlainCapital = true) :
    (text s).Leads c d ↔ ∃ u : Text, u.Spells s ∧ c.Passes u d := by
  unfold text
  revert hs
  generalize s.toList = word
  intro hs
  induction word generalizing c with
  | nil => simp [Leads, Text.Spells, passes_nil_iff]
  | cons b word ih =>
    rw [List.all_cons, Bool.and_eq_true] at hs
    have hupper : b.isUpper = true := (Bool.and_eq_true _ _ ▸ hs.1).1
    rw [List.foldr_cons, if_pos hupper]
    constructor
    · rintro ⟨e, hone, hrest⟩
      obtain ⟨a, ha, hfirst⟩ := leads_one_iff.1 hone
      obtain ⟨u, hu, hpass⟩ := (ih hs.2).1 hrest
      refine ⟨a :: u, ?_, hfirst.append hpass⟩
      rw [Text.Spells, List.map_cons, (holds_letter_iff hs.1).1 ha, hu]
    · rintro ⟨u, hu, hpass⟩
      obtain ⟨a, u, rfl, ha, hu⟩ := List.map_eq_cons_iff.1 hu
      obtain ⟨e, hfirst, hrest⟩ := passes_append_iff.1 (show c.Passes ([a] ++ u) d from hpass)
      exact ⟨e, leads_one_iff.2 ⟨a, (holds_letter_iff hs.1).2 ha, hfirst⟩, (ih hs.2).2 ⟨u, hu, hrest⟩⟩

/-- A word ends at one place at most. -/
theorem ends_text {s : String} (h : (text s).Leads c d) : (text s).ends c = [d] := by
  have hlength : ((text s).ends c).length ≤ 1 := by
    unfold text
    generalize s.toList = word
    clear h
    induction word generalizing c with
    | nil => exact Nat.le_refl 1
    | cons b word ih =>
      obtain ⟨x, _ | ⟨a, rest⟩⟩ := c
      · exact Nat.zero_le 1
      · generalize hk : (if b.isUpper then CharClass.letter b else CharClass.exactly b) = k
        have hone : (one k).ends ⟨x, a :: rest⟩ = if k.holds a = true then [⟨some a, rest⟩] else [] := rfl
        rw [List.foldr_cons, hk]
        show (((one k).ends ⟨x, a :: rest⟩).flatMap _).length ≤ 1
        rw [hone]
        split
        · rw [List.flatMap_singleton]
          exact ih
        · exact Nat.zero_le 1
  have hmem := mem_ends_iff.2 h
  obtain ⟨e, he⟩ := List.length_eq_one_iff.1 (Nat.le_antisymm hlength (List.length_pos_of_mem hmem))
  rw [he, List.mem_singleton] at hmem
  rw [he, hmem]

end Pattern

end SqlDialects
