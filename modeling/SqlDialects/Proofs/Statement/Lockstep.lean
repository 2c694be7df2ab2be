/-
Two searches in step. Places are related such that classes of one sort see no difference ahead of them, classes of
another sort none behind them, and the places next to them are related again. Then a pattern that asks for no other
classes ends at related places, in the same order of preference (`Pattern.Lockstep.forall₂_ends`).
-/
import SqlDialects.Proofs.Statement.Meaning

namespace SqlDialects

/-! ## Lists in step -/

/-- What related members of two lists are taken to is related if that holds for the members there are. -/
theorem forall₂_flatMap {α β γ δ : Type} {R : α → β → Prop} {S : γ → δ → Prop} {as : List α} {bs : List β}
    {f : α → List γ} {g : β → List δ} (h : List.Forall₂ R as bs)
    (hfg : ∀ a ∈ as, ∀ b, R a b → List.Forall₂ S (f a) (g b)) : List.Forall₂ S (as.flatMap f) (bs.flatMap g) := by
  induction h with
  | nil => exact .nil
  | cons hab _ ih =>
    rw [List.forall_mem_cons] at hfg
    exact List.rel_append (hfg.1 _ hab) (ih hfg.2)

theorem exists_of_forall₂ {α β : Type} {R : α → β → Prop} {as : List α} {bs : List β} {a : α}
    (h : List.Forall₂ R as bs) (ha : a ∈ as) : ∃ b ∈ bs, R a b := by
  induction h with
  | nil => cases ha
  | cons hab _ ih =>
    rcases List.mem_cons.1 ha with rfl | ha
    · exact ⟨_, List.mem_cons_self, hab⟩
    · obtain ⟨b, hb, hab⟩ := ih ha
      exact ⟨b, List.mem_cons_of_mem _ hb, hab⟩

theorem isEmpty_eq_of_forall₂ {α β : Type} {R : α → β → Prop} {as : List α} {bs : List β}
    (h : List.Forall₂ R as bs) : as.isEmpty = bs.isEmpty := by
  cases h with
  | nil => rfl
  | cons => rfl

theorem rel_head?_of_forall₂ {α β : Type} {R : α → β → Prop} {as : List α} {bs : List β}
    (h : List.Forall₂ R as bs) : Option.Rel R as.head? bs.head? := by
  cases h with
  | nil => exact .none
  | cons hab => exact .some hab

/-- If the searches give related answers for each of the members, the first answers are related. -/
theorem rel_findSome? {α β γ : Type} {R : β → γ → Prop} {f : α → Option β} {g : α → Option γ} {as : List α}
    (h : ∀ a ∈ as, Option.Rel R (f a) (g a)) : Option.Rel R (as.findSome? f) (as.findSome? g) := by
  induction as with
  | nil => exact .none
  | cons a as ih =>
    rw [List.forall_mem_cons] at h
    obtain ⟨hfirst, hrest⟩ := h
    rw [List.findSome?_cons, List.findSome?_cons]
    generalize f a = b?, g a = c? at hfirst ⊢
    cases hfirst with
    | none => exact ih hrest
    | some hbc => exact .some hbc

theorem rel_map {α β γ δ : Type} {R : α → β → Prop} {S : γ → δ → Prop} {f : α → γ} {g : β → δ} {a? : Option α}
    {b? : Option β} (h : Option.Rel R a? b?) (hfg : ∀ a b, R a b → S (f a) (g b)) :
    Option.Rel S (a?.map f) (b?.map g) := by
  cases h with
  | none => exact .none
  | some hab => exact .some (hfg _ _ hab)

namespace Pattern

/-- Whether the pattern asks ahead and behind only for classes of a certain sort each, and repeats only what
consumes something. -/
def asksOnly (ahead behind : CharClass → Bool) : Pattern → Bool
  | one k => ahead k
  | andThen p q | orElse p q => p.asksOnly ahead behind && q.asksOnly ahead behind
  | many p | few p => p.consumes && p.asksOnly ahead behind
  | peek p | notPeek p => p.asksOnly ahead behind
  | .behind k | notBehind k => behind k
  | wordEdge => ahead .wordChar && behind .wordChar
  | nothing | textEnd => true

theorem asksOnly_mono {ahead behind ahead' behind' : CharClass → Bool} {p : Pattern}
    (hahead : ∀ k, ahead k = true → ahead' k = true) (hbehind : ∀ k, behind k = true → behind' k = true)
    (hp : p.asksOnly ahead behind = true) : p.asksOnly ahead' behind' = true := by
  induction p with
  | one k => exact hahead k hp
  | andThen p q ihp ihq | orElse p q ihp ihq =>
    obtain ⟨hp, hq⟩ := Bool.and_eq_true_iff.1 hp
    exact Bool.and_eq_true_iff.2 ⟨ihp hp, ihq hq⟩
  | many p ih | few p ih =>
    obtain ⟨hconsumes, hp⟩ := Bool.and_eq_true_iff.1 hp
    exact Bool.and_eq_true_iff.2 ⟨hconsumes, ih hp⟩
  | peek p ih | notPeek p ih => exact ih hp
  | behind k | notBehind k => exact hbehind k hp
  | wordEdge =>
    obtain ⟨hword, hword'⟩ := Bool.and_eq_true_iff.1 hp
    exact Bool.and_eq_true_iff.2 ⟨hahead _ hword, hbehind _ hword'⟩
  | nothing | textEnd => rfl

/-- If all classes that it asks for ahead are of another sort too, it asks for those of both sorts only. -/
theorem asksOnly_and {ahead behind other : CharClass → Bool} {p : Pattern} (hp : p.asksOnly ahead behind = true)
    (hother : p.asksOnly other (fun _ => true) = true) : p.asksOnly (fun k => ahead k && other k) behind = true := by
  induction p with
  | one k => exact Bool.and_eq_true_iff.2 ⟨hp, hother⟩
  | andThen p q ihp ihq | orElse p q ihp ihq =>
    obtain ⟨hp, hq⟩ := Bool.and_eq_true_iff.1 hp
    obtain ⟨hotherp, hotherq⟩ := Bool.and_eq_true_iff.1 hother
    exact Bool.and_eq_true_iff.2 ⟨ihp hp hotherp, ihq hq hotherq⟩
  | many p ih | few p ih =>
    obtain ⟨hconsumes, hp⟩ := Bool.and_eq_true_iff.1 hp
    exact Bool.and_eq_true_iff.2 ⟨hconsumes, ih hp (Bool.and_eq_true_iff.1 hother).2⟩
  | peek p ih | notPeek p ih => exact ih hp hother
  | behind k | notBehind k => exact hp
  | wordEdge =>
    obtain ⟨hahead, hbehind⟩ := Bool.and_eq_true_iff.1 hp
    exact Bool.and_eq_true_iff.2 ⟨Bool.and_eq_true_iff.2 ⟨hahead, (Bool.and_eq_true_iff.1 hother).1⟩, hbehind⟩
  | nothing | textEnd => rfl

/-- It takes only characters of the classes that it asks for. -/
theorem exists_passes_of_asksOnly {Q : Char → Prop} {ahead behind : CharClass → Bool} {p : Pattern} {c d : Cursor}
    (hQ : ∀ k a, ahead k = true → k.holds a = true → Q a) (hp : p.asksOnly ahead behind = true) (h : p.Leads c d) :
    ∃ u, c.Passes u d ∧ ∀ a ∈ u, Q a := by
  have hhere {c d : Cursor} (hd : d = c) : ∃ u, c.Passes u d ∧ ∀ a ∈ u, Q a :=
    ⟨[], Cursor.passes_nil_iff.2 hd, by simp⟩
  have hthen {c d e : Cursor} (h : ∃ u, c.Passes u d ∧ ∀ a ∈ u, Q a) (h' : ∃ u, d.Passes u e ∧ ∀ a ∈ u, Q a) :
      ∃ u, c.Passes u e ∧ ∀ a ∈ u, Q a := by
    obtain ⟨u, hu, hall⟩ := h
    obtain ⟨v, hv, hall'⟩ := h'
    exact ⟨u ++ v, hu.append hv, List.forall_mem_append.2 ⟨hall, hall'⟩⟩
  induction p generalizing c d with
  | one k =>
    obtain ⟨a, ha, hpass⟩ := leads_one_iff.1 h
    exact ⟨[a], hpass, List.forall_mem_singleton.2 (hQ k a hp ha)⟩
  | andThen p q ihp ihq =>
    obtain ⟨hp, hq⟩ := Bool.and_eq_true_iff.1 hp
    obtain ⟨e, hce, hed⟩ := h
    exact hthen (ihp hp hce) (ihq hq hed)
  | orElse p q ihp ihq =>
    obtain ⟨hp, hq⟩ := Bool.and_eq_true_iff.1 hp
    exact h.elim (ihp hp) (ihq hq)
  | many p ih | few p ih =>
    obtain ⟨-, hp⟩ := Bool.and_eq_true_iff.1 hp
    unfold Leads at h
    induction h using Relation.ReflTransGen.head_induction_on with
    | refl => exact hhere rfl
    | head hfirst _ hrest => exact hthen (ih hp hfirst) hrest
  | nothing => exact hhere h
  | peek | notPeek | behind | notBehind | wordEdge | textEnd => exact hhere h.1

/-- Related places look alike, and so do those one character further on. -/
structure Lockstep (R : Cursor → Cursor → Prop) (ahead behind : CharClass → Bool) : Prop where
  look : ∀ {c d k}, R c d → ahead k = true → c.ahead.head?.any k.holds = d.ahead.head?.any k.holds
  lookBack : ∀ {c d k}, R c d → behind k = true → c.before.any k.holds = d.before.any k.holds
  atEnd : ∀ {c d}, R c d → ((c.ahead = [] ∨ c.ahead = ['\n']) ↔ (d.ahead = [] ∨ d.ahead = ['\n']))
  step : ∀ {c d k}, R c d → ahead k = true → c.ahead.head?.any k.holds = true → R (c.skip 1) (d.skip 1)

namespace Lockstep

variable {R : Cursor → Cursor → Prop} {ahead behind : CharClass → Bool} {p : Pattern}

/-- Repetitions of what is in step are in step, as each step uses up a character. -/
theorem forall₂_ends_many (hp : p.consumes = true) (ih : ∀ {c d}, R c d → List.Forall₂ R (p.ends c) (p.ends d))
    {c d : Cursor} (h : R c d) : List.Forall₂ R ((many p).ends c) ((many p).ends d) := by
  rw [ends_many hp c, ends_many hp d]
  refine List.rel_append (forall₂_flatMap (ih h) fun e he f hef => ?_) (.cons h .nil)
  have : e.ahead.length < c.ahead.length := length_lt_of_mem_ends hp c e he
  exact forall₂_ends_many hp ih hef
termination_by c.ahead.length

theorem forall₂_ends_few (hp : p.consumes = true) (ih : ∀ {c d}, R c d → List.Forall₂ R (p.ends c) (p.ends d))
    {c d : Cursor} (h : R c d) : List.Forall₂ R ((few p).ends c) ((few p).ends d) := by
  rw [ends_few hp c, ends_few hp d]
  refine .cons h (forall₂_flatMap (ih h) fun e he f hef => ?_)
  have : e.ahead.length < c.ahead.length := length_lt_of_mem_ends hp c e he
  exact forall₂_ends_few hp ih hef
termination_by c.ahead.length

/-- What only looks ends where it begins, and does so at both places or at neither. -/
theorem forall₂_here {P Q : Prop} [Decidable P] [Decidable Q] {c d : Cursor} (h : R c d) (hPQ : P ↔ Q) :
    List.Forall₂ R (if P then [c] else []) (if Q then [d] else []) := by
  by_cases hP : P
  · rw [if_pos hP, if_pos (hPQ.1 hP)]
    exact .cons h .nil
  · rw [if_neg hP, if_neg (mt hPQ.2 hP)]
    exact .nil

theorem atWordEdge_eq (hR : Lockstep R ahead behind) (hahead : ahead .wordChar = true)
    (hbehind : behind .wordChar = true) {c d : Cursor} (h : R c d) : atWordEdge c = atWordEdge d := by
  have hbefore : c.before.any Character.isWordChar = d.before.any Character.isWordChar := hR.lookBack h hbehind
  have hfirst : c.ahead.head?.any Character.isWordChar = d.ahead.head?.any Character.isWordChar := hR.look h hahead
  rw [atWordEdge, atWordEdge, hbefore, hfirst]

/-- From related places, a pattern ends at related places, in the same order of preference. -/
theorem forall₂_ends (hR : Lockstep R ahead behind) (hp : p.asksOnly ahead behind = true) {c d : Cursor} (h : R c d) :
    List.Forall₂ R (p.ends c) (p.ends d) := by
  induction p generalizing c d with
  | nothing => exact .cons h .nil
  | one k =>
    rw [ends_one, ends_one, ← hR.look h hp]
    split
    · exact .cons (hR.step h hp ‹_›) .nil
    · exact .nil
  | andThen p q ihp ihq =>
    obtain ⟨hp, hq⟩ := Bool.and_eq_true_iff.1 hp
    exact forall₂_flatMap (ihp hp h) fun _ _ _ h' => ihq hq h'
  | orElse p q ihp ihq =>
    obtain ⟨hp, hq⟩ := Bool.and_eq_true_iff.1 hp
    exact List.rel_append (ihp hp h) (ihq hq h)
  | many p ih =>
    obtain ⟨hconsumes, hp⟩ := Bool.and_eq_true_iff.1 hp
    exact forall₂_ends_many hconsumes (ih hp) h
  | few p ih =>
    obtain ⟨hconsumes, hp⟩ := Bool.and_eq_true_iff.1 hp
    exact forall₂_ends_few hconsumes (ih hp) h
  | peek p ih =>
    unfold ends
    rw [isEmpty_eq_of_forall₂ (ih hp h)]
    split
    · exact .nil
    · exact .cons h .nil
  | notPeek p ih =>
    unfold ends
    exact forall₂_here h (by rw [isEmpty_eq_of_forall₂ (ih hp h)])
  | behind k =>
    unfold ends
    exact forall₂_here h (by rw [hR.lookBack h hp])
  | notBehind k =>
    unfold ends
    rw [hR.lookBack h hp]
    split
    · exact .nil
    · exact .cons h .nil
  | wordEdge =>
    obtain ⟨hahead, hbehind⟩ := Bool.and_eq_true_iff.1 hp
    unfold ends
    exact forall₂_here h (by rw [hR.atWordEdge_eq hahead hbehind h])
  | textEnd =>
    unfold ends
    exact forall₂_here h (hR.atEnd h)

theorem exists_leads (hR : Lockstep R ahead behind) (hp : p.asksOnly ahead behind = true) {c d e : Cursor} (h : R c d)
    (he : p.Leads c e) : ∃ f, p.Leads d f ∧ R e f := by
  obtain ⟨f, hf, hef⟩ := exists_of_forall₂ (hR.forall₂_ends hp h) (mem_ends_iff.2 he)
  exact ⟨f, mem_ends_iff.1 hf, hef⟩

/-- If it fits at one of two related places it fits at the other, and ends at related places. -/
theorem rel_end? (hR : Lockstep R ahead behind) (hp : p.asksOnly ahead behind = true) {c d : Cursor} (h : R c d) :
    Option.Rel R (p.end? c) (p.end? d) :=
  rel_head?_of_forall₂ (hR.forall₂_ends hp h)

end Lockstep

end Pattern

end SqlDialects
