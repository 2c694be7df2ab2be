/-
What a pattern can do where only an outline of the text is known: for some places which characters may
stand there, and nothing beyond. From the outline alone `Outline.reach` computes where a pattern may
lead; places beyond the outline count as one. It leaves out no place that the pattern leads to in a text
of that outline (`Outline.exists_mem_reach`), so a pattern that reaches nothing does not fit
(`Outline.not_leads`), and one that stays within the outline leads to one of the places that it reaches
(`Outline.exists_mem_reach`).
-/
import SqlDialects.Proofs.Statement.Meaning

namespace SqlDialects

open Relation

/-! ## Single characters -/

namespace CharClass

/-- Whether the class may hold of a blank. -/
def mayHoldBlank : CharClass → Bool
  | exactly d => Character.isBlank d
  | letter d => Character.isBlank d || Character.isBlank d.toLower || (lookAlikes d).any Character.isBlank
  | oneOf cs => cs.any Character.isBlank
  | noneOf _ => true
  | wordChar => false
  | decimalDigit => false
  | blank => true
  | nameStart => false
  | either k l => k.mayHoldBlank || l.mayHoldBlank

theorem mayHoldBlank_of_holds {k : CharClass} {a : Char} (hk : k.holds a = true)
    (ha : Character.isBlank a = true) : k.mayHoldBlank = true := by
  induction k with
  | exactly d =>
    obtain rfl : a = d := beq_iff_eq.1 hk
    exact ha
  | letter d =>
    simp only [holds, Bool.or_eq_true, beq_iff_eq, List.contains_iff_mem] at hk
    simp only [mayHoldBlank, Bool.or_eq_true, List.any_eq_true]
    rcases hk with (rfl | rfl) | hk
    · exact .inl (.inl ha)
    · exact .inl (.inr ha)
    · exact .inr ⟨a, hk, ha⟩
  | oneOf cs => exact List.any_eq_true.2 ⟨a, List.contains_iff_mem.1 hk, ha⟩
  | noneOf cs => rfl
  | wordChar => rw [holds, Character.isWordChar_of_isBlank ha] at hk; cases hk
  | decimalDigit => rw [holds, Character.isDecimalDigit_of_isBlank ha] at hk; cases hk
  | blank => rfl
  | nameStart => rw [holds, Character.isNameStart_of_isBlank ha] at hk; cases hk
  | either k l ihk ihl =>
    simp only [holds, Bool.or_eq_true] at hk
    simp only [mayHoldBlank, Bool.or_eq_true]
    exact hk.imp ihk ihl

end CharClass

/-- What is known of the character at some place. -/
inductive Sight
  | anything
  /-- There is none: the text begins or ends. -/
  | missing
  | among (cs : List Char)
  | blankOrMissing
deriving DecidableEq

namespace Sight

def Admits : Sight → Option Char → Prop
  | anything, _ => True
  | missing, x => x = none
  | among cs, x => ∃ a ∈ cs, x = some a
  | blankOrMissing, x => ∀ a ∈ x, Character.isBlank a = true

/-- Whether there may be a character of the class (or may not be one). -/
def mayBe (k : CharClass) (v : Bool) : Sight → Bool
  | anything => true
  | missing => !v
  | among cs => cs.any fun a => k.holds a == v
  | blankOrMissing => !v || k.mayHoldBlank

theorem mayBe_of_admits {s : Sight} {x : Option Char} (h : s.Admits x) (k : CharClass) :
    s.mayBe k (x.any k.holds) = true := by
  cases s with
  | anything => rfl
  | missing =>
    obtain rfl : x = none := h
    rfl
  | among cs =>
    obtain ⟨a, ha, rfl⟩ := h
    exact List.any_eq_true.2 ⟨a, ha, beq_self_eq_true _⟩
  | blankOrMissing =>
    simp only [mayBe, Bool.or_eq_true]
    cases x with
    | none => exact .inl rfl
    | some a =>
      cases hk : k.holds a with
      | false => exact .inl (by simp [hk])
      | true => exact .inr (CharClass.mayHoldBlank_of_holds hk (h a rfl))

end Sight

/-! ## Outlines -/

/-- What is known of a text around a place: the character before it, and those ahead up to some length. -/
structure Outline where
  previous : Sight
  ahead : List Sight

namespace Outline

def Fits (o : Outline) (c : Cursor) : Prop :=
  o.previous.Admits c.before ∧ ∀ (i : Nat) (s : Sight), o.ahead[i]? = some s → s.Admits c.ahead[i]?

def size (o : Outline) : Nat := o.ahead.length

/-- What is known of the character ahead of the place `i`. -/
def sightAhead (o : Outline) (i : Nat) : Sight := o.ahead.getD i .anything

/-- What is known of the character before the place `i`. -/
def sightBefore (o : Outline) (i : Nat) : Sight :=
  if o.size ≤ i then .anything else (o.previous :: o.ahead).getD i .anything

variable {o : Outline} {c : Cursor} {j : Nat}

theorem admits_sightAhead (ho : o.Fits c) :
    (o.sightAhead (min j o.size)).Admits (c.skip j).ahead.head? := by
  rw [Cursor.ahead_skip, List.head?_drop]
  rcases Nat.lt_or_ge j o.size with hj | hj
  · rw [Nat.min_eq_left (Nat.le_of_lt hj)]
    have hget : o.ahead[j]? = some (o.sightAhead j) := by
      simp only [sightAhead, List.getD_eq_getElem?_getD]
      rw [List.getElem?_eq_getElem hj, Option.getD_some]
    exact ho.2 j _ hget
  · have hget : o.ahead[o.size]? = none := List.getElem?_eq_none (Nat.le_refl _)
    rw [Nat.min_eq_right hj, sightAhead, List.getD_eq_getElem?_getD, hget]
    trivial

theorem admits_sightBefore (ho : o.Fits c) (hj : j ≤ c.ahead.length) :
    (o.sightBefore (min j o.size)).Admits (c.skip j).before := by
  unfold sightBefore
  by_cases hsize : o.size ≤ j
  · rw [Nat.min_eq_right hsize, if_pos (Nat.le_refl _)]
    trivial
  · rw [Nat.min_eq_left (Nat.le_of_not_le hsize), if_neg hsize]
    cases j with
    | zero => rw [Cursor.skip_zero]; exact ho.1
    | succ j =>
      have hbefore : (c.skip (j + 1)).before = c.ahead[j]? := Cursor.before_skip_succ hj
      have hget : o.ahead[j]? = some ((o.previous :: o.ahead).getD (j + 1) .anything) := by
        rw [List.getD_cons_succ, List.getD_eq_getElem?_getD,
          List.getElem?_eq_getElem (by unfold size at hsize; omega), Option.getD_some]
      rw [hbefore]
      exact ho.2 j _ hget

/-! ## Where a pattern may lead -/

/-- The places reached by doing a step up to `n` times, as far as each step goes further. -/
def reachMany (step : Nat → List Nat) : Nat → Nat → List Nat
  | 0, i => [i]
  | n + 1, i => i :: ((step i).filter (i < ·)).flatMap (reachMany step n)

/-- Whether a word may begin or end at the place `i`. -/
def mayBeWordEdge (o : Outline) (i : Nat) : Bool :=
  [true, false].any fun v =>
    (o.sightBefore i).mayBe .wordChar v && (o.sightAhead i).mayBe .wordChar (!v)

/-- The places to which a pattern may lead from the place `i`, those beyond the outline being one. -/
def reach (o : Outline) : Pattern → Nat → List Nat
  | .nothing, i => [i]
  | .one k, i => if (o.sightAhead i).mayBe k true then [min (i + 1) o.size] else []
  | .andThen p q, i => (o.reach p i).flatMap fun j => o.reach q j
  | .orElse p q, i => o.reach p i ++ o.reach q i
  | .many p, i => reachMany (fun j => o.reach p j) (o.size - i) i
  | .few p, i => reachMany (fun j => o.reach p j) (o.size - i) i
  | .peek p, i => if (o.reach p i).isEmpty then [] else [i]
  | .notPeek _, i => [i]
  | .behind k, i => if (o.sightBefore i).mayBe k true then [i] else []
  | .notBehind k, i => if (o.sightBefore i).mayBe k false then [i] else []
  | .wordEdge, i => if o.mayBeWordEdge i then [i] else []
  | .textEnd, i => [i]

/-! ## No place is left out -/

/-- The place `d` lies at the place `j` of the text or behind it, and the outline counts it among the places. -/
def Covers (o : Outline) (c : Cursor) (j : Nat) (d : Cursor) (places : List Nat) : Prop :=
  ∃ k, j ≤ k ∧ k ≤ c.ahead.length ∧ d = c.skip k ∧ min k o.size ∈ places

variable {d : Cursor} {places : List Nat}

theorem covers_here (hj : j ≤ c.ahead.length) (hd : d = c.skip j) (h : min j o.size ∈ places) :
    o.Covers c j d places :=
  ⟨j, Nat.le_refl j, hj, hd, h⟩

/-- The steps of a repetition that stay where they are lead nowhere else, and there are no more others
than places left. -/
theorem covers_reachMany {step : Cursor → Cursor → Prop} {next : Nat → List Nat}
    (hstep : ∀ {j d}, j ≤ c.ahead.length → step (c.skip j) d → o.Covers c j d (next (min j o.size)))
    {n : Nat} (hj : j ≤ c.ahead.length) (hn : o.size - min j o.size ≤ n)
    (h : ReflTransGen step (c.skip j) d) : o.Covers c j d (reachMany next n (min j o.size)) := by
  generalize he : c.skip j = e at h
  induction h using ReflTransGen.head_induction_on generalizing j n with
  | refl =>
    refine covers_here hj he.symm ?_
    cases n with
    | zero => exact List.mem_singleton.2 rfl
    | succ n => exact List.mem_cons_self
  | head hfirst _ ih =>
    subst he
    obtain ⟨i, hji, hi, rfl, hmem⟩ := hstep hj hfirst
    by_cases hstay : min i o.size = min j o.size
    · obtain ⟨k, hik, hk, hd, hreach⟩ := ih hi (hstay ▸ hn) rfl
      exact ⟨k, Nat.le_trans hji hik, hk, hd, hstay ▸ hreach⟩
    · have hfurther : min j o.size < min i o.size := by omega
      obtain ⟨n, rfl⟩ : ∃ n', n = n' + 1 := ⟨n - 1, by omega⟩
      have hleft : o.size - min i o.size ≤ n := by omega
      obtain ⟨k, hik, hk, hd, hreach⟩ := ih hi hleft rfl
      refine ⟨k, Nat.le_trans hji hik, hk, hd, List.mem_cons_of_mem _ ?_⟩
      rw [List.mem_flatMap]
      exact ⟨_, List.mem_filter.2 ⟨hmem, decide_eq_true hfurther⟩, hreach⟩

theorem mayBeWordEdge_of_atWordEdge (ho : o.Fits c) (hj : j ≤ c.ahead.length)
    (h : Pattern.atWordEdge (c.skip j) = true) : o.mayBeWordEdge (min j o.size) = true := by
  have hbefore := Sight.mayBe_of_admits (admits_sightBefore ho hj) .wordChar
  have hahead := Sight.mayBe_of_admits (admits_sightAhead (j := j) ho) .wordChar
  have hdiffer : (c.skip j).ahead.head?.any Character.isWordChar =
      !(c.skip j).before.any Character.isWordChar := by
    rw [Pattern.atWordEdge, bne_iff_ne] at h
    rw [Bool.eq_not, ne_comm]
    exact h
  refine List.any_eq_true.2 ⟨(c.skip j).before.any Character.isWordChar, ?_, ?_⟩
  · cases (c.skip j).before.any Character.isWordChar <;> simp
  · rw [Bool.and_eq_true, ← hdiffer]
    exact ⟨hbefore, hahead⟩

/-- What only looks stays where it is, if the outline lets it see what it looks for. -/
theorem covers_look {v : Bool} (hj : j ≤ c.ahead.length) (hd : d = c.skip j) (hv : v = true) :
    o.Covers c j d (if v then [min j o.size] else []) :=
  covers_here hj hd (by rw [if_pos hv]; exact List.mem_singleton.2 rfl)

/-- A character is there only if the outline lets it be. -/
theorem covers_reach_one (ho : o.Fits c) {k : CharClass} (hj : j ≤ c.ahead.length)
    (h : (Pattern.one k).Leads (c.skip j) d) : o.Covers c j d (o.reach (.one k) (min j o.size)) := by
  obtain ⟨a, ha, hpass, hd⟩ := Pattern.leads_one_iff.1 h
  rw [Cursor.skip_skip] at hd
  have hsight := Sight.mayBe_of_admits (admits_sightAhead (j := j) ho) k
  have hhead : (c.skip j).ahead.head?.any k.holds = true := by
    rw [hpass]
    exact ha
  have hlt : j < c.ahead.length := by
    have hlength := congrArg List.length hpass
    rw [Cursor.ahead_skip, List.length_drop, List.length_append, List.length_singleton] at hlength
    omega
  rw [hhead] at hsight
  refine ⟨j + 1, Nat.le_succ j, hlt, hd, ?_⟩
  rw [reach, if_pos hsight, List.mem_singleton]
  omega

theorem Covers.mono {more : List Nat} (h : o.Covers c j d places) (hmore : ∀ i ∈ places, i ∈ more) :
    o.Covers c j d more := by
  obtain ⟨k, hjk, hk, hd, hmem⟩ := h
  exact ⟨k, hjk, hk, hd, hmore _ hmem⟩

/-- In a text of the outline a pattern leads only to places that the outline reaches. -/
theorem covers_reach (ho : o.Fits c) {p : Pattern} (hj : j ≤ c.ahead.length)
    (h : p.Leads (c.skip j) d) : o.Covers c j d (o.reach p (min j o.size)) := by
  induction p generalizing j d with
  | nothing => exact covers_here hj h (List.mem_singleton.2 rfl)
  | one k => exact covers_reach_one ho hj h
  | andThen p q ihp ihq =>
    obtain ⟨e, hp, hq⟩ := h
    obtain ⟨i, hji, hi, rfl, hmem⟩ := ihp hj hp
    obtain ⟨k, hik, hk, hd, hmem'⟩ := ihq hi hq
    refine ⟨k, Nat.le_trans hji hik, hk, hd, ?_⟩
    rw [reach, List.mem_flatMap]
    exact ⟨_, hmem, hmem'⟩
  | orElse p q ihp ihq =>
    rcases h with h | h
    · exact (ihp hj h).mono fun _ => List.mem_append_left _
    · exact (ihq hj h).mono fun _ => List.mem_append_right _
  | many p ih | few p ih => exact covers_reachMany ih hj (Nat.le_refl _) h
  | peek p ih =>
    obtain ⟨hd, e, he⟩ := h
    obtain ⟨k, -, -, -, hmem⟩ := ih hj he
    refine covers_here hj hd ?_
    rw [reach, if_neg (by rw [List.isEmpty_iff]; exact List.ne_nil_of_mem hmem)]
    exact List.mem_singleton.2 rfl
  | notPeek p | textEnd => exact covers_here hj h.1 (List.mem_singleton.2 rfl)
  | behind k | notBehind k =>
    have hsight := Sight.mayBe_of_admits (admits_sightBefore ho hj) k
    rw [h.2] at hsight
    exact covers_look hj h.1 hsight
  | wordEdge => exact covers_look hj h.1 (mayBeWordEdge_of_atWordEdge ho hj h.2)

/-- A pattern that reaches no place of the outline does not fit. -/
theorem not_leads (ho : o.Fits c) {p : Pattern} (hj : j ≤ c.ahead.length)
    (h : o.reach p (min j o.size) = []) : ¬ p.Leads (c.skip j) d := by
  intro hlead
  obtain ⟨k, -, -, -, hmem⟩ := covers_reach ho hj hlead
  rw [h] at hmem
  cases hmem

theorem not_leads_here (ho : o.Fits c) {p : Pattern} (h : o.reach p 0 = []) : ¬ p.Leads c d := by
  rw [← c.skip_zero]
  exact not_leads ho (Nat.zero_le _) (by rw [Nat.zero_min]; exact h)

/-- A pattern that reaches nothing beyond the outline leads to one of the places that it reaches. -/
theorem exists_mem_reach (ho : o.Fits c) {p : Pattern} (h : ∀ i ∈ o.reach p 0, i < o.size)
    (hlead : p.Leads c d) : ∃ i ∈ o.reach p 0, d = c.skip i := by
  rw [← c.skip_zero] at hlead
  obtain ⟨k, -, -, hd, hmem⟩ := covers_reach ho (Nat.zero_le _) hlead
  rw [Nat.zero_min] at hmem
  have hlt := h _ hmem
  rw [Nat.min_eq_left (by omega)] at hmem
  exact ⟨k, hmem, hd⟩

end Outline

end SqlDialects
