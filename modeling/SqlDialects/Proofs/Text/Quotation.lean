/-
Quoted texts: what stands between two marks, and reading it from left to right. A doubled mark stands
for one of its kind, a single one ends the text. Reading a text in which every mark has been doubled
gives the text back and stops exactly behind the closing mark (`readQuoted_double`), and a reader stops
at the last character exactly if the mark occurs in pairs only (`readQuoted_eq_some_nil_iff`).
-/
import SqlDialects.Text.Basic

namespace SqlDialects

namespace Text

/-- Reading on from behind an opening mark: what has been read up to the closing mark, and what follows
the closing mark. A doubled mark stands for one, and behind an escape character any character stands for
itself. There is nothing to answer if no mark closes the text. -/
def readQuoted (mark : Char) (escape : Option Char) : Text → Option (Text × Text)
  | [] => none
  | [c] => if c = mark then some ([], []) else none
  | c :: d :: rest =>
    if c = mark then
      if d = mark then (readQuoted mark escape rest).map fun r => (mark :: r.1, r.2)
      else some ([], d :: rest)
    else if escape = some c then (readQuoted mark escape rest).map fun r => (d :: r.1, r.2)
    else (readQuoted mark escape (d :: rest)).map fun r => (c :: r.1, r.2)

/-- The mark occurs in adjacent pairs only. -/
inductive InPairs (mark : Char) : Text → Prop
  | nil : InPairs mark []
  | pair {s : Text} : InPairs mark s → InPairs mark (mark :: mark :: s)
  | other {c : Char} {s : Text} : c ≠ mark → InPairs mark s → InPairs mark (c :: s)

section

variable {mark : Char} {escape : Option Char}

/-! ## One step of the reader -/

theorem readQuoted_pair (s : Text) :
    readQuoted mark escape (mark :: mark :: s) =
      (readQuoted mark escape s).map fun r => (mark :: r.1, r.2) := by
  rw [readQuoted, if_pos rfl, if_pos rfl]

/-- A mark that is not doubled ends the text. -/
theorem readQuoted_mark {s : Text} (hs : s.head? ≠ some mark) :
    readQuoted mark escape (mark :: s) = some ([], s) := by
  cases s with
  | nil => rw [readQuoted, if_pos rfl]
  | cons d s =>
    have hd : d ≠ mark := by simpa using hs
    rw [readQuoted, if_pos rfl, if_neg hd]

theorem readQuoted_escaped {c : Char} (hc : c ≠ mark) (d : Char) (s : Text) :
    readQuoted mark (some c) (c :: d :: s) =
      (readQuoted mark (some c) s).map fun r => (d :: r.1, r.2) := by
  rw [readQuoted, if_neg hc, if_pos rfl]

theorem readQuoted_other {c : Char} (hc : c ≠ mark) (he : escape ≠ some c) (s : Text) :
    readQuoted mark escape (c :: s) = (readQuoted mark escape s).map fun r => (c :: r.1, r.2) := by
  cases s with
  | nil => simp [readQuoted, hc]
  | cons d s => rw [readQuoted, if_neg hc, if_neg he]

/-! ## Reading what has been written -/

/-- If the reader takes the image of each character for that character, it takes the images of a whole
text for the text, and stops behind the mark that follows them. -/
theorem readQuoted_flatMap {image : Char → Text}
    (h : ∀ c s, readQuoted mark escape (image c ++ s) =
      (readQuoted mark escape s).map fun r => (c :: r.1, r.2))
    (s : Text) {rest : Text} (hrest : rest.head? ≠ some mark) :
    readQuoted mark escape (s.flatMap image ++ mark :: rest) = some (s, rest) := by
  induction s with
  | nil => exact readQuoted_mark hrest
  | cons c s ih => rw [List.flatMap_cons, List.append_assoc, h, ih, Option.map_some]

theorem readQuoted_double (s : Text) {rest : Text} (hrest : rest.head? ≠ some mark) :
    readQuoted mark none (s.double mark ++ mark :: rest) = some (s, rest) := by
  refine readQuoted_flatMap (fun c t => ?_) s hrest
  split
  · rename_i hc
    rw [hc]
    exact readQuoted_pair t
  · rename_i hc
    exact readQuoted_other hc (by simp) t

/-- With an escape character that has been doubled as well. -/
theorem readQuoted_double_double {e : Char} (he : e ≠ mark) (s : Text) {rest : Text}
    (hrest : rest.head? ≠ some mark) :
    readQuoted mark (some e) ((s.double mark).double e ++ mark :: rest) = some (s, rest) := by
  have image : (s.double mark).double e =
      s.flatMap fun c => (if c = mark then [mark, mark] else [c]).flatMap fun c =>
        if c = e then [e, e] else [c] := by
    unfold double
    rw [List.flatMap_assoc]
  rw [image]
  refine readQuoted_flatMap (fun c t => ?_) s hrest
  by_cases hc : c = mark
  · rw [hc, if_pos rfl]
    simp only [List.flatMap_cons, List.flatMap_nil, if_neg he.symm]
    exact readQuoted_pair t
  · rw [if_neg hc, List.flatMap_singleton]
    split
    · rename_i hce
      rw [hce]
      exact readQuoted_escaped he e t
    · rename_i hce
      exact readQuoted_other hc (by simpa using Ne.symm hce) t

/-! ## Undoing -/

theorem contract_cons_of_ne {a b c x : Char} (hx : x ≠ a) (s : Text) :
    contract a b c (x :: s) = x :: contract a b c s := by
  cases s with
  | nil => rfl
  | cons y s =>
    rw [contract, if_neg]
    exact fun h => hx h.1

theorem contract_pair (a b c : Char) (s : Text) :
    contract a b c (a :: b :: s) = c :: contract a b c s := by
  rw [contract, if_pos ⟨rfl, rfl⟩]

/-- Undoing the doubling of a mark gives the text back, whatever runs of the mark are in it. -/
theorem undouble_double (mark : Char) (s : Text) : (s.double mark).undouble mark = s := by
  unfold undouble double
  induction s with
  | nil => rfl
  | cons c s ih =>
    rw [List.flatMap_cons]
    split
    · rename_i hc
      rw [hc, List.cons_append, List.singleton_append, contract_pair, ih]
    · rename_i hc
      rw [List.singleton_append, contract_cons_of_ne hc, ih]

/-- Doubling a mark makes no text shorter. -/
theorem length_le_length_double (mark : Char) (s : Text) : s.length ≤ (s.double mark).length := by
  unfold double
  induction s with
  | nil => exact Nat.le_refl 0
  | cons c s ih =>
    rw [List.flatMap_cons, List.length_append, List.length_cons]
    split
    · rw [List.length_cons, List.length_singleton]
      omega
    · rw [List.length_singleton]
      omega

/-! ## Marks in pairs -/

theorem inPairs_double (mark : Char) (s : Text) : InPairs mark (s.double mark) := by
  unfold double
  induction s with
  | nil => exact .nil
  | cons c s ih =>
    rw [List.flatMap_cons]
    split
    · exact .pair ih
    · rename_i hc
      exact .other hc ih

theorem inPairs_of_notMem {s : Text} (h : mark ∉ s) : InPairs mark s := by
  induction s with
  | nil => exact .nil
  | cons c s ih =>
    rw [List.mem_cons, not_or] at h
    exact .other (Ne.symm h.1) (ih h.2)

/-- A text has its marks in pairs, or there is a first one that is in no pair. -/
theorem inPairs_or_exists (mark : Char) (s : Text) :
    InPairs mark s ∨ ∃ u v, s = u ++ mark :: v ∧ InPairs mark u ∧ v.head? ≠ some mark := by
  match s with
  | [] => exact .inl .nil
  | c :: s =>
    by_cases hc : c = mark
    · subst hc
      match s with
      | [] => exact .inr ⟨[], [], rfl, .nil, by simp⟩
      | d :: s =>
        by_cases hd : d = c
        · subst hd
          rcases inPairs_or_exists d s with h | ⟨u, v, rfl, hu, hv⟩
          · exact .inl (.pair h)
          · exact .inr ⟨d :: d :: u, v, rfl, .pair hu, hv⟩
        · exact .inr ⟨[], d :: s, rfl, .nil, by simpa using hd⟩
    · rcases inPairs_or_exists mark s with h | ⟨u, v, rfl, hu, hv⟩
      · exact .inl (.other hc h)
      · exact .inr ⟨c :: u, v, rfl, .other hc hu, hv⟩

/-- A reader reads a text and the mark behind it to the end. -/
theorem InPairs.exists_readQuoted {s : Text} (h : InPairs mark s) :
    ∃ r, readQuoted mark none (s ++ [mark]) = some (r, []) := by
  induction h with
  | nil => exact ⟨[], readQuoted_mark (by simp)⟩
  | @pair s _ ih =>
    obtain ⟨r, hr⟩ := ih
    refine ⟨mark :: r, ?_⟩
    rw [List.cons_append, List.cons_append, readQuoted_pair, hr, Option.map_some]
  | @other c s hc _ ih =>
    obtain ⟨r, hr⟩ := ih
    refine ⟨c :: r, ?_⟩
    rw [List.cons_append, readQuoted_other hc (by simp), hr, Option.map_some]

/-- Conversely, a reader that reads up to the last character has met pairs only. -/
theorem inPairs_of_readQuoted (s : Text) {r : Text} (h : readQuoted mark none (s ++ [mark]) = some (r, [])) :
    InPairs mark s := by
  match s with
  | [] => exact .nil
  | [c] =>
    by_cases hc : c = mark
    · -- the only mark left to close the text is the second one of a pair
      rw [hc, List.cons_append, List.nil_append, readQuoted_pair, readQuoted] at h
      cases h
    · exact .other hc .nil
  | c :: d :: s =>
    by_cases hc : c = mark
    · rw [hc] at h ⊢
      by_cases hd : d = mark
      · rw [hd] at h ⊢
        rw [List.cons_append, List.cons_append, readQuoted_pair] at h
        obtain ⟨r', hr', hr⟩ := Option.map_eq_some_iff.1 h
        obtain ⟨-, h2⟩ := Prod.mk.inj hr
        exact .pair (inPairs_of_readQuoted s (r := r'.1) (by rw [hr', ← h2]))
      · rw [List.cons_append, readQuoted_mark (by simpa using hd)] at h
        cases h
    · rw [List.cons_append, readQuoted_other hc (by simp)] at h
      obtain ⟨r', hr', hr⟩ := Option.map_eq_some_iff.1 h
      obtain ⟨-, h2⟩ := Prod.mk.inj hr
      exact .other hc (inPairs_of_readQuoted (d :: s) (r := r'.1) (by rw [hr', ← h2]))

/-- A reader stops exactly at the closing mark if and only if the mark occurs in pairs before it. -/
theorem readQuoted_eq_some_nil_iff (mark : Char) (s : Text) :
    (∃ r, readQuoted mark none (s ++ [mark]) = some (r, [])) ↔ InPairs mark s :=
  ⟨fun ⟨_, h⟩ => inPairs_of_readQuoted s h, InPairs.exists_readQuoted⟩

end

end Text

end SqlDialects
