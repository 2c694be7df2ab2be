/-
Places in a text. A place knows the character before it and what lies ahead, which is all that the
rules of the lexer look at.
-/
import SqlDialects.Text.Basic

namespace SqlDialects

/-- A place in a text: the character before it, if there is one, and the characters ahead. -/
structure Cursor where
  before : Option Char
  ahead : List Char
deriving DecidableEq, Repr

namespace Cursor

/-- The first place of a text. -/
def start (s : Text) : Cursor := ⟨none, s⟩

/-- The place `n` characters further on, or the end of the text. -/
def skip (n : Nat) (c : Cursor) : Cursor :=
  match n, c with
  | n + 1, ⟨_, a :: rest⟩ => skip n ⟨some a, rest⟩
  | _, c => c

/-- The characters from one place up to a later one of the same text. -/
def upTo (c d : Cursor) : Text := c.ahead.take (c.ahead.length - d.ahead.length)

/-- Whether the place is the first of the text or follows a line feed. -/
def atLineStart (c : Cursor) : Bool := c.before == none || c.before == some '\n'

/-! ## Going further -/

theorem skip_zero (c : Cursor) : c.skip 0 = c := by
  obtain ⟨_, _ | _⟩ := c <;> simp [skip]

theorem skip_of_ahead_nil {c : Cursor} (hc : c.ahead = []) (n : Nat) : c.skip n = c := by
  obtain ⟨b, s⟩ := c
  subst hc
  cases n <;> simp [skip]

theorem skip_skip (m n : Nat) (c : Cursor) : (c.skip m).skip n = c.skip (m + n) := by
  induction m generalizing c with
  | zero => rw [skip_zero, Nat.zero_add]
  | succ m ih =>
    obtain ⟨b, _ | ⟨a, s⟩⟩ := c
    · rw [skip_of_ahead_nil rfl, skip_of_ahead_nil rfl, skip_of_ahead_nil rfl]
    · rw [Nat.succ_add]
      exact ih ⟨some a, s⟩

/-- Going on leaves the characters behind that have been passed. -/
theorem ahead_skip (n : Nat) (c : Cursor) : (c.skip n).ahead = c.ahead.drop n := by
  induction n generalizing c with
  | zero => rw [skip_zero, List.drop_zero]
  | succ n ih =>
    obtain ⟨b, _ | ⟨a, s⟩⟩ := c
    · rw [skip_of_ahead_nil rfl, List.drop_nil]
    · exact ih ⟨some a, s⟩

theorem length_skip_le (n : Nat) (c : Cursor) : (c.skip n).ahead.length ≤ c.ahead.length := by
  simp [ahead_skip]

theorem length_skip_lt {n : Nat} {c : Cursor} (hn : n ≠ 0) (hc : c.ahead ≠ []) :
    (c.skip n).ahead.length < c.ahead.length := by
  have := List.length_pos_iff.2 hc
  rw [ahead_skip, List.length_drop]
  omega

/-- What lies between a place and a later one, and what lies ahead of the later one, is what lies ahead
of the first. -/
theorem upTo_append_ahead_skip (n : Nat) (c : Cursor) :
    c.upTo (c.skip n) ++ (c.skip n).ahead = c.ahead := by
  rw [upTo, ahead_skip, List.length_drop]
  rcases Nat.le_total n c.ahead.length with h | h
  · rw [Nat.sub_sub_self h, List.take_append_drop]
  · rw [Nat.sub_eq_zero_of_le h, Nat.sub_zero, List.take_length, List.drop_eq_nil_of_le h, List.append_nil]

end Cursor

end SqlDialects
