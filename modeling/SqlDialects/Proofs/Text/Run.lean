/-
The run of characters that a text begins with as long as a test holds, and what follows it. A text is cut there in
one way only. The first line of a text is one such run.
-/
import Mathlib.Data.List.TakeWhile
import SqlDialects.Text.Basic

namespace SqlDialects

namespace Text

variable {p : Char → Bool} {u v w : Text}

/-! ## Runs -/

/-- A run ends where the test fails for the first time. -/
theorem takeWhile_append_of_head (hu : ∀ a ∈ u, p a = true) (hv : ∀ a ∈ v.head?, p a = false) :
    (u ++ v).takeWhile p = u := by
  rw [List.takeWhile_append_of_pos hu]
  cases v with
  | nil => rw [List.takeWhile_nil, List.append_nil]
  | cons a v => rw [List.takeWhile_cons_of_neg (by simp [hv a rfl]), List.append_nil]

theorem dropWhile_append_of_head (hu : ∀ a ∈ u, p a = true) (hv : ∀ a ∈ v.head?, p a = false) :
    (u ++ v).dropWhile p = v := by
  rw [List.dropWhile_append_of_pos hu]
  cases v with
  | nil => rw [List.dropWhile_nil]
  | cons a v => rw [List.dropWhile_cons_of_neg (by simp [hv a rfl])]

theorem head?_dropWhile (p : Char → Bool) (s : Text) : ∀ a ∈ (s.dropWhile p).head?, p a = false := by
  intro a ha
  have hfirst := List.head?_dropWhile_not p s
  rwa [Option.mem_def.1 ha] at hfirst

/-! ## Lines -/

/-- What begins a text in two pieces, but has not the character that the second one begins with, begins the first. -/
theorem prefix_of_prefix_append (hv : ∀ a ∈ v.head?, a ∉ w) (h : w <+: u ++ v) : w <+: u := by
  rcases List.prefix_or_prefix_of_prefix h (List.prefix_append u v) with hw | ⟨q, rfl⟩
  · exact hw
  · cases q with
    | nil => simp
    | cons a q =>
      obtain ⟨t, rfl⟩ := (List.prefix_append_right_inj u).1 h
      exact absurd (by simp) (hv a rfl)

/-- A line comes to its end with the text or with a line feed. -/
theorem takeWhile_line {l s : Text} (hl : '\n' ∉ l) (hend : ∀ b ∈ s.head?, b = '\n') :
    (l ++ s).takeWhile (· ≠ '\n') = l ∧ (l ++ s).dropWhile (· ≠ '\n') = s := by
  have hline : ∀ b ∈ l, decide (b ≠ '\n') = true := fun b hb => decide_eq_true (ne_of_mem_of_not_mem hb hl)
  have hstop : ∀ b ∈ s.head?, decide (b ≠ '\n') = false := fun b hb => by simp [hend b hb]
  exact ⟨takeWhile_append_of_head hline hstop, dropWhile_append_of_head hline hstop⟩

/-- The first line of a text, and what follows it. -/
theorem takeWhile_append_dropWhile_line (s : Text) :
    s.takeWhile (· ≠ '\n') ++ s.dropWhile (· ≠ '\n') = s ∧ '\n' ∉ s.takeWhile (· ≠ '\n') ∧
      ∀ b ∈ (s.dropWhile (· ≠ '\n')).head?, b = '\n' := by
  refine ⟨List.takeWhile_append_dropWhile, fun hmem => ?_, fun b hb => ?_⟩
  · simpa using List.mem_takeWhile_imp hmem
  · simpa using head?_dropWhile _ s b hb

end Text

end SqlDialects
