/-
The views of a registry agree. Whatever history its builder has, the list of all words is ascending and holds
exactly the words of the table, each of them is found by itself, by its classification and by everything that it
begins with, and functions and types are among them (`agrees_of_history`). What a builder keeps for this is
that its words are in upper case and that its functions and types are words (`Coherent`): every single event
keeps it, so every history does.
-/
import SqlDialects.Proofs.Text.UpperCase
import SqlDialects.Proofs.Word.History
import SqlDialects.Proofs.Word.Search

namespace SqlDialects

/-- All views of the registry agree. -/
structure Registry.Agrees (r : Registry) : Prop where
  /-- The list of all words is strictly ascending. -/
  ascending : r.reservedWords.Pairwise (· < ·)
  /-- It holds exactly the words of the table. -/
  listed : ∀ w, w ∈ r.reservedWords ↔ r.words.contains w = true
  /-- Every word is its own upper case. -/
  upper : ∀ w ∈ r.reservedWords, w.upper = w
  contained : ∀ w ∈ r.reservedWords, r.contains w = true
  classified : ∀ w ∈ r.reservedWords, r.classify w ≠ none
  /-- Every word is found by whatever it begins with, in any case of letters. -/
  found : ∀ w ∈ r.reservedWords, ∀ start : Text, start.upper <+: w → w ∈ r.matchesOf start
  functions : ∀ w, r.functions.contains w = true → w ∈ r.reservedWords
  types : ∀ w, r.types.contains w = true → w ∈ r.reservedWords

namespace Builder

/-! ## What a builder keeps -/

/-- The words are in upper case, and functions and types are words. -/
structure Coherent (b : Builder) : Prop where
  upper : ∀ w, b.words.contains w = true → w.upper = w
  functions : ∀ w, b.functions.contains w = true → b.words.contains w = true
  types : ∀ w, b.types.contains w = true → b.words.contains w = true

theorem coherent_empty : Coherent {} :=
  ⟨fun _ h => (Bool.false_ne_true h).elim, fun _ h => (Bool.false_ne_true h).elim,
    fun _ h => (Bool.false_ne_true h).elim⟩

/-- An event makes its word a word, or takes it out. -/
theorem contains_words_meet (b : Builder) (e : Event) (u : Text) :
    (b.meet e).words.contains u =
      if e.word.upper = u then decide (e.change ≠ .unregister) else b.words.contains u := by
  unfold WordMap.contains
  rw [get?_words_meet]
  split
  · rw [Option.isSome_map]
    cases e.change <;> rfl
  · rfl

section

variable {b : Builder}

theorem Coherent.upper_meet (hb : b.Coherent) (e : Event) {w : Text}
    (h : (b.meet e).words.contains w = true) : w.upper = w := by
  rw [contains_words_meet] at h
  split at h
  · rename_i hw
    rw [← hw, Text.upper_upper]
  · exact hb.upper w h

/-- What takes a word out of the words takes it out of the functions as well. -/
theorem Coherent.functions_meet (hb : b.Coherent) (e : Event) {w : Text}
    (h : (b.meet e).functions.contains w = true) : (b.meet e).words.contains w = true := by
  rw [contains_functions_meet] at h
  rw [contains_words_meet]
  split at h
  · rename_i hw
    rw [if_pos hw]
    cases hchange : e.change with
    | unregister | turnIntoKeyword =>
      rw [hchange] at h
      cases h
    | register | addFunction | addType => rfl
  · rename_i hw
    rw [if_neg hw]
    exact hb.functions w h

/-- What takes a word out of the words takes it out of the types as well. -/
theorem Coherent.types_meet (hb : b.Coherent) (e : Event) {w : Text}
    (h : (b.meet e).types.contains w = true) : (b.meet e).words.contains w = true := by
  rw [contains_types_meet] at h
  rw [contains_words_meet]
  split at h
  · rename_i hw
    rw [if_pos hw]
    cases hchange : e.change with
    | unregister =>
      rw [hchange] at h
      cases h
    | register | addFunction | addType | turnIntoKeyword => rfl
  · rename_i hw
    rw [if_neg hw]
    exact hb.types w h

/-- The step lemma: no event breaks what a builder keeps. -/
theorem Coherent.meet (hb : b.Coherent) (e : Event) : (b.meet e).Coherent :=
  ⟨fun _ => hb.upper_meet e, fun _ => hb.functions_meet e, fun _ => hb.types_meet e⟩

end

/-- The run lemma: a builder is coherent after any history. -/
theorem coherent_run (operations : List Operation) : (run operations).Coherent := by
  rw [run_eq_foldl]
  induction history operations using List.reverseRecOn with
  | nil => exact coherent_empty
  | append_singleton events e ih =>
    rw [List.foldl_concat]
    exact ih.meet e

/-! ## What a registry shows -/

theorem Coherent.agrees_build {b : Builder} (hb : b.Coherent) : b.build.Agrees := by
  have hlisted : ∀ w, w ∈ b.build.reservedWords ↔ b.words.contains w = true := b.words.mem_keys_iff
  have hupper : ∀ w ∈ b.build.reservedWords, w.upper = w := fun w hw => hb.upper w ((hlisted w).1 hw)
  -- a word is looked up by its upper case, which is the word itself
  have hcontained : ∀ w ∈ b.build.reservedWords, b.build.contains w = true := by
    intro w hw
    rw [Registry.contains, hupper w hw]
    exact (hlisted w).1 hw
  refine ⟨b.build.pairwise_reservedWords, hlisted, hupper, hcontained, ?_, ?_, ?_, ?_⟩
  · intro w hw
    exact Option.isSome_iff_ne_none.1 (hcontained w hw)
  · intro w hw start hstart
    rw [Registry.matchesOf_eq_filter, List.mem_filter]
    exact ⟨hw, List.isPrefixOf_iff_prefix.2 hstart⟩
  · exact fun w hw => (hlisted w).2 (hb.functions w hw)
  · exact fun w hw => (hlisted w).2 (hb.types w hw)

/-- After any history of a builder, all views of the registry that is built agree. -/
theorem agrees_of_history (operations : List Operation) : (run operations).build.Agrees :=
  (coherent_run operations).agrees_build

end Builder

end SqlDialects
