/-
What a registry says after any history of its builder. The history is told word by word, as events. The
main statement (`registry_of_history`) reads the answers off the events alone: a word is what it has been
registered as since it was last taken out, keywords first, and it is a function or a type if it has been
added as one and nothing has taken it out again.
-/
import Mathlib.Data.List.DropRight
import SqlDialects.Word.Registry

namespace SqlDialects

/-! ## Sets of words -/

namespace WordSet

theorem contains_add (s : WordSet) (w u : Text) :
    (s.add w).contains u = if w = u then true else s.contains u := by
  unfold add WordMap.contains
  rw [WordMap.get?_insert]
  by_cases h : u = w
  · rw [if_pos h, if_pos h.symm]
    rfl
  · rw [if_neg h, if_neg (Ne.symm h)]

theorem contains_erase (s : WordSet) (w u : Text) :
    WordMap.contains (WordMap.erase s w) u = if w = u then false else s.contains u := by
  unfold WordMap.contains
  rw [WordMap.get?_erase]
  by_cases h : u = w
  · rw [if_pos h, if_pos h.symm]
    rfl
  · rw [if_neg h, if_neg (Ne.symm h)]

end WordSet

namespace Builder

/-! ## Histories -/

/-- What can be done to a builder. -/
inductive Operation
  | register (word : Text) (kind : WordKind)
  | unregister (word : Text)
  | addKeywords (words : List Text)
  | addFunctions (words : List Text)
  | addTypes (words : List Text)
  | turnFunctionIntoKeyword (word : Text)
  /-- The builder is frozen, and a new one started from the registry. -/
  | rebuild

def perform (b : Builder) : Operation → Builder
  | .register word kind => b.register word kind
  | .unregister word => b.unregister word
  | .addKeywords words => b.addKeywords words
  | .addFunctions words => b.addFunctions words
  | .addTypes words => b.addTypes words
  | .turnFunctionIntoKeyword word => b.turnFunctionIntoKeyword word
  | .rebuild => b.build.toBuilder

/-- The builder after a history that begins with an empty one. -/
def run (operations : List Operation) : Builder := operations.foldl perform {}

/-- What can happen to a word. -/
inductive Change
  | register (kind : WordKind)
  | addFunction
  | addType
  | turnIntoKeyword
  | unregister
deriving DecidableEq

/-- What the word is registered as. -/
def Change.kind? : Change → Option WordKind
  | register kind => some kind
  | addFunction => some .function
  | addType => some .dataType
  | turnIntoKeyword => some .keyword
  | unregister => none

structure Event where
  word : Text
  change : Change

/-- What an operation does, word by word. -/
def Operation.events : Operation → List Event
  | register word kind => [⟨word, .register kind⟩]
  | unregister word => [⟨word, .unregister⟩]
  | addKeywords words => words.map fun word => ⟨word, .register .keyword⟩
  | addFunctions words => words.map fun word => ⟨word, .addFunction⟩
  | addTypes words => words.map fun word => ⟨word, .addType⟩
  | turnFunctionIntoKeyword word => [⟨word, .turnIntoKeyword⟩]
  | rebuild => []

/-- A history, word by word. -/
def history (operations : List Operation) : List Event := operations.flatMap Operation.events

/-- What the word with the upper case `u` has been registered as since it was last taken out, in order. -/
def kindsSince (u : Text) (events : List Event) : List WordKind :=
  ((events.filter fun e => e.word.upper = u).rtakeWhile fun e => e.change ≠ .unregister).filterMap
    fun e => e.change.kind?

/-- Some event sets something, and none after it clears it. -/
def Prevails (sets clears : Event → Prop) (events : List Event) : Prop :=
  ∃ before e after, events = before ++ e :: after ∧ sets e ∧ ∀ x ∈ after, ¬ clears x

/-! ## Operations as events -/

def meet (b : Builder) (e : Event) : Builder :=
  match e.change with
  | .register kind => b.register e.word kind
  | .addFunction => b.addFunction e.word
  | .addType => b.addType e.word
  | .turnIntoKeyword => b.turnFunctionIntoKeyword e.word
  | .unregister => b.unregister e.word

/-- Freezing a builder and starting again loses nothing. -/
theorem toBuilder_build (b : Builder) : b.build.toBuilder = b := rfl

theorem perform_eq_foldl (b : Builder) (o : Operation) : b.perform o = o.events.foldl meet b := by
  cases o with
  | register | unregister | turnFunctionIntoKeyword => rfl
  | addKeywords | addFunctions | addTypes =>
    rw [Operation.events, List.foldl_map]
    rfl
  | rebuild => exact b.toBuilder_build

theorem run_eq_foldl (operations : List Operation) :
    run operations = (history operations).foldl meet {} := by
  unfold run history
  rw [List.foldl_flatMap]
  congr 1
  funext b o
  exact b.perform_eq_foldl o

/-! ## What a word is -/

theorem get?_words_register (b : Builder) (word u : Text) (kind : WordKind) :
    (b.register word kind).words.get? u =
      if word.upper = u then some (if b.words.get? u = some .keyword then .keyword else kind)
      else b.words.get? u := by
  unfold register
  by_cases hu : word.upper = u
  · subst hu
    rw [if_pos rfl]
    split
    · assumption
    · rw [WordMap.get?_insert, if_pos rfl]
  · rw [if_neg hu]
    split
    · rfl
    · rw [WordMap.get?_insert, if_neg (Ne.symm hu)]

/-- A word stays a keyword until it is taken out; otherwise the event decides what it is. -/
theorem get?_words_meet (b : Builder) (e : Event) (u : Text) :
    (b.meet e).words.get? u =
      if e.word.upper = u then
        e.change.kind?.map fun kind => if b.words.get? u = some .keyword then .keyword else kind
      else b.words.get? u := by
  obtain ⟨word, change⟩ := e
  cases change with
  | register kind => exact b.get?_words_register word u kind
  | addFunction => exact b.get?_words_register word u .function
  | addType => exact b.get?_words_register word u .dataType
  | turnIntoKeyword => exact get?_words_register _ word u .keyword
  | unregister =>
    refine (WordMap.get?_erase b.words word.upper u).trans ?_
    by_cases hu : word.upper = u
    · rw [if_pos hu.symm, if_pos hu]
      rfl
    · rw [if_neg (Ne.symm hu), if_neg hu]

/-- What registrations in this order make of a word: a keyword if one of them was that, else what the
last one says. -/
def verdict (kinds : List WordKind) : Option WordKind :=
  if .keyword ∈ kinds then some .keyword else kinds.getLast?

theorem verdict_eq_keyword_iff (kinds : List WordKind) :
    verdict kinds = some .keyword ↔ .keyword ∈ kinds := by
  unfold verdict
  split
  · simpa
  · rename_i h
    exact iff_of_false (fun hlast => h (List.mem_of_getLast? hlast)) h

theorem verdict_concat (kinds : List WordKind) (kind : WordKind) :
    verdict (kinds ++ [kind]) = some (if verdict kinds = some .keyword then .keyword else kind) := by
  rw [verdict]
  by_cases h : verdict kinds = some .keyword
  · rw [if_pos h, if_pos (List.mem_append_left _ ((verdict_eq_keyword_iff kinds).1 h))]
  · rw [if_neg h, List.getLast?_concat]
    split
    · rename_i hmem
      rcases List.mem_append.1 hmem with hmem | hmem
      · exact absurd ((verdict_eq_keyword_iff kinds).2 hmem) h
      · rw [List.mem_singleton.1 hmem]
    · rfl

theorem kindsSince_concat (u : Text) (events : List Event) (e : Event) :
    kindsSince u (events ++ [e]) =
      if e.word.upper = u then
        match e.change.kind? with
        | some kind => kindsSince u events ++ [kind]
        | none => []
      else kindsSince u events := by
  obtain ⟨word, change⟩ := e
  unfold kindsSince
  rw [List.filter_append]
  by_cases hu : word.upper = u
  · rw [if_pos hu, List.filter_singleton]
    simp only [hu, decide_true, cond_true]
    rw [List.rtakeWhile_concat]
    cases change <;> simp [Change.kind?]
  · rw [if_neg hu, List.filter_singleton]
    simp only [hu, decide_false, cond_false, List.append_nil]

/-- The run lemma for what words are: by induction on the history, the last event first. -/
theorem get?_words_foldl (u : Text) (events : List Event) :
    (events.foldl meet {}).words.get? u = verdict (kindsSince u events) := by
  induction events using List.reverseRecOn with
  | nil => rfl
  | append_singleton events e ih =>
    rw [List.foldl_concat, get?_words_meet, kindsSince_concat, ih]
    split
    · cases e.change.kind? with
      | none => rfl
      | some kind => exact (verdict_concat (kindsSince u events) kind).symm
    · rfl

/-! ## Functions and types -/

theorem not_prevails_nil (sets clears : Event → Prop) : ¬ Prevails sets clears [] := by
  rintro ⟨before, e, after, h, -, -⟩
  cases before <;> cases h

theorem prevails_concat_iff (sets clears : Event → Prop) (events : List Event) (e : Event) :
    Prevails sets clears (events ++ [e]) ↔ sets e ∨ Prevails sets clears events ∧ ¬ clears e := by
  constructor
  · rintro ⟨before, f, after, h, hset, hafter⟩
    rcases List.eq_nil_or_concat' after with rfl | ⟨after, g, rfl⟩
    · obtain ⟨-, rfl⟩ := List.append_singleton_inj.1 h
      exact .inl hset
    · rw [← List.cons_append, ← List.append_assoc] at h
      obtain ⟨rfl, rfl⟩ := List.append_singleton_inj.1 h
      exact .inr ⟨⟨before, f, after, rfl, hset, fun x hx => hafter x (List.mem_append_left _ hx)⟩,
        hafter e (List.mem_append_right _ (List.mem_singleton_self e))⟩
  · rintro (hset | ⟨⟨before, f, after, rfl, hset, hafter⟩, hclear⟩)
    · exact ⟨events, e, [], rfl, hset, by simp⟩
    · refine ⟨before, f, after ++ [e], by simp, hset, fun x hx => ?_⟩
      rcases List.mem_append.1 hx with hx | hx
      · exact hafter x hx
      · exact List.mem_singleton.1 hx ▸ hclear

/-- A set that some events put a word into and others take it out of holds the word exactly if an event
has put it in that prevails. -/
theorem contains_foldl_iff (set : Builder → Bool) {sets clears : Event → Prop}
    (hempty : set {} = false)
    (hset : ∀ (b : Builder) e, sets e → set (b.meet e) = true)
    (hclear : ∀ (b : Builder) e, ¬ sets e → clears e → set (b.meet e) = false)
    (hkeep : ∀ (b : Builder) e, ¬ sets e → ¬ clears e → set (b.meet e) = set b) (events : List Event) :
    set (events.foldl meet {}) = true ↔ Prevails sets clears events := by
  induction events using List.reverseRecOn with
  | nil => exact iff_of_false (by simp [hempty]) (not_prevails_nil sets clears)
  | append_singleton events e ih =>
    rw [List.foldl_concat, prevails_concat_iff]
    by_cases hs : sets e
    · exact iff_of_true (hset _ e hs) (.inl hs)
    · by_cases hc : clears e
      · refine iff_of_false (by simp [hclear _ e hs hc]) ?_
        rintro (h | ⟨-, h⟩)
        · exact hs h
        · exact h hc
      · rw [hkeep _ e hs hc, ih]
        exact ⟨fun h => .inr ⟨h, hc⟩, fun h => (h.resolve_left hs).1⟩

theorem functions_register (b : Builder) (word : Text) (kind : WordKind) :
    (b.register word kind).functions = b.functions := by
  unfold register
  split <;> rfl

theorem types_register (b : Builder) (word : Text) (kind : WordKind) :
    (b.register word kind).types = b.types := by
  unfold register
  split <;> rfl

theorem contains_functions_meet (b : Builder) (e : Event) (u : Text) :
    (b.meet e).functions.contains u =
      if e.word.upper = u then
        match e.change with
        | .addFunction => true
        | .turnIntoKeyword | .unregister => false
        | .register _ | .addType => b.functions.contains u
      else b.functions.contains u := by
  obtain ⟨word, change⟩ := e
  cases change with
  | register kind =>
    rw [meet, functions_register, ite_self]
  | addType =>
    show (b.register word .dataType).functions.contains u = _
    rw [functions_register, ite_self]
  | addFunction => exact WordSet.contains_add b.functions word.upper u
  | turnIntoKeyword =>
    show (register _ word .keyword).functions.contains u = _
    rw [functions_register]
    exact WordSet.contains_erase b.functions word.upper u
  | unregister => exact WordSet.contains_erase b.functions word.upper u

theorem contains_types_meet (b : Builder) (e : Event) (u : Text) :
    (b.meet e).types.contains u =
      if e.word.upper = u then
        match e.change with
        | .addType => true
        | .unregister => false
        | .register _ | .addFunction | .turnIntoKeyword => b.types.contains u
      else b.types.contains u := by
  obtain ⟨word, change⟩ := e
  cases change with
  | register kind =>
    rw [meet, types_register, ite_self]
  | addFunction =>
    show (b.register word .function).types.contains u = _
    rw [types_register, ite_self]
  | addType => exact WordSet.contains_add b.types word.upper u
  | turnIntoKeyword =>
    show (register _ word .keyword).types.contains u = _
    rw [types_register, ite_self]
  | unregister => exact WordSet.contains_erase b.types word.upper u

/-- A word is a function if it has been added as one and since then neither taken out nor turned into a
keyword. -/
theorem contains_functions_foldl (u : Text) (events : List Event) :
    (events.foldl meet {}).functions.contains u = true ↔
      Prevails (fun e => e.word.upper = u ∧ e.change = .addFunction)
        (fun e => e.word.upper = u ∧ (e.change = .unregister ∨ e.change = .turnIntoKeyword)) events := by
  refine contains_foldl_iff (fun b => b.functions.contains u) rfl ?_ ?_ ?_ events
  · rintro b e ⟨hw, hc⟩
    rw [contains_functions_meet, if_pos hw, hc]
  · rintro b e - ⟨hw, hc | hc⟩
    · rw [contains_functions_meet, if_pos hw, hc]
    · rw [contains_functions_meet, if_pos hw, hc]
  · intro b e hs hc
    rw [contains_functions_meet]
    split
    · cases hchange : e.change <;> simp_all
    · rfl

/-- A word is a type if it has been added as one and not taken out since. -/
theorem contains_types_foldl (u : Text) (events : List Event) :
    (events.foldl meet {}).types.contains u = true ↔
      Prevails (fun e => e.word.upper = u ∧ e.change = .addType)
        (fun e => e.word.upper = u ∧ e.change = .unregister) events := by
  refine contains_foldl_iff (fun b => b.types.contains u) rfl ?_ ?_ ?_ events
  · rintro b e ⟨hw, hc⟩
    rw [contains_types_meet, if_pos hw, hc]
  · rintro b e - ⟨hw, hc⟩
    rw [contains_types_meet, if_pos hw, hc]
  · intro b e hs hc
    rw [contains_types_meet]
    split
    · cases hchange : e.change <;> simp_all
    · rfl

/-! ## Registries -/

/-- What the registry built in the end says about a word, for every history: nothing if the word has not
been registered since it was last taken out; that it is a keyword if it has been registered as one; else
what the last registration says. It is a function if it has been added as one and since then neither
taken out nor turned into a keyword, and a type if it has been added as one and not taken out since. -/
theorem registry_of_history (operations : List Operation) (w : Text) :
    (kindsSince w.upper (history operations) = [] → (run operations).build.classify w = none) ∧
      (.keyword ∈ kindsSince w.upper (history operations) →
        (run operations).build.classify w = some .keyword) ∧
      (.keyword ∉ kindsSince w.upper (history operations) →
        (run operations).build.classify w = (kindsSince w.upper (history operations)).getLast?) ∧
      ((run operations).build.functions.contains w.upper = true ↔
        Prevails (fun e => e.word.upper = w.upper ∧ e.change = .addFunction)
          (fun e => e.word.upper = w.upper ∧ (e.change = .unregister ∨ e.change = .turnIntoKeyword))
          (history operations)) ∧
      ((run operations).build.types.contains w.upper = true ↔
        Prevails (fun e => e.word.upper = w.upper ∧ e.change = .addType)
          (fun e => e.word.upper = w.upper ∧ e.change = .unregister) (history operations)) := by
  rw [run_eq_foldl]
  generalize history operations = events
  have hclassify : (events.foldl meet {}).build.classify w = verdict (kindsSince w.upper events) :=
    get?_words_foldl w.upper events
  refine ⟨fun h => ?_, fun h => ?_, fun h => ?_, ?_, ?_⟩
  · rw [hclassify, h]
    rfl
  · rw [hclassify, verdict, if_pos h]
  · rw [hclassify, verdict, if_neg h]
  · exact contains_functions_foldl w.upper events
  · exact contains_types_foldl w.upper events

end Builder

end SqlDialects
