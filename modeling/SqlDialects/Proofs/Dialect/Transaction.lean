/-
Which statements of a built-in dialect modify, of those whose first word is one of the modifying verbs
(`isModifying_verb_iff`). Whatever follows the verb, comments are taken out around it and never through
it, the verb is found again in what is left, and every dialect knows it as a keyword that is not a
read-only one. Only `CREATE OR REPLACE`, which the lexer takes as one lexeme, is not found to be a word.
-/
import SqlDialects.Dialect.BuiltIn
import SqlDialects.Dialect.Transaction
import SqlDialects.Proofs.Statement.Comment.Block
import SqlDialects.Proofs.Statement.Verb
import SqlDialects.Proofs.Word.History

namespace SqlDialects

/-! ## Comments around the verb -/

namespace Profile

/-- No comment that the engine knows and the lexer does not begins with a character of a word or a
blank. -/
def MarksArePunctuation (p : Profile) : Prop :=
  p.extraLineComments = [] ∧ ∀ m ∈ p.extraBlockComments, ∀ mark ∈ m.opening :: m.lineMarks,
    (mark.head?.any fun a => Character.isWordChar a || Character.isBlank a) = false

variable {p : Profile} {verb w : Text}

/-- Without further marks of line comments, only block comments are taken out. -/
theorem eraseExtraComments_of_nil (hlines : p.extraLineComments = []) (s : Text) :
    p.eraseExtraComments s = match p.extraBlockComments with
      | some m => m.erase s
      | none => s := by
  unfold eraseExtraComments
  rw [hlines]
  rfl

/-- Words and blanks in front of a text are no part of a block comment. -/
theorem MarksArePunctuation.erase_append (hp : p.MarksArePunctuation) {m : BlockComments}
    (hm : m ∈ p.extraBlockComments) {s : Text}
    (hs : ∀ a ∈ s, Character.isWordChar a = true ∨ Character.isBlank a = true) (rest : Text) :
    m.erase (s ++ rest) = s ++ m.erase rest := by
  refine BlockComments.eraseFrom_append (fun a ha => ⟨?_, ?_⟩) rest
  · rintro rfl
    rcases hs _ ha with h | h
    · revert h; decide
    · revert h; decide
  · intro mark hmark hhead
    have hmark := hp.2 m hm mark hmark
    rw [hhead, Option.any_some, Bool.or_eq_false_iff] at hmark
    rcases hs a ha with h | h
    · rw [hmark.1] at h
      cases h
    · rw [hmark.2] at h
      cases h

theorem eraseExtraComments_append (hp : p.MarksArePunctuation) {s : Text}
    (hs : ∀ a ∈ s, Character.isWordChar a = true ∨ Character.isBlank a = true) (rest : Text) :
    ∃ rest', p.eraseExtraComments (s ++ rest) = s ++ rest' := by
  rw [eraseExtraComments_of_nil hp.1]
  cases hm : p.extraBlockComments with
  | none => exact ⟨rest, rfl⟩
  | some m => exact ⟨m.erase rest, hp.erase_append hm hs rest⟩

/-- What is left of a statement without its comments begins with the same verb, and the verb ends there. -/
theorem stripComments_verb (hp : p.MarksArePunctuation) {b : Char} {t : Text} (h : VerbLed verb w (b :: t)) :
    ∃ rest, p.stripComments (w ++ b :: t) = w ++ rest ∧ VerbLed verb w rest := by
  obtain ⟨t', ht'⟩ : ∃ t', p.eraseExtraComments (w ++ [b] ++ t) = w ++ [b] ++ t' := by
    refine eraseExtraComments_append hp ?_ t
    intro a ha
    rcases List.mem_append.1 ha with ha | ha
    · exact .inl (h.isWordChar a ha)
    · rw [List.mem_singleton.1 ha]
      exact .inr (h.stops b rfl)
  obtain ⟨t'', ht''⟩ := (h.of_prefix (List.prefix_refl (b :: t'))).flatMap_withoutComment
  obtain ⟨rest, hrest, hstart⟩ := Text.trim_append h.ne_nil
    (fun a ha => Character.isBlank_of_isWordChar (h.isWordChar a ha)) (b :: t'')
  refine ⟨rest, ?_, h.of_prefix hstart⟩
  rw [stripComments, List.append_cons, ht', List.append_assoc, List.singleton_append, ht'', hrest]

end Profile

/-! ## The verb as a keyword -/

namespace Builder

theorem get?_addKeywords (b : Builder) (words : List Text) (u : Text) :
    (b.addKeywords words).words.get? u =
      if u ∈ words.map Text.upper then some .keyword else b.words.get? u := by
  unfold addKeywords
  induction words generalizing b with
  | nil => rfl
  | cons word words ih =>
    rw [List.foldl_cons, ih, addKeyword, get?_words_register, List.map_cons]
    by_cases hu : u ∈ words.map Text.upper
    · rw [if_pos hu, if_pos (List.mem_cons_of_mem _ hu)]
    · rw [if_neg hu]
      by_cases hword : word.upper = u
      · subst hword
        rw [if_pos rfl, if_pos List.mem_cons_self, ite_self]
      · rw [if_neg hword, if_neg (by rw [List.mem_cons, not_or]; exact ⟨Ne.symm hword, hu⟩)]

/-- A keyword stays one when a function or a type of the same spelling is added. -/
theorem keyword_foldl {u : Text} {f : Builder → Text → Builder}
    (hf : ∀ b word, ∃ kind, (f b word).words = (b.register word kind).words) {b : Builder}
    (hb : b.words.get? u = some .keyword) (words : List Text) :
    (words.foldl f b).words.get? u = some .keyword := by
  induction words generalizing b with
  | nil => exact hb
  | cons word words ih =>
    refine ih ?_
    obtain ⟨kind, hkind⟩ := hf b word
    rw [hkind, get?_words_register, hb, if_pos rfl, ite_self]

theorem keyword_addFunctions {u : Text} {b : Builder} (hb : b.words.get? u = some .keyword)
    (words : List Text) : (b.addFunctions words).words.get? u = some .keyword :=
  keyword_foldl (f := addFunction) (fun _ _ => ⟨.function, rfl⟩) hb words

theorem keyword_addTypes {u : Text} {b : Builder} (hb : b.words.get? u = some .keyword)
    (words : List Text) : (b.addTypes words).words.get? u = some .keyword :=
  keyword_foldl (f := addType) (fun _ _ => ⟨.dataType, rfl⟩) hb words

theorem keyword_addKeywords {u : Text} {b : Builder} (hb : b.words.get? u = some .keyword)
    (words : List Text) : (b.addKeywords words).words.get? u = some .keyword := by
  rw [get?_addKeywords, hb, ite_self]

/-- The keywords of the standard are keywords whatever an engine reserves. -/
theorem keyword_standard (reserved : List Text) {u : Text} (hu : u ∈ Standard.keywords.map Text.upper) :
    (standard reserved).words.get? u = some .keyword := by
  have hfirst : (addKeywords {} Standard.keywords).words.get? u = some .keyword := by
    rw [get?_addKeywords, if_pos hu]
  exact keyword_addTypes (keyword_addFunctions (keyword_addKeywords hfirst _) _) _

end Builder

/-- A dialect with the standard words knows the standard keywords as such, whatever words it adds. -/
theorem Dialect.classify_ofBuilder (p : Profile) (reserved keywords functions types : List Text)
    {word : Text} (h : word.upper ∈ Standard.keywords.map Text.upper) :
    (ofBuilder p (Builder.standard reserved) keywords functions types).words.classify word = some .keyword :=
  Builder.keyword_addTypes
    (Builder.keyword_addFunctions (Builder.keyword_addKeywords (Builder.keyword_standard reserved h) _) _) _

/-! ## The built-in dialects -/

namespace Engine

theorem reader_dialect (e : Engine) : e.dialect.reader = e.dialect.profile.reader := by
  cases e <;> rfl

theorem extraBlockComments_dialect (e : Engine) :
    e.dialect.profile.extraBlockComments =
      if e = .postgres then some ⟨"/*", "*/", true, ["--"]⟩ else none := by
  cases e <;> rfl

theorem marksArePunctuation (e : Engine) : e.dialect.profile.MarksArePunctuation := by
  constructor
  · cases e <;> rfl
  · intro m hm
    rw [extraBlockComments_dialect] at hm
    split at hm
    · cases hm
      decide
    · cases hm

theorem upper_mem_keywords :
    ∀ verb ∈ modifyingVerbs, verb.upper = verb ∧ verb ∈ Standard.keywords.map Text.upper := by
  decide

theorem notMem_readOnlyKeywords (e : Engine) :
    ∀ verb ∈ modifyingVerbs, e.dialect.profile.readOnlyKeywords.contains verb = false := by
  cases e <;> decide

/-- A modifying verb is a keyword of every engine that is not read-only. -/
theorem isModifyingKeyword_verb (e : Engine) {verb : Text} (hverb : verb ∈ modifyingVerbs) :
    e.dialect.isModifyingKeyword verb = true := by
  obtain ⟨hupper, hmem⟩ := upper_mem_keywords verb hverb
  have hkeyword : e.dialect.words.classify verb = some .keyword := by
    have hmem' : verb.upper ∈ Standard.keywords.map Text.upper := by rw [hupper]; exact hmem
    cases e with
    | generic | postgres | mysql | sqlite | oracle | mssql =>
      exact Dialect.classify_ofBuilder _ _ _ _ _ hmem'
  rw [Dialect.isModifyingKeyword, hupper, hkeyword, e.notMem_readOnlyKeywords verb hverb]
  rfl

/-- The verdict on a statement is told by the first word of what is left without its comments. -/
theorem isModifying_eq (e : Engine) {s : Text} (hne : e.dialect.profile.stripComments s ≠ []) :
    e.dialect.isModifying s =
      (!(leadingWord (e.dialect.profile.stripComments s)).upper.isEmpty &&
        e.dialect.isModifyingKeyword (leadingWord (e.dialect.profile.stripComments s)).upper) := by
  unfold Dialect.isModifying Dialect.verdict?
  rw [reader_dialect]
  show Option.any _ (if (List.isEmpty (e.dialect.profile.stripComments s) ||
    List.isEmpty (leadingWord (e.dialect.profile.stripComments s)).upper) = true then _ else _) = _
  rw [List.isEmpty_eq_false_iff.2 hne, Bool.false_or]
  split
  · rename_i hempty
    rw [hempty]
    rfl
  · rename_i hword
    rw [Bool.not_eq_true] at hword
    rw [hword]
    rfl

end Engine

/-- A statement that begins with a modifying verb, in any case of its letters, modifies in every built-in
dialect whatever follows behind a blank, unless it begins with `CREATE OR REPLACE` once the comments are
taken out. -/
theorem isModifying_verb_iff (e : Engine) {verb w : Text} (hverb : verb ∈ modifyingVerbs) (hw : w.Spells verb)
    {b : Char} (hb : Character.isBlank b = true) (t : Text) :
    e.dialect.isModifying (w ++ b :: t) = true ↔
      ¬ CreatesOrReplaces (e.dialect.profile.stripComments (w ++ b :: t)) := by
  have hled : VerbLed verb w (b :: t) :=
    ⟨hverb, hw, fun a ha => by rw [← Option.some.inj ha]; exact hb⟩
  obtain ⟨rest, hstrip, h⟩ := Profile.stripComments_verb e.marksArePunctuation hled
  obtain ⟨hne, hupper⟩ := isUpper_of_mem_modifyingVerbs verb hverb
  rw [e.isModifying_eq (by simp [hstrip, h.ne_nil]), hstrip]
  by_cases hthree : CreatesOrReplaces (w ++ rest)
  · rw [(h.create_of_createsOrReplaces hthree).leadingWord_createOrReplace hthree]
    exact iff_of_false Bool.false_ne_true fun hnot => hnot hthree
  · rw [h.leadingWord_eq hthree, hw.upper hupper, e.isModifyingKeyword_verb hverb,
      List.isEmpty_eq_false_iff.2 hne]
    exact iff_of_true rfl hthree

theorem isModifying_verb_iff_update :
    ("UPDATE" : Text) ∈ modifyingVerbs ∧ Text.Spells "Update" "UPDATE" ∧ Character.isBlank '\n' = true ∧
      (Engine.postgres.dialect.isModifying ("Update" ++ '\n' :: "t SET a = 1") = true ↔
        ¬ CreatesOrReplaces
          (Engine.postgres.dialect.profile.stripComments ("Update" ++ '\n' :: "t SET a = 1"))) :=
  ⟨by decide, rfl, rfl, isModifying_verb_iff .postgres (by decide) rfl rfl "t SET a = 1"⟩

/-- A view that is replaced is taken for one that is only read. -/
theorem not_isModifying_createOrReplace :
    ("CREATE" : Text) ∈ modifyingVerbs ∧ Text.Spells "CREATE" "CREATE" ∧ Character.isBlank ' ' = true ∧
      ¬ Engine.postgres.dialect.isModifying ("CREATE" ++ ' ' :: "OR REPLACE VIEW v AS SELECT 1") = true := by
  refine ⟨by decide, rfl, rfl, ?_⟩
  decide +kernel

end SqlDialects
