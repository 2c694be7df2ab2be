/-
Statements in which no comment begins. Taking the comments out of them takes nothing away but the blanks at their
two ends (`stripComments_of_freeOf`), whatever strings, brackets or dollar quotes are left open in them: every
character goes into one lexeme, and no lexeme is a comment.
-/
import SqlDialects.Proofs.Dialect.Shelter

namespace SqlDialects

/-! ## Blanks at the two ends -/

namespace Text

variable {s t : Text}

/-- The one text is the other between blanks, and has none at its own ends. -/
structure Trims (s t : Text) : Prop where
  between : ∃ u v, s = u ++ (t ++ v) ∧ (∀ a ∈ u, Character.isBlank a = true) ∧ ∀ a ∈ v, Character.isBlank a = true
  first : ∀ a ∈ t.head?, Character.isBlank a = false
  last : ∀ a ∈ t.getLast?, Character.isBlank a = false

theorem trims_trim (s : Text) : s.Trims s.trim := by
  refine ⟨⟨s.takeWhile Character.isBlank, (s.dropWhile Character.isBlank).rtakeWhile Character.isBlank, ?_,
    fun a ha => List.mem_takeWhile_imp ha, fun a ha => List.mem_rtakeWhile_imp ha⟩, fun a ha => ?_, fun a ha => ?_⟩
  · show s = _ ++ (List.rdropWhile _ _ ++ _)
    rw [List.rdropWhile_append_rtakeWhile, List.takeWhile_append_dropWhile]
  · -- what is left begins with the first character that is no blank
    obtain ⟨t, ht⟩ := List.head?_eq_some_iff.1 ha
    refine head?_dropWhile Character.isBlank s a ?_
    obtain ⟨v, hv⟩ := s.trim_prefix
    rw [← hv, ht]
    rfl
  · rw [trim, List.getLast?_reverse] at ha
    exact head?_dropWhile Character.isBlank _ a ha

/-- There is only one such text. -/
theorem trims_iff : s.Trims t ↔ s.trim = t := by
  refine ⟨?_, fun h => h ▸ trims_trim s⟩
  rintro ⟨⟨u, v, rfl, hu, hv⟩, hfirst, hlast⟩
  cases t with
  | nil =>
    have hblanks := trim_append_of_isBlank hv []
    rw [List.append_nil] at hblanks
    rw [trim_append_of_isBlank hu, List.nil_append, hblanks]
    rfl
  | cons a t =>
    have hfront : (u ++ (a :: t ++ v)).dropWhile Character.isBlank = a :: t ++ v := dropWhile_append_of_head hu hfirst
    have hback : (v.reverse ++ (a :: t).reverse).dropWhile Character.isBlank = (a :: t).reverse :=
      dropWhile_append_of_head (fun b hb => hv b (List.mem_reverse.1 hb))
        fun b hb => hlast b (by rwa [List.head?_reverse] at hb)
    rw [trim, hfront, List.reverse_append, hback, List.reverse_reverse]

end Text

/-! ## Statements without marks -/

/-- The marks with which comments begin. -/
def commentOpeners : List Text := ["--", "#", "/*"]

theorem commentMarks_of_commentOpeners {s : Text} (h : s.FreeOf commentOpeners) : s.FreeOf commentMarks := by
  have hhash : ¬ (['#'] : Text) <:+: s := h "#" (by decide)
  have hspace : (['#'] : Text) <:+: ['#', ' '] := (List.prefix_append ['#'] [' ']).isInfix
  refine List.forall_mem_cons.2 ⟨h "--" (by decide), List.forall_mem_cons.2 ⟨fun hoccurs => ?_, ?_⟩⟩
  · exact hhash (hspace.trans hoccurs)
  · exact List.forall_mem_singleton.2 (h "/*" (by decide))

/-- Nothing but the blanks at the two ends is taken from a statement in which no mark of a comment stands. -/
theorem stripComments_of_freeOf (e : Engine) {s : Text} (h : s.FreeOf commentOpeners) :
    e.dialect.reader.stripComments s = s.trim ∧ ∀ t, e.dialect.reader.stripComments s = t ↔ s.Trims t := by
  have hstripped : e.dialect.reader.stripComments s = s.trim := by
    have herase : e.dialect.profile.eraseExtraComments s = s := by
      refine Profile.eraseExtraComments_eq_self e.marksArePunctuation.1 fun m hm => ?_
      obtain ⟨-, rfl⟩ := Engine.eq_of_mem_extraBlockComments hm
      exact BlockComments.erase_eq_self_iff.1 (BlockComments.eraseFrom_eq_self (by simp) (h "/*" (by decide)))
    rw [e.reader_dialect]
    show Text.trim ((Cursor.start (e.dialect.profile.eraseExtraComments s)).lexemes.flatMap Lexeme.withoutComment) = _
    rw [herase, Cursor.flatMap_withoutComment_of_freeOf (commentMarks_of_commentOpeners h)]
    rfl
  exact ⟨hstripped, fun t => by rw [hstripped, Text.trims_iff]⟩

/-- A string, a bracket and a dollar quote that are left open. -/
theorem stripComments_of_freeOf_postgres :
    Text.FreeOf commentOpeners "\n $a$ ['x\" / *\t" ∧
      Engine.postgres.dialect.reader.stripComments "\n $a$ ['x\" / *\t" = "$a$ ['x\" / *" ∧
      Text.Trims "\n $a$ ['x\" / *\t" "$a$ ['x\" / *" := by
  have hfree : Text.FreeOf commentOpeners "\n $a$ ['x\" / *\t" := by decide
  obtain ⟨hstripped, htrims⟩ := stripComments_of_freeOf .postgres hfree
  have hkept : Engine.postgres.dialect.reader.stripComments "\n $a$ ['x\" / *\t" = "$a$ ['x\" / *" := by
    rw [hstripped]
    decide
  exact ⟨hfree, hkept, (htrims _).1 hkept⟩

end SqlDialects
