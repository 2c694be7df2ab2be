/-
Where a block comment closes. Behind a text in which nothing opens, a whole comment leaves one space and what
comes behind it is treated as if it stood alone, and a comment that never closes takes with it everything from
its mark on (`erase_append_comment`). There is no third case: what is read in a comment, however deep, either
leads to the mark that closes it or to nothing (`Closes.or_eraseFrom_eq_nil`).
-/
import SqlDialects.Proofs.Statement.Comment.Block

namespace SqlDialects

namespace BlockComments

variable {m : BlockComments}

/-! ## Texts in which nothing opens -/

/-- Neither a string nor a comment opens in the text, which stands in front of the rest. -/
inductive Plain (m : BlockComments) : Text → Text → Prop
  | nil {rest : Text} : Plain m [] rest
  | cons {a : Char} {p rest : Text} (hquote : a ≠ '\'')
      (hmarks : ∀ mark ∈ m.opening :: m.lineMarks, Text.opensWith (a :: p ++ rest) mark = false)
      (hp : Plain m p rest) : Plain m (a :: p) rest

theorem Plain.eraseFrom_append {p rest : Text} (h : m.Plain p rest) :
    m.eraseFrom .outside (p ++ rest) = p ++ m.eraseFrom .outside rest := by
  induction h with
  | nil => rfl
  | cons hquote hmarks _ ih =>
    rw [List.cons_append] at hmarks ⊢
    rw [eraseFrom_cons hquote hmarks, ih, List.cons_append]

/-! ## Comments that close and comments that do not -/

/-- The comment that has been opened in front of the text closes in it, behind what may stand in it. -/
def Closes (m : BlockComments) (s : Text) : Prop :=
  ∃ inside t, s = inside ++ (m.closing ++ t) ∧ m.Inside inside (m.closing ++ t)

theorem closes_of_opensWith {s : Text} (h : s.opensWith m.closing = true) : m.Closes s := by
  obtain ⟨-, t, rfl⟩ := Text.opensWith_iff.1 h
  exact ⟨[], t, rfl, .nil⟩

/-- A character at which no mark begins does not keep a comment from closing. -/
theorem Closes.cons {a : Char} {s : Text} (h : m.Closes s) (hclosing : Text.opensWith (a :: s) m.closing = false)
    (hopening : m.nested = true → Text.opensWith (a :: s) m.opening = false) : m.Closes (a :: s) := by
  obtain ⟨inside, t, rfl, hinside⟩ := h
  exact ⟨a :: inside, t, rfl, .char hclosing hopening hinside⟩

/-- A whole comment inside does not keep a comment from closing. -/
theorem Closes.comment {inner s : Text} (hnested : m.nested = true) (hinner : m.Inside inner (m.closing ++ s))
    (h : m.Closes s) : m.Closes (m.opening ++ (inner ++ (m.closing ++ s))) := by
  obtain ⟨inside, t, rfl, hinside⟩ := h
  refine ⟨m.opening ++ (inner ++ (m.closing ++ inside)), t, ?_, .comment hnested hinner hinside⟩
  simp only [List.append_assoc]

/-- What is read in a comment closes it, or it leaves nothing. -/
theorem Closes.or_eraseFrom_eq_nil (hm : m.Distinct) (n : Nat) (s : Text) :
    m.Closes s ∨ m.eraseFrom (.inComment n) s = [] := by
  -- by induction on the length: a comment inside is read first, and then what is behind it
  induction hlength : s.length using Nat.strong_induction_on generalizing s n with
  | _ length ih =>
    subst hlength
    cases s with
    | nil =>
      right
      rw [eraseFrom]
    | cons a s =>
      cases hclosing : Text.opensWith (a :: s) m.closing with
      | true => exact .inl (closes_of_opensWith hclosing)
      | false =>
        by_cases hopening : m.nested = true ∧ Text.opensWith (a :: s) m.opening = true
        · obtain ⟨hnested, hopens⟩ := hopening
          obtain ⟨hne, inner, hs⟩ := Text.opensWith_iff.1 hopens
          have hshorter : inner.length < (a :: s).length := by
            rw [← hs, List.length_append]
            have := List.length_pos_iff.2 hne
            omega
          rw [← hs, eraseFrom_opening_inComment hm hnested]
          rcases ih _ hshorter (n + 1) inner rfl with ⟨inside, t, rfl, hinside⟩ | hnil
          · have hbehind : t.length < (a :: s).length := by
              simp only [List.length_append] at hshorter
              omega
            rw [hinside.eraseFrom_eq hm, eraseFrom_closing hm, if_neg (Nat.succ_ne_zero n), Nat.add_sub_cancel]
            rcases ih _ hbehind n t rfl with hcloses | hnil
            · exact .inl (hcloses.comment hnested hinside)
            · exact .inr hnil
          · exact .inr hnil
        · have hopening' : m.nested = true → Text.opensWith (a :: s) m.opening = false :=
            fun hnested => Bool.eq_false_iff.2 fun hopens => hopening ⟨hnested, hopens⟩
          rw [eraseFrom_char n hclosing hopening']
          rcases ih _ (Nat.lt_succ_self s.length) n s rfl with hcloses | hnil
          · exact .inl (hcloses.cons hclosing hopening')
          · exact .inr hnil

theorem eraseFrom_eq_nil_iff (hm : m.Distinct) {s : Text} :
    m.eraseFrom (.inComment 0) s = [] ↔ ¬ m.Closes s := by
  constructor
  · rintro hnil ⟨inside, t, rfl, hinside⟩
    rw [hinside.eraseFrom_eq hm, eraseFrom_closing hm, if_pos rfl] at hnil
    cases hnil
  · intro hopen
    exact (Closes.or_eraseFrom_eq_nil hm 0 s).resolve_left hopen

/-- Behind a text in which nothing opens, a whole comment leaves one space, and what follows it is left as it
would be without them; nothing is left of a comment and of what follows it exactly if it never closes. -/
theorem erase_append_comment (hm : m.Distinct) (p : Text) :
    (∀ inside t, m.Plain p (m.opening ++ (inside ++ (m.closing ++ t))) → m.Inside inside (m.closing ++ t) →
        m.erase (p ++ (m.opening ++ (inside ++ (m.closing ++ t)))) = p ++ ' ' :: m.erase t) ∧
      ∀ rest, m.Plain p (m.opening ++ rest) → (m.erase (p ++ (m.opening ++ rest)) = p ↔ ¬ m.Closes rest) := by
  constructor
  · intro inside t hp hinside
    rw [erase, hp.eraseFrom_append, ← erase, erase_comment hm hinside]
  · intro rest hp
    rw [erase, hp.eraseFrom_append, eraseFrom_opening hm, List.append_right_eq_self, eraseFrom_eq_nil_iff hm]

/-- Half a mark in front of a comment, a comment in it, and half a mark at its end; and a mark of which the
closing one takes the second half. -/
theorem erase_append_comment_overlapping :
    (slashStar true ["--"]).Plain "a/" "/*x/*y*/**/b--/*" ∧
      (slashStar true ["--"]).Inside "x/*y*/*" "*/b--/*" ∧
      (slashStar true ["--"]).erase "a//*x/*y*/**/b--/*" = "a/ ".toList ++ (slashStar true ["--"]).erase "b--/*" ∧
      (slashStar true ["--"]).Plain "a/" "/*/" ∧ ¬ (slashStar true ["--"]).Closes "/" ∧
      (slashStar true ["--"]).erase "a//*/" = "a/".toList := by
  have hplain : (slashStar true ["--"]).Plain "a/" "/*x/*y*/**/b--/*" :=
    .cons (by decide) (by decide) (.cons (by decide) (by decide) .nil)
  have hinner : (slashStar true ["--"]).Inside ['y'] "*/**/b--/*" := .char (by decide) (fun _ => by decide) .nil
  have hinside : (slashStar true ["--"]).Inside "x/*y*/*" "*/b--/*" :=
    .char (by decide) (fun _ => by decide)
      (.comment rfl hinner (.char (by decide) (fun _ => by decide) .nil))
  have hplain' : (slashStar true ["--"]).Plain "a/" "/*/" :=
    .cons (by decide) (by decide) (.cons (by decide) (by decide) .nil)
  have hopen : ¬ (slashStar true ["--"]).Closes "/" := by
    rintro ⟨inside, t, hs, -⟩
    have := congrArg List.length hs
    simp [slashStar] at this
    omega
  obtain ⟨hwhole, hunclosed⟩ := erase_append_comment (distinct_slashStar true ["--"]) "a/"
  exact ⟨hplain, hinside, hwhole "x/*y*/*" "b--/*" hplain hinside, hplain', hopen, (hunclosed "/" hplain').2 hopen⟩

end BlockComments

end SqlDialects
