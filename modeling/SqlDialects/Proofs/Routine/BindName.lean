/-
Names of bind variables and the names they are made from. Only the letters and numerals of a name and the
places where other characters break it count, so names that differ in nothing else name one variable
(`bindName_eq_iff`). A variable is named by letters, numerals and single underscores, and a name of this form
is the name of its own variable (`isBindName_bindName_and_eq_self_iff`); of all such names, the variable has
the one that is broken like the given name (`bindName_eq_iff_isBindName`). So the variables of a call differ
exactly if no two of its input parameters have names that are broken alike (`nodup_bindVariables_iff`).
-/
import Mathlib.Data.List.Chain
import Mathlib.Data.List.Nodup
import SqlDialects.Dialect.BuiltIn
import SqlDialects.Proofs.Text.Run
import SqlDialects.Routine.Call

namespace SqlDialects

/-! ## Names that are broken alike -/

namespace Text

/-- A text that breaks a name: characters that are neither letters nor numerals, at least one of them. -/
def IsBreak (u : Text) : Prop := u ≠ [] ∧ ∀ c ∈ u, Character.isAlphanumeric c = false

/-- The two texts have the same letters and numerals in order, and are broken at the same places, by
whatever other characters. -/
inductive BrokenAlike : Text → Text → Prop
  | nil : BrokenAlike [] []
  | char {c : Char} {s t : Text} :
      Character.isAlphanumeric c = true → BrokenAlike s t → BrokenAlike (c :: s) (c :: t)
  | gap {u v s t : Text} : IsBreak u → IsBreak v → BrokenAlike s t → BrokenAlike (u ++ s) (v ++ t)

/-- Letters, numerals and single underscores. -/
def IsBindName (s : Text) : Prop :=
  (∀ c ∈ s, Character.isWordChar c = true) ∧ s.IsChain fun a b => ¬ (a = '_' ∧ b = '_')

-- the characters of the text are tried, not all characters there are
instance : DecidablePred IsBindName := fun s => @instDecidableAnd _ _ (List.decidableBAll _ s) inferInstance

end Text

section

variable {c : Char} {u s t : Text}

/-! ## One piece of a name -/

theorem isAlphanumeric_underscore : Character.isAlphanumeric '_' = false := by decide

theorem ne_underscore_of_isAlphanumeric (hc : Character.isAlphanumeric c = true) : c ≠ '_' := by
  rintro rfl
  rw [isAlphanumeric_underscore] at hc
  cases hc

theorem bindNameFrom_char (hc : Character.isAlphanumeric c = true) (inRun : Bool) (s : Text) :
    bindNameFrom inRun (c :: s) = c :: bindName s := by
  rw [bindNameFrom, if_pos hc, bindName]

theorem bindNameFrom_true_append (hu : ∀ c ∈ u, Character.isAlphanumeric c = false) (s : Text) :
    bindNameFrom true (u ++ s) = bindNameFrom true s := by
  induction u with
  | nil => rfl
  | cons c u ih =>
    obtain ⟨hc, hu⟩ := List.forall_mem_cons.1 hu
    rw [List.cons_append, bindNameFrom, hc, if_neg Bool.false_ne_true, if_pos rfl, ih hu]

/-- A break leaves one underscore, and none behind another break. -/
theorem bindNameFrom_break (hu : u.IsBreak) (inRun : Bool) (s : Text) :
    bindNameFrom inRun (u ++ s) = if inRun then bindNameFrom true s else '_' :: bindNameFrom true s := by
  obtain ⟨hne, hall⟩ := hu
  cases inRun with
  | true => exact bindNameFrom_true_append hall s
  | false =>
    obtain ⟨c, u, rfl⟩ := List.exists_cons_of_ne_nil hne
    obtain ⟨hc, hall⟩ := List.forall_mem_cons.1 hall
    rw [List.cons_append, bindNameFrom, hc, if_neg Bool.false_ne_true, if_neg Bool.false_ne_true,
      bindNameFrom_true_append hall, if_neg Bool.false_ne_true]

/-- It makes no difference what leads up to a letter or a numeral, or to the end. -/
theorem bindNameFrom_true_of_head (h : ∀ c ∈ s.head?, Character.isAlphanumeric c = true) :
    bindNameFrom true s = bindName s := by
  cases s with
  | nil => rfl
  | cons c s => rw [bindName, bindNameFrom_char (h c rfl), bindNameFrom_char (h c rfl)]

/-- A name is empty, or begins with a letter or a numeral, or with a break; and so does its variable. -/
theorem bindName_cases (s : Text) :
    (s = [] ∧ bindName s = []) ∨
      (∃ c r, Character.isAlphanumeric c = true ∧ s = c :: r ∧ bindName s = c :: bindName r) ∨
      ∃ u r, u.IsBreak ∧ s = u ++ r ∧ bindName s = '_' :: bindName r := by
  cases s with
  | nil => exact .inl ⟨rfl, rfl⟩
  | cons c s =>
    refine .inr ?_
    cases hc : Character.isAlphanumeric c with
    | true => exact .inl ⟨c, s, hc, rfl, bindNameFrom_char hc false s⟩
    | false =>
      have hsplit : c :: s = (c :: s.takeWhile fun a => !Character.isAlphanumeric a) ++
          s.dropWhile fun a => !Character.isAlphanumeric a := by
        rw [List.cons_append, List.takeWhile_append_dropWhile]
      have hbreak : Text.IsBreak (c :: s.takeWhile fun a => !Character.isAlphanumeric a) := by
        refine ⟨List.cons_ne_nil _ _, List.forall_mem_cons.2 ⟨hc, fun a ha => ?_⟩⟩
        simpa using List.mem_takeWhile_imp ha
      have hrest : ∀ a ∈ (s.dropWhile fun a => !Character.isAlphanumeric a).head?,
          Character.isAlphanumeric a = true := by
        intro a ha
        simpa using Text.head?_dropWhile (fun a => !Character.isAlphanumeric a) s a ha
      refine .inr ⟨_, _, hbreak, hsplit, ?_⟩
      rw [hsplit, bindName, bindNameFrom_break hbreak, if_neg Bool.false_ne_true,
        bindNameFrom_true_of_head hrest]

/-! ## One variable for two names -/

theorem Text.BrokenAlike.bindNameFrom_eq (h : s.BrokenAlike t) (inRun : Bool) :
    bindNameFrom inRun s = bindNameFrom inRun t := by
  induction h generalizing inRun with
  | nil => rfl
  | char hc _ ih => rw [bindNameFrom_char hc, bindNameFrom_char hc, bindName, ih, bindName]
  | gap hu hv _ ih => rw [bindNameFrom_break hu, bindNameFrom_break hv, ih]

theorem brokenAlike_of_bindName_eq (h : bindName s = bindName t) : s.BrokenAlike t := by
  induction hlength : s.length using Nat.strong_induction_on generalizing s t with
  | h n ih =>
    subst hlength
    rcases bindName_cases s with ⟨rfl, hs⟩ | ⟨c, r, hc, rfl, hs⟩ | ⟨u, r, hu, rfl, hs⟩ <;>
      rcases bindName_cases t with ⟨rfl, ht⟩ | ⟨d, r', hd, rfl, ht⟩ | ⟨v, r', hv, rfl, ht⟩ <;>
      simp only [hs, ht, reduceCtorEq] at h
    · exact .nil
    · obtain ⟨rfl, htail⟩ := List.cons.inj h
      exact .char hc (ih r.length (by simp) htail rfl)
    · exact absurd (List.cons.inj h).1 (ne_underscore_of_isAlphanumeric hc)
    · exact absurd (List.cons.inj h).1.symm (ne_underscore_of_isAlphanumeric hd)
    · have hshorter : r.length < (u ++ r).length := by
        have := List.length_pos_iff.2 hu.1
        rw [List.length_append]
        omega
      exact .gap hu hv (ih r.length hshorter (List.cons.inj h).2 rfl)

/-- Two names are turned into one variable exactly if they have the same letters and numerals and are broken
at the same places. -/
theorem bindName_eq_iff : bindName s = bindName t ↔ s.BrokenAlike t :=
  ⟨brokenAlike_of_bindName_eq, fun h => h.bindNameFrom_eq false⟩

/-! ## Names that stay as they are -/

theorem bindNameFrom_eq_self (h : s.IsBindName) {inRun : Bool} (hstart : inRun = true → s.head? ≠ some '_') :
    bindNameFrom inRun s = s := by
  obtain ⟨hwords, hchain⟩ := h
  induction s generalizing inRun with
  | nil => rfl
  | cons c s ih =>
    obtain ⟨hc, hrest⟩ := List.forall_mem_cons.1 hwords
    obtain ⟨hnext, htail⟩ := List.isChain_cons.1 hchain
    cases halpha : Character.isAlphanumeric c with
    | true => rw [bindNameFrom_char halpha, bindName, ih (fun h => absurd h Bool.false_ne_true) hrest htail]
    | false =>
      rw [Character.isWordChar, halpha, Bool.false_or, beq_iff_eq] at hc
      subst hc
      cases inRun with
      | true => exact absurd rfl (hstart rfl)
      | false =>
        -- the next character is no underscore, so the run ends here
        rw [bindNameFrom, halpha, if_neg Bool.false_ne_true, if_neg Bool.false_ne_true,
          ih (fun _ h => hnext '_' h ⟨rfl, rfl⟩) hrest htail]

theorem bindName_eq_self (h : s.IsBindName) : bindName s = s :=
  bindNameFrom_eq_self h fun h => by cases h

/-! ## The form of a name of a variable -/

theorem Text.IsBindName.cons (hs : s.IsBindName) (hc : Character.isWordChar c = true)
    (hnext : c = '_' → s.head? ≠ some '_') : IsBindName (c :: s) := by
  refine ⟨List.forall_mem_cons.2 ⟨hc, hs.1⟩, List.isChain_cons.2 ⟨?_, hs.2⟩⟩
  rintro b hb ⟨hmark, rfl⟩
  exact hnext hmark hb

/-- From any place on, the name of a variable has the form of one; behind a run it does not begin with a
second underscore. -/
theorem isBindName_bindNameFrom (inRun : Bool) (s : Text) :
    (bindNameFrom inRun s).IsBindName ∧ (inRun = true → (bindNameFrom inRun s).head? ≠ some '_') := by
  fun_induction bindNameFrom inRun s with
  | case1 => exact ⟨⟨by simp, .nil⟩, by simp⟩
  | case2 inRun c rest hc ih =>
    have hne : c ≠ '_' := ne_underscore_of_isAlphanumeric hc
    have hword : Character.isWordChar c = true := by rw [Character.isWordChar, hc, Bool.true_or]
    constructor
    · exact ih.1.cons hword fun hmark => absurd hmark hne
    · intro _ h
      exact hne (Option.some.inj h)
  | case3 c rest hc ih => exact ih
  | case4 inRun c rest hc hrun ih =>
    constructor
    · exact ih.1.cons (by decide) fun _ => ih.2 rfl
    · intro h
      exact absurd h hrun

theorem isBindName_bindName (s : Text) : (bindName s).IsBindName := (isBindName_bindNameFrom false s).1

/-- Of the names that a variable can have, the one that is broken like the given name is taken. -/
theorem bindName_eq_iff_isBindName : bindName s = t ↔ t.IsBindName ∧ s.BrokenAlike t := by
  constructor
  · rintro rfl
    have hname := isBindName_bindName s
    exact ⟨hname, bindName_eq_iff.1 (bindName_eq_self hname).symm⟩
  · rintro ⟨hname, halike⟩
    rw [bindName_eq_iff.2 halike, bindName_eq_self hname]

theorem Text.IsBreak.filter_eq_nil (hu : u.IsBreak) : u.filter Character.isAlphanumeric = [] := by
  rw [List.filter_eq_nil_iff]
  intro c hc
  rw [hu.2 c hc]
  exact Bool.false_ne_true

theorem Text.BrokenAlike.filter_eq (h : s.BrokenAlike t) :
    s.filter Character.isAlphanumeric = t.filter Character.isAlphanumeric := by
  induction h with
  | nil => rfl
  | char hc _ ih => rw [List.filter_cons_of_pos hc, List.filter_cons_of_pos hc, ih]
  | gap hu hv _ ih => rw [List.filter_append, List.filter_append, hu.filter_eq_nil, hv.filter_eq_nil, ih]

end

/-- The name of a variable is made of letters, numerals and single underscores and has exactly the letters and
numerals of the given name, in order. It is the name of its own variable, as exactly the names of this form
are. -/
theorem isBindName_bindName_and_eq_self_iff (name : Text) :
    (bindName name).IsBindName ∧
      (bindName name).filter Character.isAlphanumeric = name.filter Character.isAlphanumeric ∧
      bindName (bindName name) = bindName name ∧ (bindName name = name ↔ name.IsBindName) := by
  obtain ⟨hname, halike⟩ := bindName_eq_iff_isBindName.1 (rfl : bindName name = bindName name)
  refine ⟨hname, halike.filter_eq.symm, bindName_eq_self hname, ?_, bindName_eq_self⟩
  intro h
  rw [h] at hname
  exact hname

/-! ## The variables of a call -/

/-- The parameters whose values go into the routine. -/
def Routine.inputs (r : Routine) : List Parameter := r.parameters.filter (·.direction = .input)

/-- The name of a parameter; none at all counts as an empty one. -/
def Parameter.givenName (a : Parameter) : Text := a.name.getD []

/-- The bind variables among the arguments of a call. -/
def bindVariables (arguments : List Text) : List Text := arguments.filter (·.beginsWith ":")

namespace Profile

/-- What stands for a parameter in a call is a bind variable just if its value goes in. -/
theorem filter_argument? (p : Profile) (a : Parameter) :
    (p.argument? a).filter (·.beginsWith ":") =
      if a.direction = .input then some (':' :: bindName a.givenName) else none := by
  unfold argument?
  cases hdirection : a.direction with
  | input => rfl
  | result => rfl
  | output | both => cases p.callIncludesOutput <;> rfl

theorem bindVariables_callArguments (p : Profile) (r : Routine) :
    bindVariables (p.callArguments r) = r.inputs.map fun a => ':' :: bindName a.givenName := by
  unfold bindVariables callArguments Routine.inputs
  rw [List.filter_filterMap, ← List.filterMap_eq_map, List.filterMap_filter]
  refine List.filterMap_congr fun a _ => ?_
  simp only [p.filter_argument? a, decide_eq_true_eq, Function.comp_apply]

end Profile

/-- The arguments of a call stand in brackets behind the name of the routine. -/
theorem Dialect.exists_call_eq (d : Dialect) (r : Routine) :
    ∃ behind, d.call r = (if d.profile.bracketsAroundCall then ['{', ' '] else []) ++ d.profile.callWord r ++ " " ++
      d.routineName r ++ "(" ++ Text.join "," (d.profile.callArguments r) ++ ")" ++ behind := by
  refine ⟨(if (d.profile.callEnd r).isEmpty then [] else ' ' :: d.profile.callEnd r) ++
    (if d.profile.bracketsAroundCall then [' ', '}'] else [';']) ++ ['\n', '\n'], ?_⟩
  cases hbrackets : d.profile.bracketsAroundCall <;> cases hend : (d.profile.callEnd r).isEmpty <;>
    simp [call, generateCall, hbrackets, hend]

/-- The variables of a call differ from each other exactly if no two input parameters have names that are
broken alike. Different names of letters, numerals and single underscores never are. The statement has
the variables among the arguments behind the name of the routine. -/
theorem nodup_bindVariables_iff (d : Dialect) (r : Routine) :
    ((bindVariables (d.profile.callArguments r)).Nodup ↔
        r.inputs.Pairwise fun a b => ¬ a.givenName.BrokenAlike b.givenName) ∧
      ((∀ a ∈ r.inputs, a.givenName.IsBindName) → (r.inputs.map Parameter.givenName).Nodup →
        (bindVariables (d.profile.callArguments r)).Nodup) ∧
      ∃ behind, d.call r = (if d.profile.bracketsAroundCall then ['{', ' '] else []) ++ d.profile.callWord r ++ " " ++
        d.routineName r ++ "(" ++ Text.join "," (d.profile.callArguments r) ++ ")" ++ behind := by
  have hvariables : (bindVariables (d.profile.callArguments r)).Nodup ↔
      r.inputs.Pairwise fun a b => ¬ a.givenName.BrokenAlike b.givenName := by
    rw [Profile.bindVariables_callArguments, List.Nodup, List.pairwise_map]
    simp only [ne_eq, List.cons.injEq, true_and, bindName_eq_iff]
  refine ⟨hvariables, fun hnames hdistinct => hvariables.2 ?_, d.exists_call_eq r⟩
  refine (List.pairwise_map.1 hdistinct).imp_of_mem fun {a b} ha hb hne halike => hne ?_
  rw [← bindName_eq_self (hnames a ha), ← bindName_eq_self (hnames b hb), bindName_eq_iff.2 halike]

/-- A function of parameters with these names, whose values all go in. -/
def Routine.ofInputs (names : List Text) : Routine where
  name := some "f"
  kind := .function
  parameters := names.map fun name => { name := some name }

theorem nodup_bindVariables_iff_of_names :
    (∀ a ∈ (Routine.ofInputs ["p_1", "_p1", "größe"]).inputs, a.givenName.IsBindName) ∧
      ((Routine.ofInputs ["p_1", "_p1", "größe"]).inputs.map Parameter.givenName).Nodup ∧
      (bindVariables (Dialect.oracle.profile.callArguments (Routine.ofInputs ["p_1", "_p1", "größe"]))).Nodup := by
  have hnames : ∀ a ∈ (Routine.ofInputs ["p_1", "_p1", "größe"]).inputs, a.givenName.IsBindName := by decide
  have hdistinct : ((Routine.ofInputs ["p_1", "_p1", "größe"]).inputs.map Parameter.givenName).Nodup := by decide
  obtain ⟨-, hvariables, -⟩ := nodup_bindVariables_iff .oracle (Routine.ofInputs ["p_1", "_p1", "größe"])
  exact ⟨hnames, hdistinct, hvariables hnames hdistinct⟩

/-- A blank and an underscore break two names alike, so two parameters share one variable. -/
theorem not_nodup_bindVariables :
    (∀ a ∈ (Routine.ofInputs ["a b", "a_b"]).inputs, a.givenName ≠ []) ∧
      ((Routine.ofInputs ["a b", "a_b"]).inputs.map Parameter.givenName).Nodup ∧
      ¬ (bindVariables (Dialect.generic.profile.callArguments (Routine.ofInputs ["a b", "a_b"]))).Nodup := by
  decide

end SqlDialects
