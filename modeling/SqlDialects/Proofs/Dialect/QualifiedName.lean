/-
Qualified names are unambiguous: where two of them are written alike, the names that they were made of
are the same (`givenNames_eq_of_qualifiedName_eq`). A reader that knows the marks of the engine finds the
first name of a text and what follows it (`Engine.readName_quote`), and behind a name there stands nothing
or one of the two separators, so the names are found one after another. An engine that does not double its
closing mark is left out.
-/
import SqlDialects.Proofs.Dialect.Identifier
import SqlDialects.Proofs.Text.Run

namespace SqlDialects

/-! ## Names that are given -/

/-- The names that are there: missing and empty ones are left out. -/
def givenNames (names : List (Option Text)) : List Text :=
  names.filterMap fun name => name.filter (!·.isEmpty)

theorem givenNames_cons_of_nil {name : Option Text} (h : name.getD [] = []) (names : List (Option Text)) :
    givenNames (name :: names) = givenNames names := by
  cases name with
  | none => rfl
  | some name =>
    obtain rfl : name = [] := h
    rfl

theorem givenNames_cons_of_cons {name : Option Text} {a : Char} {s : Text} (h : name.getD [] = a :: s)
    (names : List (Option Text)) : givenNames (name :: names) = (a :: s) :: givenNames names := by
  cases name with
  | none => cases h
  | some name =>
    obtain rfl : name = a :: s := h
    rfl

theorem givenNames_cons (name : Option Text) (names : List (Option Text)) :
    givenNames (name :: names) = givenNames [name] ++ givenNames names := by
  rw [← List.singleton_append, givenNames, List.filterMap_append]
  rfl

/-- A missing name is the same as an empty one. -/
theorem getD_eq_of_givenNames_eq {name name' : Option Text} (h : givenNames [name] = givenNames [name']) :
    name.getD [] = name'.getD [] := by
  cases hname : name.getD [] with
  | nil =>
    cases hname' : name'.getD [] with
    | nil => rfl
    | cons a s => rw [givenNames_cons_of_nil hname, givenNames_cons_of_cons hname'] at h; cases h
  | cons a s =>
    cases hname' : name'.getD [] with
    | nil => rw [givenNames_cons_of_cons hname, givenNames_cons_of_nil hname'] at h; cases h
    | cons a' s' =>
      rw [givenNames_cons_of_cons hname, givenNames_cons_of_cons hname'] at h
      exact (List.cons.inj h).1

theorem ne_nil_of_mem_givenNames {names : List (Option Text)} {name : Text} (h : name ∈ givenNames names) :
    name ≠ [] := by
  obtain ⟨name', -, hname⟩ := List.mem_filterMap.1 h
  simpa using (Option.filter_eq_some_iff.1 hname).2

/-! ## How a qualified name is put together -/

theorem Text.join_cons (separator part : Text) (parts : List Text) :
    join separator (part :: parts) = part ++ parts.flatMap fun p => separator ++ p := by
  unfold join
  induction parts generalizing part with
  | nil => simp
  | cons p parts ih =>
    rw [List.intercalate_cons_cons, ih, List.flatMap_cons, List.append_assoc, List.append_assoc]

namespace Dialect

variable {d : Dialect} {force : Bool}

/-- The names as the dialect writes them, with a separator between neighbours. -/
def joined (d : Dialect) (force : Bool) (names : List Text) : Text :=
  Text.join d.profile.nameSeparator (names.map fun name => d.quote name false force)

/-- The names as the dialect writes them, each behind a separator. -/
def chained (d : Dialect) (force : Bool) (separator : Text) (names : List Text) : Text :=
  names.flatMap fun name => separator ++ d.quote name false force

theorem joined_cons (name : Text) (names : List Text) :
    d.joined force (name :: names) =
      d.quote name false force ++ d.chained force d.profile.nameSeparator names := by
  rw [joined, List.map_cons, Text.join_cons, List.flatMap_map]
  rfl

theorem chained_cons (separator name : Text) (names : List Text) :
    d.chained force separator (name :: names) =
      separator ++ d.quote name false force ++ d.chained force separator names := by
  rw [chained, List.flatMap_cons]
  rfl

/-- A chain is what its names are when they are joined, but for the separator in front. -/
theorem chained_of_ne_nil {names : List Text} (hne : names ≠ []) :
    d.chained force d.profile.nameSeparator names = d.profile.nameSeparator ++ d.joined force names := by
  obtain ⟨name, names, rfl⟩ := List.exists_cons_of_ne_nil hne
  rw [chained_cons, joined_cons, List.append_assoc]

variable {parts : List (Option Text)} {catalog : Option Text}

theorem qualifiedName_of_nil (h : catalog.getD [] = []) :
    d.qualifiedName parts catalog force = d.joined force (givenNames parts) := by
  simp only [qualifiedName, h]
  rfl

theorem qualifiedName_of_cons {a : Char} {s : Text} (h : catalog.getD [] = a :: s)
    (hne : d.joined force (givenNames parts) ≠ []) :
    d.qualifiedName parts catalog force =
      if d.profile.catalogFirst then
        d.quote (a :: s) false force ++ d.profile.catalogSeparator ++ d.joined force (givenNames parts)
      else
        d.joined force (givenNames parts) ++ d.profile.catalogSeparator ++ d.quote (a :: s) false force := by
  have hname : (d.joined force (givenNames parts)).isEmpty = false := List.isEmpty_eq_false_iff.2 hne
  simp only [qualifiedName, h]
  exact if_neg (by rw [Bool.not_eq_true]; exact hname)

/-- A catalog that comes first and is separated like any other name is one more name in front. -/
theorem qualifiedName_of_catalogFirst (hfirst : d.profile.catalogFirst = true)
    (hseparator : d.profile.catalogSeparator = d.profile.nameSeparator)
    (hne : d.joined force (givenNames parts) ≠ []) :
    d.qualifiedName parts catalog force = d.joined force (givenNames (catalog :: parts)) := by
  cases hc : catalog.getD [] with
  | nil => rw [qualifiedName_of_nil hc, givenNames_cons_of_nil hc]
  | cons a s =>
    have hparts : givenNames parts ≠ [] := fun h => hne (by rw [h]; rfl)
    rw [qualifiedName_of_cons hc hne, if_pos hfirst, givenNames_cons_of_cons hc, joined_cons,
      chained_of_ne_nil hparts, hseparator, List.append_assoc]

/-- A catalog that does not come first stands behind a separator of its own. -/
theorem qualifiedName_of_catalogLast (hfirst : d.profile.catalogFirst = false)
    (hne : d.joined force (givenNames parts) ≠ []) :
    d.qualifiedName parts catalog force =
      d.joined force (givenNames parts) ++
        d.chained force d.profile.catalogSeparator (givenNames [catalog]) := by
  cases hc : catalog.getD [] with
  | nil =>
    rw [qualifiedName_of_nil hc, givenNames_cons_of_nil hc]
    exact (List.append_nil _).symm
  | cons a s =>
    rw [qualifiedName_of_cons hc hne, hfirst, givenNames_cons_of_cons hc, chained_cons]
    simp [givenNames, chained]

end Dialect

/-! ## Reading names -/

namespace Engine

/-- Reading the name that a text begins with, and what follows it: between the marks of the engine up to
the closing one, and without marks as far as the characters of names go. -/
def readName (e : Engine) : Text → Option (Text × Text)
  | [] => none
  | c :: rest =>
    if c = e.quotationMarks.1 then Text.readQuoted e.quotationMarks.2 none rest
    else some ((c :: rest).takeWhile e.dialect.profile.validPart, (c :: rest).dropWhile e.dialect.profile.validPart)

/-- The name is there and does not stand between quotation marks yet. -/
def Unquoted (e : Engine) (name : Text) : Prop := name ≠ [] ∧ e.dialect.profile.isQuoted name = false

/-- The characters that separate names. -/
def nameSeparators : Text := ['.', '@']

variable {e : Engine} {x y rest rest' : Text} {force force' : Bool}

theorem validPart_of_validStart {c : Char} (h : e.dialect.profile.validStart c = true) :
    e.dialect.profile.validPart c = true := by
  have hletter : Character.isLetter c = true := by
    cases e <;> exact h
  have hpart : Policy.isLetterDigitOrUnderscore c = true := by simp [Policy.isLetterDigitOrUnderscore, hletter]
  cases e <;> exact hpart

/-- The opening mark begins no bare name, and a separator is neither the closing mark nor a part of a bare
name. -/
theorem marks_separators (e : Engine) :
    e.dialect.profile.validStart e.quotationMarks.1 = false ∧
      ∀ a ∈ nameSeparators, a ≠ e.quotationMarks.2 ∧ e.dialect.profile.validPart a = false := by
  rw [nameSeparators, List.forall_mem_cons, List.forall_mem_singleton]
  cases e <;> decide

/-- A reader finds what the dialect has written for a name, whatever stands behind a separator. -/
theorem readName_quote (he : e ≠ mysql) (hx : e.Unquoted x) (hrest : ∀ a ∈ rest.head?, a ∈ nameSeparators) :
    e.readName (e.dialect.quote x false force ++ rest) = some (x, rest) := by
  obtain ⟨hopening, hseparators⟩ := e.marks_separators
  rcases Dialect.quote_eq_or e.head?_identifierQuotes hx.1 hx.2 false force with hq | ⟨hq, hbare⟩
  · have hstop : rest.head? ≠ some e.quotationMarks.2 := fun h => (hseparators _ (hrest _ h)).1 rfl
    rw [hq, Profile.enquote, escapeIdentifier_profile he, List.append_assoc, List.append_assoc,
      List.singleton_append, List.singleton_append, readName, if_pos rfl]
    exact Text.readQuoted_double x hstop
  · obtain ⟨c, s, rfl⟩ := List.exists_cons_of_ne_nil hx.1
    obtain ⟨hstart, hparts, -⟩ := Dialect.of_mustBeQuoted_eq_false e.quoteReservedWords_profile hbare
    have hc : c ≠ e.quotationMarks.1 := by
      rintro rfl
      rw [hopening] at hstart
      cases hstart
    have hall : ∀ a ∈ c :: s, e.dialect.profile.validPart a = true :=
      List.forall_mem_cons.2 ⟨validPart_of_validStart hstart, hparts⟩
    have hstop : ∀ a ∈ rest.head?, e.dialect.profile.validPart a = false := fun a ha => (hseparators a (hrest a ha)).2
    rw [hq, List.cons_append, readName, if_neg hc, ← List.cons_append, Text.takeWhile_append_of_head hall hstop,
      Text.dropWhile_append_of_head hall hstop]

theorem quote_ne_nil (he : e ≠ mysql) (hx : e.Unquoted x) : e.dialect.quote x false force ≠ [] := by
  intro hnil
  have hread : e.readName (e.dialect.quote x false force ++ []) = some (x, []) := readName_quote he hx (by simp)
  rw [hnil] at hread
  cases hread

/-! ## One name after another -/

/-- Of two texts that begin with a written name and are the same, the names and what follows them are the
same. -/
theorem quote_append_inj (he : e ≠ mysql) (hx : e.Unquoted x) (hy : e.Unquoted y)
    (hrest : ∀ a ∈ rest.head?, a ∈ nameSeparators) (hrest' : ∀ a ∈ rest'.head?, a ∈ nameSeparators)
    (h : e.dialect.quote x false force ++ rest = e.dialect.quote y false force' ++ rest') :
    x = y ∧ rest = rest' := by
  have hread : e.readName (e.dialect.quote x false force ++ rest) = some (x, rest) := readName_quote he hx hrest
  rw [h, readName_quote he hy hrest'] at hread
  cases hread
  exact ⟨rfl, rfl⟩

variable {a : Char} {xs ys : List Text}

/-- What follows a written name begins with a separator again. -/
theorem head?_chained_append (ha : a ∈ nameSeparators) (hrest : ∀ b ∈ rest.head?, b ∈ nameSeparators) :
    ∀ b ∈ (e.dialect.chained force [a] xs ++ rest).head?, b ∈ nameSeparators := by
  cases xs with
  | nil => exact hrest
  | cons x xs =>
    intro b hb
    obtain rfl : a = b := Option.some.inj hb
    exact ha

/-- Chains of names are the same name by name, and so is what follows them, which begins with another
separator. -/
theorem chained_append_inj (he : e ≠ mysql) (ha : a ∈ nameSeparators) (hxs : ∀ x ∈ xs, e.Unquoted x)
    (hys : ∀ y ∈ ys, e.Unquoted y) (hrest : ∀ b ∈ rest.head?, b ≠ a ∧ b ∈ nameSeparators)
    (hrest' : ∀ b ∈ rest'.head?, b ≠ a ∧ b ∈ nameSeparators)
    (h : e.dialect.chained force [a] xs ++ rest = e.dialect.chained force' [a] ys ++ rest') :
    xs = ys ∧ rest = rest' := by
  induction xs generalizing ys with
  | nil =>
    cases ys with
    | nil => exact ⟨rfl, h⟩
    | cons y ys =>
      obtain rfl : rest = _ := h
      exact absurd rfl (hrest a rfl).1
  | cons x xs ih =>
    cases ys with
    | nil =>
      obtain rfl : _ = rest' := h
      exact absurd rfl (hrest' a rfl).1
    | cons y ys =>
      rw [List.forall_mem_cons] at hxs hys
      rw [Dialect.chained_cons, Dialect.chained_cons] at h
      simp only [List.append_assoc, List.singleton_append] at h
      obtain ⟨hxy, hmore⟩ := quote_append_inj he hxs.1 hys.1
        (head?_chained_append ha fun b hb => (hrest b hb).2)
        (head?_chained_append ha fun b hb => (hrest' b hb).2) (List.cons.inj h).2
      obtain ⟨hxys, hrests⟩ := ih hxs.2 hys.2 hmore
      exact ⟨by rw [hxy, hxys], hrests⟩

/-- The same of names that are joined, which are a chain but for the separator in front. -/
theorem joined_append_inj (he : e ≠ mysql) (hne : xs ≠ []) (hne' : ys ≠ []) (hxs : ∀ x ∈ xs, e.Unquoted x)
    (hys : ∀ y ∈ ys, e.Unquoted y) (hrest : ∀ b ∈ rest.head?, b = '@') (hrest' : ∀ b ∈ rest'.head?, b = '@')
    (h : e.dialect.joined force xs ++ rest = e.dialect.joined force' ys ++ rest') :
    xs = ys ∧ rest = rest' := by
  have hseparator : e.dialect.profile.nameSeparator = ['.'] := by cases e <;> rfl
  have hstops {t : Text} (ht : ∀ b ∈ t.head?, b = '@') : ∀ b ∈ t.head?, b ≠ '.' ∧ b ∈ nameSeparators := by
    intro b hb
    rw [ht b hb]
    decide
  have hchain : e.dialect.chained force ['.'] xs ++ rest = e.dialect.chained force' ['.'] ys ++ rest' := by
    rw [← hseparator, Dialect.chained_of_ne_nil hne, Dialect.chained_of_ne_nil hne', List.append_assoc,
      List.append_assoc, h]
  exact chained_append_inj he (by decide) hxs hys (hstops hrest) (hstops hrest') hchain

theorem joined_ne_nil (he : e ≠ mysql) (hne : xs ≠ []) (hxs : ∀ x ∈ xs, e.Unquoted x) :
    e.dialect.joined force xs ≠ [] := by
  obtain ⟨x, xs, rfl⟩ := List.exists_cons_of_ne_nil hne
  rw [Dialect.joined_cons]
  exact List.append_ne_nil_of_left_ne_nil (quote_ne_nil he (hxs x List.mem_cons_self)) _

/-! ## Qualified names -/

variable {parts parts' : List (Option Text)} {catalog catalog' : Option Text}

/-- Where the catalog comes first, it is one of the names that are found one after another. -/
theorem givenNames_eq_of_catalogFirst (he : e ≠ mysql) (hfirst : e ≠ oracle) (hne : givenNames parts ≠ [])
    (hne' : givenNames parts' ≠ []) (hnames : ∀ name ∈ givenNames (catalog :: parts), e.Unquoted name)
    (hnames' : ∀ name ∈ givenNames (catalog' :: parts'), e.Unquoted name)
    (h : e.dialect.qualifiedName parts catalog force = e.dialect.qualifiedName parts' catalog' force') :
    givenNames (catalog :: parts) = givenNames (catalog' :: parts') := by
  have hprofile : e.dialect.profile.catalogFirst = true ∧
      e.dialect.profile.catalogSeparator = e.dialect.profile.nameSeparator := by
    cases e with
    | oracle => exact absurd rfl hfirst
    | generic | postgres | mysql | sqlite | mssql => exact ⟨rfl, rfl⟩
  have hwritten {parts : List (Option Text)} {catalog : Option Text} {force : Bool} (hne : givenNames parts ≠ [])
      (hnames : ∀ name ∈ givenNames (catalog :: parts), e.Unquoted name) :
      e.dialect.qualifiedName parts catalog force = e.dialect.joined force (givenNames (catalog :: parts)) := by
    rw [givenNames_cons, List.forall_mem_append] at hnames
    exact Dialect.qualifiedName_of_catalogFirst hprofile.1 hprofile.2 (joined_ne_nil he hne hnames.2)
  have hcons {parts : List (Option Text)} {catalog : Option Text} (hne : givenNames parts ≠ []) :
      givenNames (catalog :: parts) ≠ [] := by
    rw [givenNames_cons]
    exact List.append_ne_nil_of_right_ne_nil _ hne
  rw [hwritten hne hnames, hwritten hne' hnames', ← List.append_nil (e.dialect.joined force _),
    ← List.append_nil (e.dialect.joined force' _)] at h
  exact (joined_append_inj he (hcons hne) (hcons hne') hnames hnames' (by simp) (by simp) h).1

/-- Where the catalog comes last, its separator tells it from the other names. -/
theorem givenNames_eq_of_catalogLast (hne : givenNames parts ≠ []) (hne' : givenNames parts' ≠ [])
    (hnames : ∀ name ∈ givenNames (catalog :: parts), oracle.Unquoted name)
    (hnames' : ∀ name ∈ givenNames (catalog' :: parts'), oracle.Unquoted name)
    (h : oracle.dialect.qualifiedName parts catalog force = oracle.dialect.qualifiedName parts' catalog' force') :
    givenNames parts = givenNames parts' ∧ givenNames [catalog] = givenNames [catalog'] := by
  have he : oracle ≠ mysql := by decide
  rw [givenNames_cons, List.forall_mem_append] at hnames hnames'
  rw [Dialect.qualifiedName_of_catalogLast rfl (joined_ne_nil he hne hnames.2),
    Dialect.qualifiedName_of_catalogLast rfl (joined_ne_nil he hne' hnames'.2)] at h
  have hat {force : Bool} {names : List Text} :
      ∀ b ∈ (oracle.dialect.chained force ['@'] names).head?, b = '@' := by
    intro b hb
    cases names with
    | nil => cases hb
    | cons name names => exact (Option.some.inj hb).symm
  obtain ⟨hparts, hcatalogs⟩ := joined_append_inj he hne hne' hnames.2 hnames'.2 hat hat h
  rw [← List.append_nil (oracle.dialect.chained force _ _), ← List.append_nil (oracle.dialect.chained force' _ _)]
    at hcatalogs
  exact ⟨hparts, (chained_append_inj he (by decide) hnames.1 hnames'.1 (by simp) (by simp) hcatalogs).1⟩

end Engine

/-- Two qualified names that are written alike are made of the same names, if each has a part that is given
and none of the names is quoted yet. Where the catalog comes first it may be a part of the one and the
catalog of the other; where it comes last, the parts are the same and so are the catalogs. -/
theorem givenNames_eq_of_qualifiedName_eq {e : Engine} (he : e ≠ .mysql) {force force' : Bool}
    {parts parts' : List (Option Text)} {catalog catalog' : Option Text} (hne : givenNames parts ≠ [])
    (hne' : givenNames parts' ≠ [])
    (hunquoted : ∀ name ∈ givenNames (catalog :: parts), e.dialect.profile.isQuoted name = false)
    (hunquoted' : ∀ name ∈ givenNames (catalog' :: parts'), e.dialect.profile.isQuoted name = false)
    (h : e.dialect.qualifiedName parts catalog force = e.dialect.qualifiedName parts' catalog' force') :
    if e = .oracle then givenNames parts = givenNames parts' ∧ catalog.getD [] = catalog'.getD []
    else givenNames (catalog :: parts) = givenNames (catalog' :: parts') := by
  have hnames : ∀ name ∈ givenNames (catalog :: parts), e.Unquoted name :=
    fun name hname => ⟨ne_nil_of_mem_givenNames hname, hunquoted name hname⟩
  have hnames' : ∀ name ∈ givenNames (catalog' :: parts'), e.Unquoted name :=
    fun name hname => ⟨ne_nil_of_mem_givenNames hname, hunquoted' name hname⟩
  split
  · rename_i horacle
    subst horacle
    obtain ⟨hparts, hcatalogs⟩ := Engine.givenNames_eq_of_catalogLast hne hne' hnames hnames' h
    exact ⟨hparts, getD_eq_of_givenNames_eq hcatalogs⟩
  · rename_i hfirst
    exact Engine.givenNames_eq_of_catalogFirst he hfirst hne hne' hnames hnames' h

/-- Names with separators and marks in them, the catalog of the one being a part of the other. -/
theorem givenNames_eq_of_qualifiedName_eq_sqlite :
    Engine.sqlite ≠ .mysql ∧ givenNames [some "a.b", some "x\"."] ≠ [] ∧
      givenNames [some "c", none, some "a.b", some "x\"."] ≠ [] ∧
      (∀ name ∈ givenNames [some "c", some "a.b", some "x\"."],
        Engine.sqlite.dialect.profile.isQuoted name = false) ∧
      (∀ name ∈ givenNames [some [], some "c", none, some "a.b", some "x\"."],
        Engine.sqlite.dialect.profile.isQuoted name = false) ∧
      Engine.sqlite.dialect.qualifiedName [some "a.b", some "x\"."] (some "c") true =
        Engine.sqlite.dialect.qualifiedName [some "c", none, some "a.b", some "x\"."] (some []) true ∧
      if Engine.sqlite = .oracle then
        givenNames [some "a.b", some "x\"."] = givenNames [some "c", none, some "a.b", some "x\"."] ∧
          ("c" : Text) = []
      else
        givenNames [some "c", some "a.b", some "x\"."] =
          givenNames [some [], some "c", none, some "a.b", some "x\"."] := by
  have hunquoted : ∀ name ∈ givenNames [some "c", some "a.b", some "x\"."],
      Engine.sqlite.dialect.profile.isQuoted name = false := by decide
  have hunquoted' : ∀ name ∈ givenNames [some [], some "c", none, some "a.b", some "x\"."],
      Engine.sqlite.dialect.profile.isQuoted name = false := by decide
  have hwritten : Engine.sqlite.dialect.qualifiedName [some "a.b", some "x\"."] (some "c") true =
      Engine.sqlite.dialect.qualifiedName [some "c", none, some "a.b", some "x\"."] (some []) true := by
    decide
  exact ⟨by decide, by decide, by decide, hunquoted, hunquoted', hwritten,
    givenNames_eq_of_qualifiedName_eq (by decide) (by decide) (by decide) hunquoted hunquoted' hwritten⟩

end SqlDialects
