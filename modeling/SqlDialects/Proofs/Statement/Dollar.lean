/-
The delimiters of dollar quoted texts: two dollar signs with a tag between them, which is a name or nothing
(`Text.delimiter?_eq_some_iff`). As there is no dollar sign in a tag, a text begins with a certain delimiter just if
it begins with that text (`Text.isPrefixOf_iff_of_delimiter?`). So a dollar quoted text ends where its delimiter comes
next (`Cursor.endOfFirst?_of_dollarOpener`).
-/
import SqlDialects.Proofs.Statement.Word

namespace SqlDialects

open Cursor Pattern

variable {c d : Cursor} {s t u : Text}

/-- The text may stand between the dollar signs of a delimiter. -/
def Text.IsTag (s : Text) : Prop :=
  s = [] ∨ ∃ (a : Char) (rest : Text), s = a :: rest ∧ Rule.nameStartOrUnderscore.holds a = true ∧
    ∀ b ∈ rest, Character.isWordChar b = true

theorem Text.IsTag.dollar_notMem (h : s.IsTag) : '$' ∉ s := by
  rcases h with rfl | ⟨a, rest, rfl, ha, hrest⟩
  · exact List.not_mem_nil
  · intro hmem
    rcases List.mem_cons.1 hmem with rfl | hmem
    · revert ha
      decide
    · have := hrest _ hmem
      revert this
      decide

theorem leads_dollarDelimiter_iff :
    dollarDelimiter.Leads c d ↔ ∃ tag : Text, tag.IsTag ∧ c.Passes ('$' :: (tag ++ ['$'])) d := by
  constructor
  · rintro ⟨f, ⟨e, hopening, htag⟩, hclosing⟩
    have hopening := leads_exactly_iff.1 hopening
    have hclosing := leads_exactly_iff.1 hclosing
    rcases htag with ⟨g, hfirst, hmany⟩ | rfl
    · obtain ⟨a, ha, hfirst⟩ := leads_one_iff.1 hfirst
      obtain ⟨v, hv, hrest⟩ := leads_many_one_iff.1 hmany
      exact ⟨a :: v, .inr ⟨a, v, rfl, ha, hv⟩, (hopening.append (hfirst.append hrest)).append hclosing⟩
    · exact ⟨[], .inl rfl, hopening.append hclosing⟩
  · rintro ⟨tag, htag, hpass⟩
    obtain ⟨f, hpass, hclosing⟩ := passes_append_iff.1 (show c.Passes (('$' :: tag) ++ ['$']) d from hpass)
    obtain ⟨e, hopening, hpass⟩ := passes_append_iff.1 (show c.Passes (['$'] ++ tag) f from hpass)
    refine ⟨f, ⟨e, leads_exactly_iff.2 hopening, ?_⟩, leads_exactly_iff.2 hclosing⟩
    rcases htag with rfl | ⟨a, v, rfl, ha, hv⟩
    · exact .inr (passes_nil_iff.1 hpass)
    · obtain ⟨g, hfirst, hrest⟩ := passes_append_iff.1 (show e.Passes ([a] ++ v) f from hpass)
      exact .inl ⟨g, leads_one_iff.2 ⟨a, ha, hfirst⟩, leads_many_one_iff.2 ⟨v, hv, hrest⟩⟩

/-! ## The delimiter with which a text begins -/

namespace Text

/-- The dollar delimiter with which the text begins, if it begins with one. -/
def delimiter? (s : Text) : Option Text := (dollarDelimiter.end? (start s)).map (start s).upTo

/-- A text begins with one delimiter at most: the tag ends at the first dollar sign. -/
theorem delimiter?_eq_some_iff :
    s.delimiter? = some u ↔ ∃ tag : Text, tag.IsTag ∧ u = '$' :: (tag ++ ['$']) ∧ u <+: s := by
  constructor
  · intro h
    obtain ⟨d, hd, rfl⟩ := Option.map_eq_some_iff.1 h
    obtain ⟨tag, htag, hpass⟩ := leads_dollarDelimiter_iff.1 (leads_of_end? hd)
    rw [hpass.upTo_eq]
    exact ⟨tag, htag, rfl, d.ahead, hpass.1.symm⟩
  · rintro ⟨tag, htag, rfl, rest, rfl⟩
    obtain ⟨d, hpass⟩ : ∃ d, (start ('$' :: (tag ++ ['$']) ++ rest)).Passes ('$' :: (tag ++ ['$'])) d :=
      ⟨_, passes_skip rfl⟩
    have hends : dollarDelimiter.end? (start ('$' :: (tag ++ ['$']) ++ rest)) = some d := by
      refine end?_of_unique (leads_dollarDelimiter_iff.2 ⟨tag, htag, hpass⟩) fun e he => ?_
      obtain ⟨tag', htag', hpass'⟩ := leads_dollarDelimiter_iff.1 he
      have hsame : tag ++ '$' :: rest = tag' ++ '$' :: e.ahead := by
        have := (show '$' :: (tag ++ ['$']) ++ rest = _ from hpass'.1)
        simpa using this
      have htake := congrArg (List.takeWhile (· ≠ '$')) hsame
      have hfree {v : Text} (hv : v.IsTag) : ∀ b ∈ v, decide (b ≠ '$') = true := fun b hb => by
        simpa using ne_of_mem_of_not_mem hb hv.dollar_notMem
      rw [Text.takeWhile_append_of_head (hfree htag) (by simp), Text.takeWhile_append_of_head (hfree htag') (by simp)]
        at htake
      rw [hpass'.2, hpass.2, htake]
    rw [delimiter?, hends, Option.map_some, hpass.upTo_eq]

/-- Whether a certain delimiter begins a text can be told by its characters. -/
theorem isPrefixOf_iff_of_delimiter? (hu : s.delimiter? = some u) :
    u.isPrefixOf t = true ↔ t.delimiter? = some u := by
  obtain ⟨tag, htag, rfl, -⟩ := delimiter?_eq_some_iff.1 hu
  rw [List.isPrefixOf_iff_prefix, delimiter?_eq_some_iff]
  exact ⟨fun h => ⟨tag, htag, rfl, h⟩, fun ⟨_, _, _, h⟩ => h⟩

end Text

/-! ## The delimiter that closes -/

namespace Text

/-- Where the delimiter comes next in the text. -/
def nextDelimiter? (u : Text) : Text → Option Nat
  | [] => none
  | a :: rest => if delimiter? (a :: rest) = some u then some 0 else (nextDelimiter? u rest).map (· + 1)

/-- How far behind the delimiter with which the text begins the same delimiter comes next. -/
def closingDelimiter? (s : Text) : Option Nat := s.delimiter?.bind fun u => nextDelimiter? u (s.drop u.length)

theorem ne_nil_of_delimiter? (hu : s.delimiter? = some u) : u ≠ [] := by
  obtain ⟨tag, -, rfl, -⟩ := delimiter?_eq_some_iff.1 hu
  exact List.cons_ne_nil _ _

/-- Looking for the characters of a delimiter finds the next place where a delimiter is equal to it. -/
theorem endOfFirst?_of_delimiter? (hu : s.delimiter? = some u) (t : Text) :
    endOfFirst? u t = (nextDelimiter? u t).map (· + u.length) := by
  induction t with
  | nil =>
    rw [endOfFirst?, if_neg (by simpa using ne_nil_of_delimiter? hu)]
    rfl
  | cons a t ih =>
    rw [endOfFirst?, nextDelimiter?, ih]
    by_cases hhere : delimiter? (a :: t) = some u
    · rw [if_pos ((isPrefixOf_iff_of_delimiter? hu).2 hhere), if_pos hhere, Option.map_some, Nat.zero_add]
    · rw [if_neg (mt (isPrefixOf_iff_of_delimiter? hu).1 hhere), if_neg hhere, Option.map_map, Option.map_map]
      exact congrArg (Option.map · _) (funext fun n => Nat.add_right_comm n u.length 1)

end Text

/-- What the lexer takes to open a dollar quoted text is the delimiter with which the rest of the text begins. -/
theorem Cursor.delimiter?_of_dollarOpener (h : dollarOpener.end? c = some d) :
    Text.delimiter? c.ahead = some (c.upTo d) := by
  obtain ⟨_, ⟨rfl, -⟩, hdelimiter⟩ := leads_of_end? h
  obtain ⟨tag, htag, hpass⟩ := leads_dollarDelimiter_iff.1 hdelimiter
  rw [hpass.upTo_eq]
  exact Text.delimiter?_eq_some_iff.2 ⟨tag, htag, rfl, d.ahead, hpass.1.symm⟩

/-- A dollar quoted text ends with the next delimiter that is equal to the one with which it begins. -/
theorem Cursor.endOfFirst?_of_dollarOpener (h : dollarOpener.end? c = some d) :
    Text.endOfFirst? (c.upTo d) d.ahead = (Text.closingDelimiter? c.ahead).map (· + (c.upTo d).length) := by
  have hopening := delimiter?_of_dollarOpener h
  obtain ⟨u, hu⟩ := exists_passes_of_leads (leads_of_end? h)
  rw [Text.endOfFirst?_of_delimiter? hopening, Text.closingDelimiter?, hopening, Option.bind_some]
  rw [hu.upTo_eq, hu.1, List.drop_left]

end SqlDialects
