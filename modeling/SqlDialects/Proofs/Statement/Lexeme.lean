/-
Finding the next lexeme: which rule decides, and what the place itself has to do with it. A rule looks at
what lies ahead and at no more than one character behind, and it asks of that one only whether it is one
that links what comes after it to what came before: a character of a word, a closing bracket, a point, a
dollar sign or a quotation mark. So behind any other character, as at the beginning of a text, the same
text is cut into the same lexemes (`Cursor.lexemes_eq_of_detached`).
-/
import SqlDialects.Proofs.Statement.Lockstep
import SqlDialects.Statement.Reader

namespace SqlDialects

/-! ## The first occurrence of a text -/

theorem Text.eq_append_of_endOfFirst? {part s : Text} {n : Nat} (h : Text.endOfFirst? part s = some n) :
    ∃ u v, s = u ++ part ++ v ∧ n = (u ++ part).length := by
  induction s generalizing n with
  | nil =>
    rw [endOfFirst?] at h
    split at h
    · rename_i hempty
      rw [List.isEmpty_iff.1 hempty]
      exact ⟨[], [], rfl, (Option.some.inj h).symm⟩
    · cases h
  | cons a s ih =>
    rw [endOfFirst?] at h
    split at h
    · rename_i hbegins
      obtain ⟨v, hv⟩ := List.isPrefixOf_iff_prefix.1 hbegins
      exact ⟨[], v, by simp [hv], by simpa using (Option.some.inj h).symm⟩
    · obtain ⟨m, hm, rfl⟩ := Option.map_eq_some_iff.1 h
      obtain ⟨u, v, rfl, rfl⟩ := ih hm
      exact ⟨a :: u, v, rfl, rfl⟩

theorem Text.exists_endOfFirst?_of_infix {part s : Text} (h : part <:+: s) : ∃ n, Text.endOfFirst? part s = some n := by
  induction s with
  | nil =>
    rw [List.infix_nil.1 h]
    exact ⟨0, rfl⟩
  | cons a s ih =>
    rw [endOfFirst?]
    split
    · exact ⟨_, rfl⟩
    · rename_i hbegins
      rw [List.isPrefixOf_iff_prefix] at hbegins
      obtain ⟨n, hn⟩ := ih ((List.infix_cons_iff.1 h).resolve_left hbegins)
      exact ⟨n + 1, by rw [hn, Option.map_some]⟩

/-- Behind the first occurrence of a text, that text has been passed over last. -/
theorem Cursor.exists_passes_of_behind? {closing : Text} {c d : Cursor} (h : c.behind? closing = some d) :
    ∃ u, c.Passes (u ++ closing) d := by
  obtain ⟨n, hn, rfl⟩ := Option.map_eq_some_iff.1 h
  obtain ⟨u, v, hahead, rfl⟩ := Text.eq_append_of_endOfFirst? hn
  exact ⟨u, passes_skip hahead⟩

/-! ## The rule that decides -/

namespace Rule

/-- The rules that come before another one. -/
def before (r : Rule) : List Rule := all.takeWhile (· ≠ r)

theorem all_eq_before {r : Rule} (hr : r ∈ all) : ∃ after, all = before r ++ r :: after := by
  have hsplit := List.takeWhile_append_dropWhile (p := (· ≠ r)) (l := all)
  have hne : all.dropWhile (· ≠ r) ≠ [] := by
    intro hnil
    have hall := List.dropWhile_eq_nil_iff.1 hnil r hr
    simp at hall
  obtain ⟨r', after, hafter⟩ := List.exists_cons_of_ne_nil hne
  have hfirst := List.head?_dropWhile_not (· ≠ r) all
  rw [hafter] at hfirst hsplit
  have hr' : r' = r := by simpa using hfirst
  rw [hr'] at hsplit
  exact ⟨after, hsplit.symm⟩

end Rule

namespace Cursor

variable {c : Cursor}

theorem span?_eq_none (hdollar : ∀ d, ¬ dollarOpener.Leads c d) (hblock : ∀ d, ¬ blockOpener.Leads c d) :
    c.span? = none := by
  unfold span?
  rw [Pattern.end?_eq_none_iff.2 hdollar, Pattern.end?_eq_none_iff.2 hblock]
  rfl

/-- If every rule before a certain one gives an answer of some sort or none, and that one gives such an
answer, the lexer does. -/
theorem exists_byRule? {r : Rule} {P : LexemeKind → Cursor → Prop} (hmem : r ∈ Rule.all)
    (hbefore : ∀ r' ∈ r.before, ∀ d, r'.pattern.end? c = some d → P r'.kind d)
    (hr : ∃ d, r.pattern.end? c = some d ∧ P r.kind d) : ∃ k d, c.byRule? = some (k, d) ∧ P k d := by
  obtain ⟨after, hall⟩ := Rule.all_eq_before hmem
  unfold byRule?
  rw [hall, List.findSome?_append]
  cases h : r.before.findSome? fun r => (r.pattern.end? c).map (r.kind, ·) with
  | some x =>
    obtain ⟨r', hmem, hx⟩ := List.exists_of_findSome?_eq_some h
    obtain ⟨d, hd, rfl⟩ := Option.map_eq_some_iff.1 hx
    exact ⟨_, d, rfl, hbefore r' hmem d hd⟩
  | none =>
    obtain ⟨d, hd, hP⟩ := hr
    refine ⟨r.kind, d, ?_, hP⟩
    rw [Option.none_or, List.findSome?_cons, hd]
    rfl

theorem next?_of_byRule? {x : LexemeKind × Cursor} (hc : c.ahead ≠ []) (hspan : c.span? = none)
    (h : c.byRule? = some x) : c.next? = some x := by
  unfold next?
  rw [if_neg (by simpa using hc), hspan, Option.none_or, h, Option.some_or]

/-- There is one next lexeme, and it ends at one place. -/
theorem next?_unique {k k' : LexemeKind} {d d' : Cursor} (h : c.next? = some (k, d)) (h' : c.next? = some (k', d')) :
    k = k' ∧ d = d' := by
  rw [h] at h'
  exact Prod.mk.inj (Option.some.inj h')

/-- A lexeme is a delimited span, or what the first rule that fits has taken, or a single character. -/
theorem next?_cases {k : LexemeKind} {d : Cursor} (h : c.next? = some (k, d)) :
    c.span? = some (k, d) ∨
      c.span? = none ∧ ((∃ r ∈ Rule.all, r.kind = k ∧ r.pattern.end? c = some d) ∨
        c.byRule? = none ∧ k = .other ∧ d = c.skip 1) := by
  unfold next? at h
  split at h
  · cases h
  · rcases Option.or_eq_some_iff.1 h with hfound | ⟨hnone, hsingle⟩
    · rcases Option.or_eq_some_iff.1 hfound with hspan | ⟨hspan, hrule⟩
      · exact .inl hspan
      · obtain ⟨r, hr, hrule⟩ := List.exists_of_findSome?_eq_some hrule
        obtain ⟨e, he, hke⟩ := Option.map_eq_some_iff.1 hrule
        obtain ⟨hk, rfl⟩ := Prod.mk.inj hke
        exact .inr ⟨hspan, .inl ⟨r, hr, hk, he⟩⟩
    · obtain ⟨hspan, hrule⟩ := Option.or_eq_none_iff.1 hnone
      obtain ⟨hk, hd⟩ := Prod.mk.inj (Option.some.inj hsingle)
      exact .inr ⟨hspan, .inr ⟨hrule, hk.symm, hd.symm⟩⟩

/-- A delimited span is a dollar quoted text or a block comment. -/
theorem span?_cases {k : LexemeKind} {d : Cursor} (h : c.span? = some (k, d)) :
    (k = .other ∧ ∃ e, dollarOpener.end? c = some e ∧ e.behind? (c.upTo e) = some d) ∨
      (k = .comment ∧ dollarOpener.end? c = none ∧ ∃ e, blockOpener.end? c = some e ∧ e.behind? "*/" = some d) := by
  unfold span? at h
  split at h
  · rename_i e he
    obtain ⟨_, hd, hx⟩ := Option.map_eq_some_iff.1 h
    obtain ⟨rfl, rfl⟩ := Prod.mk.inj hx
    exact .inl ⟨rfl, e, he, hd⟩
  · rename_i hnone
    obtain ⟨e, he, hx⟩ := Option.bind_eq_some_iff.1 h
    obtain ⟨_, hd, hx⟩ := Option.map_eq_some_iff.1 hx
    obtain ⟨rfl, rfl⟩ := Prod.mk.inj hx
    exact .inr ⟨rfl, hnone, e, he, hd⟩

/-- A comment is a block comment, or a rule makes it. -/
theorem comment_cases {d : Cursor} (h : c.next? = some (.comment, d)) :
    (c.span? = some (.comment, d) ∧ ∃ e, blockOpener.end? c = some e ∧ e.behind? "*/" = some d) ∨
      ∃ r ∈ Rule.all, r.kind = .comment ∧ r.pattern.Leads c d := by
  rcases next?_cases h with hspan | ⟨-, ⟨r, hr, hk, hd⟩ | ⟨-, hk, -⟩⟩
  · rcases span?_cases hspan with ⟨hk, -⟩ | ⟨-, -, hblock⟩
    · cases hk
    · exact .inl ⟨hspan, hblock⟩
  · exact .inr ⟨r, hr, hk, Pattern.leads_of_end? hd⟩
  · cases hk

/-- Where no delimited span begins, only a rule makes a comment. -/
theorem exists_rule_of_comment {d : Cursor} (hspan : c.span? = none) (h : c.next? = some (.comment, d)) :
    ∃ r ∈ Rule.all, r.kind = .comment ∧ r.pattern.Leads c d := by
  rcases comment_cases h with ⟨hsome, -⟩ | hrule
  · rw [hspan] at hsome
    cases hsome
  · exact hrule

theorem exists_passes_of_next? {k : LexemeKind} {d : Cursor} (h : c.next? = some (k, d)) : c.Passes (c.upTo d) d := by
  obtain ⟨n, rfl⟩ := exists_skip_of_next? h
  obtain ⟨u, hu⟩ := c.exists_passes_skip n
  rwa [hu.upTo_eq]

theorem lexemes_eq_cons {d : Cursor} {k : LexemeKind} (h : c.next? = some (k, d)) :
    c.lexemes = ⟨k, c.upTo d⟩ :: d.lexemes := by
  rw [lexemes]
  split
  · simp_all
  · simp_all

theorem lexemes_eq_nil (hc : c.ahead = []) : c.lexemes = [] := by
  have hnone := (next?_eq_none_iff c).2 hc
  rw [lexemes]
  split
  · rfl
  · simp_all

/-- Where characters are left, there is a next lexeme. -/
theorem exists_next? (hc : c.ahead ≠ []) : ∃ k d, c.next? = some (k, d) := by
  obtain ⟨⟨k, d⟩, hnext⟩ := Option.ne_none_iff_exists'.1 (mt (next?_eq_none_iff c).1 hc)
  exact ⟨k, d, hnext⟩

theorem exists_cons_of_next? {k : LexemeKind} {d : Cursor} (h : c.next? = some (k, d)) : ∃ a s, c.ahead = a :: s := by
  refine List.exists_cons_of_ne_nil fun hnil => ?_
  rw [(next?_eq_none_iff c).2 hnil] at h
  cases h

theorem exists_next?_of_lexemes_eq_cons {l : Lexeme} {rest : List Lexeme} (h : c.lexemes = l :: rest) :
    ∃ k d, c.next? = some (k, d) ∧ l = ⟨k, c.upTo d⟩ ∧ rest = d.lexemes := by
  cases hx : c.next? with
  | none =>
    rw [lexemes_eq_nil ((next?_eq_none_iff c).1 hx)] at h
    cases h
  | some x =>
    obtain ⟨k, d⟩ := x
    rw [lexemes_eq_cons hx] at h
    obtain ⟨rfl, rfl⟩ := List.cons_eq_cons.1 h
    exact ⟨k, d, rfl, rfl, rfl⟩

/-- Behind a lexeme lies what is left of the text without its first character, or less. -/
theorem ahead_suffix_of_next? {x : Option Char} {a : Char} {s : Text} {k : LexemeKind} {d : Cursor}
    (h : (mk x (a :: s)).next? = some (k, d)) : d.ahead <:+ s := by
  have hlt := length_next?_lt h
  obtain ⟨n, rfl⟩ := exists_skip_of_next? h
  rw [ahead_skip] at hlt ⊢
  cases n with
  | zero => exact absurd hlt (Nat.lt_irrefl _)
  | succ n => exact List.drop_suffix n s

/-- A lexeme begins with the first of the characters ahead. -/
theorem exists_upTo_eq_cons {d : Cursor} {k : LexemeKind} {b : Char} {t : Text}
    (h : c.next? = some (k, d)) (hahead : c.ahead = b :: t) : ∃ u, c.upTo d = b :: u := by
  have hlt := length_next?_lt h
  obtain ⟨n, rfl⟩ := exists_skip_of_next? h
  have happend := c.upTo_append_ahead_skip n
  rw [hahead] at happend
  cases hu : c.upTo (c.skip n) with
  | nil =>
    rw [hu, List.nil_append] at happend
    rw [happend, hahead] at hlt
    exact absurd hlt (Nat.lt_irrefl _)
  | cons b' u =>
    rw [hu] at happend
    obtain ⟨rfl, -⟩ := List.cons_eq_cons.1 happend
    exact ⟨u, rfl⟩

end Cursor

/-! ## Characters that link -/

/-- The characters that some rule looks for behind a place. -/
def CharClass.linking : CharClass := .either .wordChar (.oneOf ['"', '$', '.', ']', ')'])

/-- Whether the class has no character but linking ones. -/
def CharClass.links : CharClass → Bool
  | exactly d => linking.holds d
  | oneOf cs => cs.all linking.holds
  | wordChar => true
  | either k l => k.links && l.links
  | _ => false

theorem CharClass.linking_of_holds {k : CharClass} (hk : k.links = true) {a : Char} (ha : k.holds a = true) :
    linking.holds a = true := by
  induction k with
  | exactly d =>
    obtain rfl : a = d := beq_iff_eq.1 ha
    exact hk
  | oneOf cs => exact List.all_eq_true.1 hk a (List.contains_iff_mem.1 ha)
  | wordChar => exact Bool.or_eq_true_iff.2 (.inl ha)
  | either k l ihk ihl =>
    obtain ⟨hk, hl⟩ := Bool.and_eq_true_iff.1 hk
    exact (Bool.or_eq_true_iff.1 ha).elim (ihk hk) (ihl hl)
  | letter | noneOf | decimalDigit | blank | nameStart => cases hk

/-- No rule looks behind for anything but linking characters. -/
theorem Rule.asksOnly_links : ∀ r ∈ all, r.pattern.asksOnly (fun _ => true) CharClass.links = true := by
  decide

namespace Cursor

/-- The character before is missing or does not link. -/
def Detached (c : Cursor) : Prop := c.before.any CharClass.linking.holds = false

/-- The two places lie equally far behind two others. -/
def Abreast (c d : Cursor) (e f : Cursor) : Prop := ∃ n, e = c.skip n ∧ f = d.skip n

variable {c d e f : Cursor}

theorem Abreast.ahead_eq (h : c.ahead = d.ahead) (hef : Abreast c d e f) : e.ahead = f.ahead := by
  obtain ⟨n, rfl, rfl⟩ := hef
  rw [ahead_skip, ahead_skip, h]

/-- Places that are not the same are detached. -/
theorem Abreast.eq_or_detached (h : c.ahead = d.ahead) (hc : c.Detached) (hd : d.Detached)
    (hef : Abreast c d e f) : e = f ∨ e.Detached ∧ f.Detached := by
  obtain ⟨n, rfl, rfl⟩ := hef
  by_cases hstay : n = 0 ∨ c.ahead = []
  · right
    rcases hstay with rfl | hnil
    · rw [skip_zero, skip_zero]
      exact ⟨hc, hd⟩
    · rw [skip_of_ahead_nil hnil, skip_of_ahead_nil (h ▸ hnil)]
      exact ⟨hc, hd⟩
  · rw [not_or] at hstay
    exact .inl (skip_eq_skip h hstay.1 hstay.2)

/-- No class of linking characters tells detached places apart. -/
theorem Detached.any_eq_false (hc : c.Detached) {k : CharClass} (hk : k.links = true) :
    c.before.any k.holds = false := by
  obtain ⟨_ | a, s⟩ := c
  · rfl
  · cases ha : k.holds a with
    | false => exact ha
    | true =>
      have hlink : CharClass.linking.holds a = false := hc
      rw [CharClass.linking_of_holds hk ha] at hlink
      cases hlink

theorem Abreast.any_eq (h : c.ahead = d.ahead) (hc : c.Detached) (hd : d.Detached) (hef : Abreast c d e f)
    {k : CharClass} (hk : k.links = true) : e.before.any k.holds = f.before.any k.holds := by
  rcases hef.eq_or_detached h hc hd with rfl | ⟨he, hf⟩
  · rfl
  · rw [he.any_eq_false hk, hf.any_eq_false hk]

theorem Abreast.skip_one (hef : Abreast c d e f) : Abreast c d (e.skip 1) (f.skip 1) := by
  obtain ⟨n, rfl, rfl⟩ := hef
  exact ⟨n + 1, c.skip_skip n 1, d.skip_skip n 1⟩

end Cursor

/-! ## The same places ahead -/

namespace Pattern

open Cursor

variable {c d : Cursor}

/-- Where the same text lies ahead of two detached places, searches from them are in step. -/
theorem lockstep_abreast (h : c.ahead = d.ahead) (hc : c.Detached) (hd : d.Detached) :
    Lockstep (Abreast c d) (fun _ => true) CharClass.links where
  look hef _ := by rw [hef.ahead_eq h]
  lookBack hef hk := hef.any_eq h hc hd hk
  atEnd hef := by rw [hef.ahead_eq h]
  step hef _ _ := hef.skip_one

/-- What has to consume something ends at the same place. -/
theorem end?_eq_of_detached (h : c.ahead = d.ahead) (hc : c.Detached) (hd : d.Detached) {p : Pattern}
    (hp : p.asksOnly (fun _ => true) CharClass.links = true) (hconsumes : p.consumes = true) :
    p.end? c = p.end? d := by
  have hends := (lockstep_abreast h hc hd).rel_end? hp ⟨0, c.skip_zero.symm, d.skip_zero.symm⟩
  have hfurther : ∀ e ∈ p.end? c, e.ahead.length < c.ahead.length :=
    fun e he => length_lt_of_mem_ends hconsumes c e (List.mem_of_mem_head? he)
  revert hends hfurther
  generalize p.end? c = e?
  generalize p.end? d = f?
  intro hends hfurther
  cases hends with
  | none => rfl
  | some hef =>
    obtain ⟨n, rfl, rfl⟩ := hef
    have hlt := hfurther _ rfl
    have hn : n ≠ 0 := by
      rintro rfl
      rw [skip_zero] at hlt
      exact Nat.lt_irrefl _ hlt
    have hne : c.ahead ≠ [] := by
      intro hnil
      rw [hnil] at hlt
      exact Nat.not_lt_zero _ hlt
    rw [skip_eq_skip h hn hne]

end Pattern

/-! ## The same lexemes -/

namespace Cursor

variable {c d : Cursor}

theorem byRule?_eq_of_detached (h : c.ahead = d.ahead) (hc : c.Detached) (hd : d.Detached) :
    c.byRule? = d.byRule? := by
  have each : ∀ r ∈ Rule.all, (r.pattern.end? c).map (r.kind, ·) = (r.pattern.end? d).map (r.kind, ·) := by
    intro r hr
    rw [Pattern.end?_eq_of_detached h hc hd (Rule.asksOnly_links r hr) (Rule.consumes_of_mem_all r hr)]
  unfold byRule?
  revert each
  generalize Rule.all = rules
  intro each
  induction rules with
  | nil => rfl
  | cons r rules ih =>
    rw [List.forall_mem_cons] at each
    rw [List.findSome?_cons, List.findSome?_cons, each.1, ih each.2]

theorem upTo_eq_of_ahead_eq (h : c.ahead = d.ahead) (e : Cursor) : c.upTo e = d.upTo e := by
  rw [upTo, upTo, h]

theorem span?_eq_of_detached (h : c.ahead = d.ahead) (hc : c.Detached) (hd : d.Detached) :
    c.span? = d.span? := by
  have hdollar : dollarOpener.end? c = dollarOpener.end? d := Pattern.end?_eq_of_detached h hc hd (by decide) rfl
  have hblock : blockOpener.end? c = blockOpener.end? d := Pattern.end?_eq_of_detached h hc hd (by decide) rfl
  unfold span?
  rw [hdollar, hblock]
  simp only [upTo_eq_of_ahead_eq h]

theorem next?_eq_of_detached (h : c.ahead = d.ahead) (hc : c.Detached) (hd : d.Detached) :
    c.next? = d.next? := by
  unfold next?
  rw [span?_eq_of_detached h hc hd, byRule?_eq_of_detached h hc hd, h]
  split
  · rfl
  · rename_i hne
    rw [skip_eq_skip h Nat.one_ne_zero (by rw [h]; simpa using hne)]

/-- Detached places with the same text ahead have the same lexemes ahead. -/
theorem lexemes_eq_of_detached (h : c.ahead = d.ahead) (hc : c.Detached) (hd : d.Detached) :
    c.lexemes = d.lexemes := by
  have hnext := next?_eq_of_detached h hc hd
  cases hx : c.next? with
  | none =>
    have hnil : c.ahead = [] := (next?_eq_none_iff c).1 hx
    rw [lexemes_eq_nil hnil, lexemes_eq_nil (h ▸ hnil)]
  | some x =>
    obtain ⟨k, e⟩ := x
    have hx' : d.next? = some (k, e) := hnext ▸ hx
    rw [lexemes_eq_cons hx, lexemes_eq_cons hx', upTo_eq_of_ahead_eq h]

end Cursor

/-! ## What comments leave -/

namespace Lexeme

/-- A comment leaves one blank. -/
theorem exists_withoutComment_of_comment (s : Text) :
    ∃ b, withoutComment ⟨.comment, s⟩ = [b] ∧ Character.isBlank b = true := by
  unfold withoutComment
  dsimp only
  split
  · exact ⟨'\n', rfl, rfl⟩
  · exact ⟨' ', rfl, rfl⟩

theorem withoutComment_of_ne {k : LexemeKind} {s : Text} (hk : k ≠ .comment) : withoutComment ⟨k, s⟩ = s := by
  cases k with
  | comment => exact absurd rfl hk
  | blank | keyword | name | other => rfl

end Lexeme

namespace Cursor

variable {c d : Cursor} {k : LexemeKind}

theorem flatMap_withoutComment_of_ne (hnext : c.next? = some (k, d)) (hk : k ≠ .comment) :
    c.lexemes.flatMap Lexeme.withoutComment = c.upTo d ++ d.lexemes.flatMap Lexeme.withoutComment := by
  rw [lexemes_eq_cons hnext, List.flatMap_cons, Lexeme.withoutComment_of_ne hk]

/-- What is left begins with the first character of the text if the first lexeme is no comment. -/
theorem exists_left_of_next? {a : Char} {s : Text} (hnext : c.next? = some (k, d)) (hk : k ≠ .comment)
    (hc : c.ahead = a :: s) : ∃ v, c.lexemes.flatMap Lexeme.withoutComment = a :: v := by
  obtain ⟨u, hu⟩ := exists_upTo_eq_cons hnext hc
  rw [flatMap_withoutComment_of_ne hnext hk, hu]
  exact ⟨_, rfl⟩

end Cursor

end SqlDialects
