/-
Searching a vocabulary. Halving finds the first word that is not below a text, and from there on the words
that begin with the text stand together, so the search answers with the same words as a look at every word
would (`matchesOf_eq_filter`): all words that begin with the text, each once and in ascending order, whatever
table the vocabulary has been made from (`search_eq_lookThrough`).
-/
import SqlDialects.Word.Registry

namespace SqlDialects

/-! ## Words of a table -/

namespace WordMap

variable {α : Type}

theorem mem_keys_iff (m : WordMap α) (w : Text) : w ∈ m.keys ↔ m.contains w = true := by
  rw [contains, get?, List.lookup_isSome_iff, keys, List.mem_map]
  constructor
  · rintro ⟨e, he, rfl⟩
    exact ⟨e, he, beq_self_eq_true e.1⟩
  · rintro ⟨e, he, hw⟩
    exact ⟨e, he, (beq_iff_eq.1 hw).symm⟩

theorem get?_foldl_insert (l : List (Text × α)) (m : WordMap α) (w : Text) :
    (l.foldl (fun m e => m.insert e.1 e.2) m).get? w = (l.reverse.lookup w).or (m.get? w) := by
  induction l generalizing m with
  | nil => rfl
  | cons e l ih =>
    rw [List.foldl_cons, ih, List.reverse_cons, List.lookup_append, get?_insert, lookup_cons_eq_ite, List.lookup_nil,
      Option.or_assoc]
    split <;> rfl

/-- Of the entries of a list for a word the last one counts. -/
theorem get?_ofList (l : List (Text × α)) (w : Text) : (ofList l).get? w = l.reverse.lookup w := by
  rw [ofList, get?_foldl_insert, get?_empty, Option.or_none]

theorem contains_ofList_iff (l : List (Text × α)) (w : Text) :
    (ofList l).contains w = true ↔ ∃ a, (w, a) ∈ l := by
  rw [contains, get?_ofList, List.lookup_isSome_iff]
  constructor
  · rintro ⟨e, he, hw⟩
    obtain rfl : w = e.1 := beq_iff_eq.1 hw
    exact ⟨e.2, List.mem_reverse.1 he⟩
  · rintro ⟨a, ha⟩
    exact ⟨(w, a), List.mem_reverse.2 ha, beq_self_eq_true w⟩

end WordMap

/-! ## Words that begin with a text -/

namespace Text

/-- A text is not above the words that begin with it. -/
theorem not_lt_of_prefix {p v : Text} (h : p <+: v) : ¬ v < p := by
  obtain ⟨rest, rfl⟩ := h
  induction p with
  | nil => exact List.not_lt_nil _
  | cons c p ih =>
    rw [List.cons_append, List.cons_lt_cons_iff]
    rintro (hlt | ⟨-, hlt⟩)
    · exact Char.lt_irrefl c hlt
    · exact ih hlt

/-- Whatever stands between a text and a word that begins with it begins with it as well. -/
theorem prefix_of_not_lt_of_lt {p u v : Text} (hp : ¬ u < p) (huv : u < v) (hv : p <+: v) : p <+: u := by
  induction p generalizing u v with
  | nil => exact List.nil_prefix
  | cons c p ih =>
    obtain ⟨rest, rfl⟩ := hv
    cases u with
    | nil => exact absurd (List.nil_lt_cons c p) hp
    | cons d u =>
      rw [List.cons_append, List.cons_lt_cons_iff] at huv
      rw [List.cons_lt_cons_iff, not_or, not_and] at hp
      rcases huv with hlt | ⟨rfl, hlt⟩
      · exact absurd hlt hp.1
      · rw [List.prefix_cons_inj]
        exact ih (hp.2 rfl) hlt (List.prefix_append p rest)

/-- In ascending order, among words none of which is below a text, those that begin with it come first. -/
theorem takeWhile_beginsWith_eq_filter {p : Text} {words : List Text} (hwords : words.Pairwise (· < ·))
    (hp : ∀ u ∈ words, ¬ u < p) : words.takeWhile (·.beginsWith p) = words.filter (·.beginsWith p) := by
  induction words with
  | nil => rfl
  | cons u words ih =>
    obtain ⟨hu, hrest⟩ := List.pairwise_cons.1 hwords
    rw [List.takeWhile_cons, List.filter_cons]
    split
    · rw [ih hrest fun v hv => hp v (List.mem_cons_of_mem u hv)]
    · rename_i hno
      refine (List.filter_eq_nil_iff.2 fun v hv hyes => hno ?_).symm
      rw [beginsWith, List.isPrefixOf_iff_prefix] at hyes ⊢
      exact prefix_of_not_lt_of_lt (hp u List.mem_cons_self) (hu v hv) hyes

end Text

/-! ## Halving -/

namespace Registry

/-- What halving keeps in mind: all words before the lower place are below the text, and none from the upper
place on is. -/
structure Halving (words : Array Text) (w : Text) (low high : Nat) : Prop where
  below : ∀ i v, i < low → words[i]? = some v → v < w
  notBelow : ∀ i v, high ≤ i → words[i]? = some v → ¬ v < w

section

variable {words : Array Text} {w m : Text} {low middle high : Nat}

/-- Of two different places in an ascending array the later one holds the greater word. -/
theorem lt_of_getElem? (hwords : words.toList.Pairwise (· < ·)) {i j : Nat} {u v : Text} (hij : i < j)
    (hu : words[i]? = some u) (hv : words[j]? = some v) : u < v := by
  obtain ⟨hi, rfl⟩ := Array.getElem?_eq_some_iff.1 hu
  obtain ⟨hj, rfl⟩ := Array.getElem?_eq_some_iff.1 hv
  exact List.pairwise_iff_getElem.1 hwords i j (by simpa using hi) (by simpa using hj) hij

theorem Halving.raise (h : Halving words w low high) (hwords : words.toList.Pairwise (· < ·))
    (hm : words[middle]? = some m) (hlt : m < w) : Halving words w (middle + 1) high where
  below i v hi hv := by
    rcases Nat.lt_or_eq_of_le (Nat.le_of_lt_succ hi) with hbefore | rfl
    · exact Text.lt_trans (lt_of_getElem? hwords hbefore hv hm) hlt
    · rwa [Option.some.inj (hv.symm.trans hm)]
  notBelow := h.notBelow

theorem Halving.lower (h : Halving words w low high) (hwords : words.toList.Pairwise (· < ·))
    (hm : words[middle]? = some m) (hnot : ¬ m < w) : Halving words w low middle where
  below := h.below
  notBelow i v hi hv := by
    rcases Nat.lt_or_eq_of_le hi with hbehind | rfl
    · exact fun hlt => hnot (Text.lt_trans (lt_of_getElem? hwords hbehind hm hv) hlt)
    · rwa [Option.some.inj (hv.symm.trans hm)]

/-- The place that is found divides the words: the ones before it are below the text, the others are not. -/
theorem halving_lowerBound (hwords : words.toList.Pairwise (· < ·)) (hhigh : high ≤ words.size)
    (hle : low ≤ high) (h : Halving words w low high) :
    Halving words w (lowerBound words w low high) (lowerBound words w low high) := by
  fun_induction lowerBound words w low high with
  | case1 low high hlt middle hbelow ih =>
    have hmiddle : middle < words.size := by omega
    rw [Array.getElem?_eq_getElem hmiddle, Option.any_some, decide_eq_true_eq] at hbelow
    exact ih hhigh (by omega) (h.raise hwords (Array.getElem?_eq_getElem hmiddle) hbelow)
  | case2 low high hlt middle hnot ih =>
    have hmiddle : middle < words.size := by omega
    rw [Array.getElem?_eq_getElem hmiddle, Option.any_some, decide_eq_true_eq] at hnot
    exact ih (by omega) (by omega) (h.lower hwords (Array.getElem?_eq_getElem hmiddle) hnot)
  | case3 low high hnot =>
    obtain rfl : low = high := by omega
    exact h

end

/-! ## The words of a registry -/

theorem pairwise_reservedWords (r : Registry) : r.reservedWords.Pairwise (· < ·) :=
  List.pairwise_map.2 r.words.ascending

/-- From the place that halving finds on stand the words that are not below the text. -/
theorem wordsFrom_eq_filter (r : Registry) (w : Text) :
    r.wordsFrom w = r.reservedWords.filter fun v => ¬ v < w := by
  have hwords : r.reservedWords.toArray.toList.Pairwise (· < ·) := r.pairwise_reservedWords
  have hsize : r.size = r.reservedWords.toArray.size := by simp [size, WordMap.size, reservedWords, WordMap.keys]
  have hstart : Halving r.reservedWords.toArray w 0 r.size :=
    ⟨fun i v hi => absurd hi (Nat.not_lt_zero i), fun i v hi hv => by
      rw [Array.getElem?_eq_none (hsize ▸ hi)] at hv
      cases hv⟩
  have hfound := halving_lowerBound hwords (Nat.le_of_eq hsize) (Nat.zero_le _) hstart
  unfold wordsFrom
  generalize lowerBound r.reservedWords.toArray w 0 r.size = k at hfound
  have hbefore : (r.reservedWords.take k).filter (fun v => ¬ v < w) = [] := by
    refine List.filter_eq_nil_iff.2 fun v hv => ?_
    obtain ⟨i, hi, rfl⟩ := List.mem_take_iff_getElem.1 hv
    simpa using hfound.below i r.reservedWords[i] (by omega) (by simp)
  have hbehind : (r.reservedWords.drop k).filter (fun v => ¬ v < w) = r.reservedWords.drop k := by
    refine List.filter_eq_self.2 fun v hv => ?_
    obtain ⟨i, hi, rfl⟩ := List.mem_drop_iff_getElem.1 hv
    simpa using hfound.notBelow (k + i) r.reservedWords[k + i] (by omega) (by simp)
  calc r.reservedWords.drop k
      = (r.reservedWords.take k ++ r.reservedWords.drop k).filter fun v => ¬ v < w := by
        rw [List.filter_append, hbefore, hbehind, List.nil_append]
    _ = r.reservedWords.filter fun v => ¬ v < w := by rw [List.take_append_drop]

/-- The words that begin with a text are those that a look at every word would find, in ascending order. -/
theorem matchesOf_eq_filter (r : Registry) (start : Text) :
    r.matchesOf start = r.reservedWords.filter (·.beginsWith start.upper) := by
  rw [matchesOf, wordsFrom_eq_filter, Text.takeWhile_beginsWith_eq_filter (r.pairwise_reservedWords.filter _),
    List.filter_filter]
  · refine List.filter_congr fun v _ => ?_
    -- a word that begins with the text is not below it, so nothing has been lost
    cases hv : v.beginsWith start.upper with
    | false => rfl
    | true => simpa using Text.not_lt_of_prefix (List.isPrefixOf_iff_prefix.1 hv)
  · intro v hv
    simpa using (List.mem_filter.1 hv).2

theorem mem_matchesOf_iff (r : Registry) (start w : Text) :
    w ∈ r.matchesOf start ↔ r.words.contains w = true ∧ start.upper <+: w := by
  rw [matchesOf_eq_filter, List.mem_filter, reservedWords, WordMap.mem_keys_iff, Text.beginsWith,
    List.isPrefixOf_iff_prefix]

/-- A word begins with the text just if the first one does that is not below it. -/
theorem hasMatch_iff (r : Registry) (start : Text) : r.hasMatch start = true ↔ r.matchesOf start ≠ [] := by
  unfold hasMatch matchesOf
  cases r.wordsFrom start.upper with
  | nil => simp
  | cons w words =>
    rw [List.head?_cons, Option.any_some, List.takeWhile_cons]
    cases w.beginsWith start.upper <;> simp

/-- The search finds what a look at every word would find: all words that begin with the text, each once and in
ascending order, and it finds that there are any exactly if there are. The words of a vocabulary that has been
made from a table of any entries are those of the table. -/
theorem search_eq_lookThrough (r : Registry) (start : Text) :
    r.matchesOf start = r.reservedWords.filter (·.beginsWith start.upper) ∧
      (r.matchesOf start).Pairwise (· < ·) ∧
      (∀ w, w ∈ r.matchesOf start ↔ r.words.contains w = true ∧ start.upper <+: w) ∧
      (r.hasMatch start = true ↔ r.matchesOf start ≠ []) ∧
      ∀ (table : List (Text × WordKind)) (functions types : WordSet) (w : Text),
        w ∈ Registry.matchesOf ⟨.ofList table, functions, types⟩ start ↔
          (∃ kind, (w, kind) ∈ table) ∧ start.upper <+: w := by
  refine ⟨r.matchesOf_eq_filter start, ?_, r.mem_matchesOf_iff start, r.hasMatch_iff start, ?_⟩
  · rw [matchesOf_eq_filter]
    exact r.pairwise_reservedWords.filter _
  · intro table functions types w
    rw [mem_matchesOf_iff, WordMap.contains_ofList_iff]

/-- The text is a word itself, and words of small letters stand behind all others. -/
example : Registry.matchesOf
    ⟨.ofList [("select", .other), ("SETS", .keyword), ("SET", .function), ("SE", .dataType), ("SET", .keyword)],
      .empty, .empty⟩ "set" = Text.ofStrings ["SET", "SETS"] := by
  cbv

end Registry

end SqlDialects
