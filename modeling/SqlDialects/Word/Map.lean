/-
Tables with words for keys, kept in strictly ascending order of the keys, so that two tables with the
same entries are the same value and a table can be searched by halving. A set of words is a table
whose entries say nothing.
-/
import SqlDialects.Text.Basic

namespace SqlDialects

namespace Text

theorem lt_trans {a b c : Text} : a < b → b < c → a < c := List.lt_trans

/-- Of two different texts one is the smaller. -/
theorem lt_of_not_lt {a b : Text} (h : ¬ a < b) (hne : a ≠ b) : b < a := by
  rcases Decidable.em (b < a) with hlt | hlt
  · exact hlt
  · exact absurd (List.le_antisymm (List.not_lt.1 hlt) (List.not_lt.1 h)) hne

end Text

/-- A table from words to values. -/
structure WordMap (α : Type) where
  entries : List (Text × α)
  ascending : entries.Pairwise fun a b => a.1 < b.1
deriving DecidableEq

namespace WordMap

variable {α : Type}

def empty : WordMap α := ⟨[], .nil⟩

/-- The keys in ascending order. -/
def keys (m : WordMap α) : List Text := m.entries.map (·.1)

def size (m : WordMap α) : Nat := m.entries.length

/-- What the table says about a word. -/
def get? (m : WordMap α) (w : Text) : Option α := m.entries.lookup w

def contains (m : WordMap α) (w : Text) : Bool := (m.get? w).isSome

/-! ## Insertion -/

/-- The entries with one more, or with a new value for its key. -/
def insertEntry (w : Text) (a : α) : List (Text × α) → List (Text × α)
  | [] => [(w, a)]
  | (v, b) :: rest =>
    if w < v then (w, a) :: (v, b) :: rest
    else if w = v then (w, a) :: rest
    else (v, b) :: insertEntry w a rest

theorem mem_insertEntry {w : Text} {a : α} {l : List (Text × α)} {e : Text × α}
    (h : e ∈ insertEntry w a l) : e = (w, a) ∨ e ∈ l := by
  induction l with
  | nil => simpa [insertEntry] using h
  | cons f l ih =>
    obtain ⟨v, b⟩ := f
    simp only [insertEntry] at h
    split at h
    · exact List.mem_cons.1 h
    · split at h
      · rcases List.mem_cons.1 h with h | h
        · exact .inl h
        · exact .inr (List.mem_cons_of_mem _ h)
      · rcases List.mem_cons.1 h with h | h
        · exact .inr (h ▸ List.mem_cons_self)
        · exact (ih h).imp_right (List.mem_cons_of_mem _)

theorem ascending_insertEntry (w : Text) (a : α) {l : List (Text × α)}
    (h : l.Pairwise fun a b => a.1 < b.1) : (insertEntry w a l).Pairwise fun a b => a.1 < b.1 := by
  induction l with
  | nil => simp [insertEntry]
  | cons f l ih =>
    obtain ⟨v, b⟩ := f
    obtain ⟨hf, hl⟩ := List.pairwise_cons.1 h
    simp only [insertEntry]
    split
    · rename_i hw
      refine List.pairwise_cons.2 ⟨fun e he => ?_, h⟩
      rcases List.mem_cons.1 he with rfl | he
      · exact hw
      · exact Text.lt_trans hw (hf e he)
    · split
      · rename_i hw
        exact List.pairwise_cons.2 ⟨fun e he => hw ▸ hf e he, hl⟩
      · rename_i hw hne
        refine List.pairwise_cons.2 ⟨fun e he => ?_, ih hl⟩
        rcases mem_insertEntry he with rfl | he
        · exact Text.lt_of_not_lt hw hne
        · exact hf e he

/-- The table with a value for the word, in place of what it said before. -/
def insert (m : WordMap α) (w : Text) (a : α) : WordMap α :=
  ⟨insertEntry w a m.entries, ascending_insertEntry w a m.ascending⟩

/-- The table without the word. -/
def erase (m : WordMap α) (w : Text) : WordMap α :=
  ⟨m.entries.filter fun e => e.1 ≠ w, m.ascending.filter _⟩

/-- The table of a list of entries, of which the last for a word counts. -/
def ofList (l : List (Text × α)) : WordMap α := l.foldl (fun m e => m.insert e.1 e.2) empty

/-! ## What a table says after each operation -/

@[simp] theorem get?_empty (w : Text) : (empty : WordMap α).get? w = none := rfl

theorem lookup_cons_eq_ite (x v : Text) (b : α) (l : List (Text × α)) :
    List.lookup x ((v, b) :: l) = if x = v then some b else List.lookup x l := by
  rw [List.lookup_cons]
  split <;> simp_all

theorem lookup_insertEntry (w x : Text) (a : α) (l : List (Text × α)) :
    (insertEntry w a l).lookup x = if x = w then some a else l.lookup x := by
  induction l with
  | nil => simp [insertEntry, lookup_cons_eq_ite]
  | cons f l ih =>
    obtain ⟨v, b⟩ := f
    simp only [insertEntry]
    split
    · rw [lookup_cons_eq_ite]
    · split
      · rename_i hw
        subst hw
        simp only [lookup_cons_eq_ite]
        split <;> rfl
      · rename_i hne
        simp only [lookup_cons_eq_ite, ih]
        split
        · rename_i hx
          rw [if_neg (hx ▸ Ne.symm hne)]
        · rfl

@[simp] theorem get?_insert (m : WordMap α) (w x : Text) (a : α) :
    (m.insert w a).get? x = if x = w then some a else m.get? x :=
  lookup_insertEntry w x a m.entries

theorem lookup_filter_ne (w x : Text) (l : List (Text × α)) :
    (l.filter fun e => e.1 ≠ w).lookup x = if x = w then none else l.lookup x := by
  induction l with
  | nil => simp
  | cons f l ih =>
    obtain ⟨v, b⟩ := f
    rw [List.filter_cons]
    split
    · rw [lookup_cons_eq_ite, lookup_cons_eq_ite, ih]
      split <;> simp_all
    · rw [lookup_cons_eq_ite, ih]
      split <;> simp_all

@[simp] theorem get?_erase (m : WordMap α) (w x : Text) :
    (m.erase w).get? x = if x = w then none else m.get? x :=
  lookup_filter_ne w x m.entries

end WordMap

/-- A set of words. -/
abbrev WordSet := WordMap Unit

namespace WordSet

/-- The set with one more word. -/
def add (s : WordSet) (w : Text) : WordSet := WordMap.insert s w ()

/-- The set of the words of a list. -/
def ofWords (ws : List Text) : WordSet := ws.foldl add WordMap.empty

end WordSet

end SqlDialects
