/-
Sharing the built-in dialects. From a fresh catalog on, and whatever is asked for in whatever order, a request
is met exactly if its key is the name of a built-in dialect, two requests get one and the same dialect exactly
if they have the same key, and a request that is refused leaves no trace in the other answers (`serves_getAll`).
What a catalog keeps for this is that no two of its dialects belong to one engine or bear one serial number
(`Catalog.Orderly`): a request keeps it and takes no dialect away.
-/
import Mathlib.Data.List.Nodup
import SqlDialects.Dialect.Catalog

namespace SqlDialects

/-! ## Keys -/

namespace Engine

theorem mem_all (e : Engine) : e ∈ all := by cases e <;> decide

theorem name_inj {e e' : Engine} : e.name = e'.name ↔ e = e' := by
  have hall : ∀ e ∈ all, ∀ e' ∈ all, e.name = e'.name → e = e' := by decide
  exact ⟨hall e e.mem_all e' e'.mem_all, congrArg name⟩

theorem mem_availableDialects_iff {key : Text} : key ∈ availableDialects ↔ ∃ e : Engine, e.name = key := by
  constructor
  · intro h
    obtain ⟨e, -, he⟩ := List.mem_map.1 h
    exact ⟨e, he⟩
  · rintro ⟨e, rfl⟩
    exact List.mem_map.2 ⟨e, e.mem_all, rfl⟩

/-- An engine is found under its key. -/
theorem ofName_of_key {name : Text} {e : Engine} (h : e.name = key name) : ofName name = .ok e := by
  have hfound : ofName? name = some e := by
    unfold ofName?
    cases hfind : all.find? fun e => e.name = key name with
    | none => exact absurd (decide_eq_true h) (List.find?_eq_none.1 hfind e e.mem_all)
    | some e' =>
      have he' : e'.name = key name := by simpa using List.find?_some hfind
      rw [name_inj.1 (he'.trans h.symm)]
  rw [ofName, hfound]

theorem ofName_of_notMem {name : Text} (h : key name ∉ availableDialects) :
    ofName name = .error (.unknownDialect name) := by
  have hnone : ofName? name = none := by
    refine List.find?_eq_none.2 fun e _ he => h ?_
    exact mem_availableDialects_iff.2 ⟨e, of_decide_eq_true he⟩
  rw [ofName, hnone]

/-- A dialect has the name of its engine. -/
theorem name_dialect (e : Engine) : e.dialect.name = e.name := by cases e <;> rfl

end Engine

namespace Catalog

variable {c : Catalog} {name : Text} {s t : Shared}

/-! ## One request -/

theorem get_of_notMem (h : Engine.key name ∉ availableDialects) :
    c.get name = (.error (.unknownDialect name), c) := by
  rw [get, Engine.ofName_of_notMem h]

/-- All that a request can do: it is refused and changes nothing, or it is given a dialect that has been made
before and changes nothing, or its dialect is made with the next serial number. -/
theorem get_cases (c : Catalog) (name : Text) :
    (Engine.key name ∉ availableDialects ∧ c.get name = (.error (.unknownDialect name), c)) ∨
      (∃ s ∈ c.made, s.engine.name = Engine.key name ∧ c.get name = (.ok s, c)) ∨
      ∃ e : Engine, e.name = Engine.key name ∧ (∀ s ∈ c.made, s.engine ≠ e) ∧
        ∃ loaded, c.get name = (.ok ⟨e, c.next⟩, ⟨⟨e, c.next⟩ :: c.made, c.next + 1, loaded⟩) := by
  by_cases hkey : Engine.key name ∈ availableDialects
  · obtain ⟨e, he⟩ := Engine.mem_availableDialects_iff.1 hkey
    right
    unfold get
    rw [Engine.ofName_of_key he]
    cases hfind : c.made.find? fun s => s.engine = e with
    | some s =>
      have hs : s.engine = e := by simpa using List.find?_some hfind
      exact .inl ⟨s, List.mem_of_find?_eq_some hfind, by rw [hs, he], by simp [hfind]⟩
    | none =>
      have hnone : ∀ s ∈ c.made, s.engine ≠ e := fun s hs h => List.find?_eq_none.1 hfind s hs (decide_eq_true h)
      exact .inr ⟨e, he, hnone, _, by simp only [hfind]; rfl⟩
  · exact .inl ⟨hkey, get_of_notMem hkey⟩

/-- What a catalog keeps: each engine has one dialect at most, and each serial number has been given out once at
most and is below the next one. -/
structure Orderly (c : Catalog) : Prop where
  engines : (c.made.map Shared.engine).Nodup
  serials : (c.made.map Shared.serial).Nodup
  issued : ∀ s ∈ c.made, s.serial < c.next

theorem orderly_empty : Orderly {} := ⟨List.nodup_nil, List.nodup_nil, nofun⟩

/-- Two dialects of a catalog are the same by their serial numbers just if they are by their engines. -/
theorem Orderly.serial_eq_iff (h : c.Orderly) (hs : s ∈ c.made) (ht : t ∈ c.made) :
    s.serial = t.serial ↔ s.engine = t.engine := by
  constructor
  · intro hserial
    rw [List.inj_on_of_nodup_map h.serials hs ht hserial]
  · intro hengine
    rw [List.inj_on_of_nodup_map h.engines hs ht hengine]

/-- The step lemma: a request keeps the order of a catalog. -/
theorem Orderly.get (h : c.Orderly) (name : Text) : (c.get name).2.Orderly := by
  rcases c.get_cases name with ⟨-, hget⟩ | ⟨s, -, -, hget⟩ | ⟨e, -, hnone, loaded, hget⟩
  · rw [hget]
    exact h
  · rw [hget]
    exact h
  · rw [hget]
    have hserial : c.next ∉ c.made.map Shared.serial := by
      intro hmem
      obtain ⟨s, hs, hs'⟩ := List.mem_map.1 hmem
      have := h.issued s hs
      omega
    have hengine : e ∉ c.made.map Shared.engine := by
      intro hmem
      obtain ⟨s, hs, hs'⟩ := List.mem_map.1 hmem
      exact hnone s hs hs'
    refine ⟨List.nodup_cons.2 ⟨hengine, h.engines⟩, List.nodup_cons.2 ⟨hserial, h.serials⟩, ?_⟩
    intro s hs
    rcases List.mem_cons.1 hs with rfl | hs
    · exact Nat.lt_succ_self _
    · exact Nat.lt_succ_of_lt (h.issued s hs)

/-- A request takes no dialect away. -/
theorem made_suffix_get (c : Catalog) (name : Text) : c.made <:+ (c.get name).2.made := by
  rcases c.get_cases name with ⟨-, hget⟩ | ⟨s, -, -, hget⟩ | ⟨e, -, -, loaded, hget⟩
  · simp [hget]
  · simp [hget]
  · rw [hget]
    exact List.suffix_cons _ _

/-- What a request is given is kept, and it belongs to the engine that the request names. -/
theorem mem_made_of_get (h : (c.get name).1 = .ok s) :
    s ∈ (c.get name).2.made ∧ s.engine.name = Engine.key name := by
  rcases c.get_cases name with ⟨-, hget⟩ | ⟨s', hs', hkey, hget⟩ | ⟨e, hkey, -, loaded, hget⟩
  · rw [hget] at h
    cases h
  · rw [hget] at h ⊢
    cases h
    exact ⟨hs', hkey⟩
  · rw [hget] at h ⊢
    cases h
    exact ⟨List.mem_cons_self, hkey⟩

/-- A request is met exactly if its key is the name of a built-in dialect, and is refused by its own name else. -/
theorem get_answer (c : Catalog) (name : Text) :
    ((∃ s, (c.get name).1 = .ok s) ↔ Engine.key name ∈ availableDialects) ∧
      ∀ e, (c.get name).1 = .error e → e = .unknownDialect name := by
  rcases c.get_cases name with ⟨hkey, hget⟩ | ⟨s, -, hkey, hget⟩ | ⟨e, hkey, -, loaded, hget⟩
  · rw [hget]
    refine ⟨iff_of_false nofun hkey, ?_⟩
    rintro e ⟨⟩
    rfl
  · rw [hget]
    exact ⟨iff_of_true ⟨s, rfl⟩ (Engine.mem_availableDialects_iff.2 ⟨_, hkey⟩), nofun⟩
  · rw [hget]
    exact ⟨iff_of_true ⟨_, rfl⟩ (Engine.mem_availableDialects_iff.2 ⟨_, hkey⟩), nofun⟩

/-! ## Runs -/

theorem Orderly.afterAll (h : c.Orderly) (names : List Text) : (c.afterAll names).Orderly := by
  induction names generalizing c with
  | nil => exact h
  | cons name names ih => exact ih (h.get name)

theorem made_suffix_afterAll (c : Catalog) (names : List Text) : c.made <:+ (c.afterAll names).made := by
  induction names generalizing c with
  | nil => exact List.suffix_rfl
  | cons name names ih => exact (c.made_suffix_get name).trans (ih _)

theorem length_getAll (c : Catalog) (names : List Text) : (c.getAll names).length = names.length := by
  induction names generalizing c with
  | nil => rfl
  | cons name names ih => rw [getAll, List.length_cons, List.length_cons, ih]

/-- Every answer of a run is that of the catalog of its time, and what that catalog keeps is kept to the end. -/
theorem exists_of_mem_zip {names : List Text} {r : Text × Except Error Shared} (h : r ∈ names.zip (c.getAll names)) :
    ∃ d : Catalog, r.2 = (d.get r.1).1 ∧ (d.get r.1).2.made <:+ (c.afterAll names).made := by
  induction names generalizing c with
  | nil => cases h
  | cons name names ih =>
    rw [getAll, List.zip_cons_cons] at h
    rcases List.mem_cons.1 h with rfl | h
    · exact ⟨c, rfl, made_suffix_afterAll _ names⟩
    · exact ih h

/-- A request that is refused does nothing but be refused: the other answers are those of the run without it. -/
theorem getAll_of_notMem (h : Engine.key name ∉ availableDialects) (c : Catalog) (before after : List Text) :
    c.getAll (before ++ name :: after) =
      (c.getAll (before ++ after)).insertIdx before.length (.error (.unknownDialect name)) := by
  induction before generalizing c with
  | nil => rw [List.nil_append, List.nil_append, getAll, get_of_notMem h, List.length_nil, List.insertIdx_zero]
  | cons first before ih =>
    rw [List.cons_append, List.cons_append, getAll, getAll, ih, List.length_cons, List.insertIdx_succ_cons]

/-- What can be relied on when one name after another is asked for. -/
structure Serves (names : List Text) (answers : List (Except Error Shared)) : Prop where
  /-- Every request has its answer. -/
  answered : answers.length = names.length
  /-- A request is met exactly if its key is the name of a built-in dialect. -/
  met : ∀ r ∈ names.zip answers, (∃ s, r.2 = .ok s) ↔ Engine.key r.1 ∈ availableDialects
  /-- The complaint tells the name as it has been given. -/
  refused : ∀ r ∈ names.zip answers, ∀ e, r.2 = .error e → e = .unknownDialect r.1
  /-- The dialect bears the key for its name. -/
  named : ∀ r ∈ names.zip answers, ∀ s, r.2 = .ok s → s.dialect.name = Engine.key r.1
  /-- Two requests are given one and the same dialect exactly if they have the same key. -/
  shared : ∀ r ∈ names.zip answers, ∀ r' ∈ names.zip answers, ∀ s s', r.2 = .ok s → r'.2 = .ok s' →
    (s.serial = s'.serial ↔ Engine.key r.1 = Engine.key r'.1)

/-- What a run of requests is given belongs to the engine that the request names, and is kept. -/
theorem mem_made_of_mem_zip {names : List Text} {r : Text × Except Error Shared}
    (h : r ∈ names.zip (c.getAll names)) (hs : r.2 = .ok s) :
    s ∈ (c.afterAll names).made ∧ s.engine.name = Engine.key r.1 := by
  obtain ⟨d, hanswer, hkept⟩ := exists_of_mem_zip h
  obtain ⟨hmade, hkey⟩ := mem_made_of_get (hanswer.symm.trans hs)
  exact ⟨hkept.subset hmade, hkey⟩

/-- The run lemma: an orderly catalog serves any requests. -/
theorem Orderly.serves (hc : c.Orderly) (names : List Text) : Serves names (c.getAll names) := by
  refine ⟨c.length_getAll names, ?_, ?_, ?_, ?_⟩
  · intro r hr
    obtain ⟨d, hanswer, -⟩ := exists_of_mem_zip hr
    rw [hanswer]
    exact (d.get_answer r.1).1
  · intro r hr
    obtain ⟨d, hanswer, -⟩ := exists_of_mem_zip hr
    rw [hanswer]
    exact (d.get_answer r.1).2
  · intro r hr s hs
    rw [Shared.dialect, Engine.name_dialect]
    exact (mem_made_of_mem_zip hr hs).2
  · intro r hr r' hr' s s' hs hs'
    obtain ⟨hmade, hkey⟩ := mem_made_of_mem_zip hr hs
    obtain ⟨hmade', hkey'⟩ := mem_made_of_mem_zip hr' hs'
    rw [(hc.afterAll names).serial_eq_iff hmade hmade', ← hkey, ← hkey', Engine.name_inj]

end Catalog

/-- A fresh catalog serves any requests in any order; and one that is refused, wherever it stands in the run,
leaves all other answers as they are without it. -/
theorem serves_getAll (names : List Text) :
    Catalog.Serves names (Catalog.getAll {} names) ∧
      ∀ before name after, names = before ++ name :: after → Engine.key name ∉ availableDialects →
        Catalog.getAll {} names =
          (Catalog.getAll {} (before ++ after)).insertIdx before.length (.error (.unknownDialect name)) := by
  refine ⟨Catalog.orderly_empty.serves names, ?_⟩
  rintro before name after rfl hkey
  exact Catalog.getAll_of_notMem hkey {} before after

/-- A name that no dialect has, between two spellings of one key. -/
theorem serves_getAll_spellings :
    Engine.key "DB2" ∉ availableDialects ∧
      Catalog.getAll {} ["PostgreSQL", "DB2", "POSTGRES"] =
        (Catalog.getAll {} ["PostgreSQL", "POSTGRES"]).insertIdx 1 (.error (.unknownDialect "DB2")) := by
  have hkey : Engine.key "DB2" ∉ availableDialects := by decide
  obtain ⟨-, hrefused⟩ := serves_getAll ["PostgreSQL", "DB2", "POSTGRES"]
  exact ⟨hkey, hrefused ["PostgreSQL"] "DB2" ["POSTGRES"] rfl hkey⟩

example : Catalog.getAll {} ["PostgreSQL", "DB2", "SqlServer", "POSTGRES"] =
    [.ok ⟨.postgres, 0⟩, .error (.unknownDialect "DB2"), .ok ⟨.mssql, 1⟩, .ok ⟨.postgres, 0⟩] := by decide

end SqlDialects
