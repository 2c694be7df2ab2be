/-
The texts of calls. An engine passes input parameters and, if it does so at all, those whose values come out; any
others may be put in or taken out without a trace, as long as the end of a call depends on nothing but the kind of
the routine. The text between the brackets falls apart at its commas into one argument for each parameter that is
passed, in order, since no name of a variable has a comma in it (`call_eq_and_splitOn_arguments`). A stream to which
the call is written as well makes no difference to it.
-/
import SqlDialects.Proofs.Routine.BindName

namespace SqlDialects

/-! ## Names of variables -/

theorem Text.IsBindName.isAlphanumeric_or_eq {v : Text} (hv : v.IsBindName) :
    ∀ c ∈ v, Character.isAlphanumeric c = true ∨ c = '_' := by
  intro c hc
  have hword := hv.1 c hc
  rwa [Character.isWordChar, Bool.or_eq_true, beq_iff_eq] at hword

/-! ## Parameters that are passed -/

namespace Profile

variable {p : Profile} {a : Parameter}

/-- Nothing stands for the parameter in a call: it is the result, or its value comes out and such are not passed. -/
def LeavesOut (p : Profile) (a : Parameter) : Prop :=
  a.direction = .result ∨ (a.direction = .output ∨ a.direction = .both) ∧ p.callIncludesOutput = false

instance (p : Profile) : DecidablePred p.LeavesOut := fun _ => inferInstanceAs (Decidable (_ ∨ _))

/-- The parameters that are passed. -/
def passed (p : Profile) (as : List Parameter) : List Parameter := as.filter fun a => ¬ p.LeavesOut a

/-- A parameter that is left out may stand at any place, or be taken out of it. -/
theorem passed_append_cons (as bs : List Parameter) (h : p.LeavesOut a) :
    p.passed (as ++ a :: bs) = p.passed (as ++ bs) := by
  unfold passed
  rw [List.filter_append, List.filter_append, List.filter_cons_of_neg (by simpa using h)]

/-- The text stands for the parameter: a variable for its value, or a mark for the place where it comes out. -/
inductive StandsFor : Parameter → Text → Prop
  | value {a : Parameter} {v : Text} (hdirection : a.direction = .input)
      (hv : ∀ c ∈ v, Character.isAlphanumeric c = true ∨ c = '_') : StandsFor a (':' :: v)
  | place {a : Parameter} (hdirection : a.direction = .output ∨ a.direction = .both) : StandsFor a ['?']

theorem argument?_eq_none_iff : p.argument? a = none ↔ p.LeavesOut a := by
  unfold argument? LeavesOut
  cases a.direction <;> simp

theorem standsFor_of_argument? {t : Text} (h : p.argument? a = some t) : StandsFor a t := by
  unfold argument? at h
  cases hdirection : a.direction with
  | result =>
    rw [hdirection] at h
    cases h
  | input =>
    rw [hdirection] at h
    obtain rfl := Option.some.inj h
    exact .value hdirection (isBindName_bindName _).isAlphanumeric_or_eq
  | output | both =>
    rw [hdirection] at h
    obtain ⟨-, hmark⟩ := Option.ite_none_right_eq_some.1 h
    obtain rfl := Option.some.inj hmark
    exact .place (by simp [hdirection])

theorem comma_notMem_of_standsFor {t : Text} (h : StandsFor a t) : ',' ∉ t := by
  cases h with
  | value _ hv =>
    rw [List.mem_cons, not_or]
    refine ⟨by decide, fun hmem => ?_⟩
    exact absurd (hv ',' hmem) (by decide)
  | place => decide

/-- One argument stands for each parameter that is passed, in order. -/
theorem forall₂_passed (p : Profile) (as : List Parameter) :
    List.Forall₂ (fun a t => p.argument? a = some t ∧ StandsFor a t) (p.passed as) (as.filterMap p.argument?) := by
  induction as with
  | nil => exact .nil
  | cons a as ih =>
    by_cases h : p.LeavesOut a
    · have hrest : p.passed (a :: as) = p.passed as := passed_append_cons [] as h
      rw [hrest, List.filterMap_cons_none (argument?_eq_none_iff.2 h)]
      exact ih
    · obtain ⟨t, ht⟩ := Option.ne_none_iff_exists'.1 (mt argument?_eq_none_iff.1 h)
      rw [passed, List.filter_cons_of_pos (by simpa using h), List.filterMap_cons_some ht]
      exact .cons ⟨ht, standsFor_of_argument? ht⟩ ih

/-- Only the parameters that are passed count. -/
theorem filterMap_passed (p : Profile) (as : List Parameter) :
    (p.passed as).filterMap p.argument? = as.filterMap p.argument? := by
  rw [passed, List.filterMap_filter]
  refine List.filterMap_congr fun a _ => ?_
  by_cases h : p.LeavesOut a
  · rw [if_neg (by simpa using h), argument?_eq_none_iff.2 h]
  · rw [if_pos (by simpa using h)]

theorem callArguments_eq_of_passed {r : Routine} {others : List Parameter}
    (h : p.passed others = p.passed r.parameters) :
    p.callArguments { r with parameters := others } = p.callArguments r := by
  unfold callArguments
  rw [← filterMap_passed, h, filterMap_passed]

/-- Between commas, the arguments can be told apart. -/
theorem splitOn_callArguments {r : Routine} (hne : p.passed r.parameters ≠ []) :
    (Text.join "," (p.callArguments r)).splitOn ',' = p.callArguments r := by
  refine List.splitOn_intercalate ',' (fun t ht => ?_) fun hnil => hne ?_
  · obtain ⟨a, -, ha⟩ := List.mem_filterMap.1 ht
    exact comma_notMem_of_standsFor (standsFor_of_argument? ha)
  · have hnone := p.forall₂_passed r.parameters
    rw [← callArguments, hnil] at hnone
    exact List.forall₂_nil_right_iff.1 hnone

end Profile

/-! ## Calls -/

namespace Dialect

variable {d : Dialect} {r : Routine}

/-- The same statement is the answer whatever stream it is written to, and the stream holds it behind what it has
held before. -/
theorem generateCall_eq (d : Dialect) (r : Routine) (stream : Option Text) :
    d.generateCall r stream = (d.call r, stream.map (· ++ d.call r)) := rfl

/-- If the end of a call depends on nothing but the kind of the routine, only the parameters that are passed count. -/
theorem call_eq_of_passed
    (hend : ∀ r r' : Routine, r.kind = r'.kind → d.profile.callEnd r = d.profile.callEnd r') {others : List Parameter}
    (h : d.profile.passed others = d.profile.passed r.parameters) :
    d.call { r with parameters := others } = d.call r := by
  have harguments := Profile.callArguments_eq_of_passed h
  have hcallEnd := hend { r with parameters := others } r rfl
  simp only [call, generateCall, harguments, hcallEnd]
  rfl

end Dialect

/-- A call depends on the parameters that are passed and on no others, and so does what it leaves in a stream. Between
the brackets it has, between commas, one argument for each of them in order. Whatever the stream has held before it
holds then, and behind it the statement that is the answer. -/
theorem call_eq_and_splitOn_arguments (d : Dialect)
    (hend : ∀ r r' : Routine, r.kind = r'.kind → d.profile.callEnd r = d.profile.callEnd r') (r : Routine) :
    (∀ others, d.profile.passed others = d.profile.passed r.parameters →
        d.call { r with parameters := others } = d.call r ∧
          ∀ stream, d.generateCall { r with parameters := others } stream = d.generateCall r stream) ∧
      (∃ behind, d.call r = (if d.profile.bracketsAroundCall then ['{', ' '] else []) ++ d.profile.callWord r ++ " " ++
        d.routineName r ++ "(" ++ Text.join "," (d.profile.callArguments r) ++ ")" ++ behind) ∧
      (d.profile.passed r.parameters ≠ [] →
        List.Forall₂ (fun a t => d.profile.argument? a = some t ∧ Profile.StandsFor a t)
          (d.profile.passed r.parameters) ((Text.join "," (d.profile.callArguments r)).splitOn ',')) ∧
      ∀ stream, (d.generateCall r stream).1 = d.call r ∧
        (d.generateCall r stream).2 = stream.map (· ++ (d.generateCall r stream).1) := by
  refine ⟨fun others h => ?_, d.exists_call_eq r, fun hne => ?_, fun stream => ?_⟩
  · have hcall := Dialect.call_eq_of_passed hend h
    refine ⟨hcall, fun stream => ?_⟩
    rw [Dialect.generateCall_eq, Dialect.generateCall_eq, hcall]
  · rw [Profile.splitOn_callArguments hne]
    exact d.profile.forall₂_passed r.parameters
  · rw [Dialect.generateCall_eq]
    exact ⟨rfl, rfl⟩

/-- A function with a result, a comma in a name, a value that comes out and a name that is missing. -/
def Routine.mixed : Routine where
  name := some "f"
  kind := .function
  parameters := [⟨some "r", .result, []⟩, ⟨some "a,b", .input, []⟩, ⟨some "c", .both, []⟩, ⟨none, .input, []⟩]

theorem call_eq_and_splitOn_arguments_oracle :
    (∀ r r' : Routine, r.kind = r'.kind → Dialect.oracle.profile.callEnd r = Dialect.oracle.profile.callEnd r') ∧
      Dialect.oracle.profile.passed (Routine.mixed.parameters.tail ++ Routine.mixed.parameters.take 1) =
        Dialect.oracle.profile.passed Routine.mixed.parameters ∧
      Dialect.oracle.generateCall
          { Routine.mixed with parameters := Routine.mixed.parameters.tail ++ Routine.mixed.parameters.take 1 }
          (some "-- call\n") =
        Dialect.oracle.generateCall Routine.mixed (some "-- call\n") ∧
      Dialect.oracle.profile.passed Routine.mixed.parameters ≠ [] ∧
      (Text.join "," (Dialect.oracle.profile.callArguments Routine.mixed)).splitOn ',' = [":a_b", "?", ":"] ∧
      List.Forall₂ (fun a t => Dialect.oracle.profile.argument? a = some t ∧ Profile.StandsFor a t)
        (Dialect.oracle.profile.passed Routine.mixed.parameters)
        ((Text.join "," (Dialect.oracle.profile.callArguments Routine.mixed)).splitOn ',') ∧
      (Dialect.oracle.generateCall Routine.mixed (some "-- call\n")).2 =
        some ("-- call\n" ++ (Dialect.oracle.generateCall Routine.mixed (some "-- call\n")).1) := by
  have hend : ∀ r r' : Routine, r.kind = r'.kind →
      Dialect.oracle.profile.callEnd r = Dialect.oracle.profile.callEnd r' := by
    intro r r' h
    show Policy.fromDual r = Policy.fromDual r'
    rw [Policy.fromDual, Routine.isFunction, h]
    rfl
  have hpassed : Dialect.oracle.profile.passed (Routine.mixed.parameters.tail ++ Routine.mixed.parameters.take 1) =
      Dialect.oracle.profile.passed Routine.mixed.parameters := by decide
  have hne : Dialect.oracle.profile.passed Routine.mixed.parameters ≠ [] := by decide
  obtain ⟨hcall, -, harguments, hstream⟩ := call_eq_and_splitOn_arguments .oracle hend .mixed
  exact ⟨hend, hpassed, (hcall _ hpassed).2 _, hne, by decide, harguments hne, (hstream (some "-- call\n")).2⟩

end SqlDialects
