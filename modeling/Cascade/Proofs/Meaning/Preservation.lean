import Cascade.Proofs.Meaning.Derivation

set_option autoImplicit false

namespace Cascade.Meaning

open Source Lowering

variable {c : Context}

theorem regular_asResult {st : Stmt} (h : regular c st = true) : regular c st.asResult = true := by
  cases st with
  | expr e =>
    have value : plain c e = true := h
    simpa [Stmt.asResult, isLambda_of_plain value, regular] using value
  | _ => exact h

theorem assigned_asResult (st : Stmt) : assigned st.asResult = assigned st := by
  cases st with
  | expr e => cases closed : e.isLambda <;> simp [Stmt.asResult, closed, assigned]
  | _ => rfl

theorem regularList_withResult {ss : List Stmt} (h : regularList c ss = true) :
    regularList c (Routine.withResult ss) = true := by
  fun_induction Routine.withResult ss with
  | case1 => rfl
  | case2 st =>
    simp only [regularList, Bool.and_true] at h ⊢
    exact regular_asResult h
  | case3 st ss _ ih =>
    simp only [regularList, Bool.and_eq_true] at h ⊢
    exact ⟨h.1, ih h.2⟩

theorem assignedList_withResult (ss : List Stmt) :
    assignedList (Routine.withResult ss) = assignedList ss := by
  fun_induction Routine.withResult ss with
  | case1 => rfl
  | case2 st => simp only [assignedList, assigned_asResult]
  | case3 st ss _ ih => simp only [assignedList, ih]

theorem regularList_filter {ss : List Stmt} (h : regularList c ss = true) :
    regularList c (ss.filter fun st => !st.isPass) = true := by
  induction ss with
  | nil => rfl
  | cons st ss ih =>
    simp only [regularList, Bool.and_eq_true] at h
    rw [List.filter_cons]
    split
    · simp only [regularList, Bool.and_eq_true]
      exact ⟨h.1, ih h.2⟩
    · exact ih h.2

theorem assignedList_filter (ss : List Stmt) :
    assignedList (ss.filter fun st => !st.isPass) = assignedList ss := by
  induction ss with
  | nil => rfl
  | cons st ss ih =>
    by_cases empty : st = .pass
    · subst empty
      exact ih
    · rw [filter_cons_of_ne_pass empty, assignedList, assignedList, ih]

theorem inFragment_withResult {ss : List Stmt} (h : regularList c ss = true)
    (own : assignedList ss ⊆ c.locals) :
    InFragment c (.block (Routine.withResult (ss.filter fun st => !st.isPass))) := by
  refine ⟨regularList_withResult (regularList_filter h), ?_⟩
  rw [assignedList_withResult, assignedList_filter]
  exact own

theorem inFragment_statements {names : Namespace} {routine : Routine}
    (h : inFragment names routine = true) :
    InFragment (contextOf names routine) (.block routine.statements) := by
  obtain ⟨params, body, decorated⟩ := routine
  cases body with
  | expression e =>
    have value : regularList (contextOf names ⟨params, .expression e, decorated⟩) [.expr e] :=
      Bool.and_eq_true_iff.2 ⟨h, rfl⟩
    exact inFragment_withResult value (List.nil_subset _)
  | block ss =>
    have own : assignedList ss ⊆ (contextOf names ⟨params, .block ss, decorated⟩).locals :=
      List.subset_append_right _ _
    cases ss with
    | nil => exact ⟨rfl, List.nil_subset _⟩
    | cons st ss =>
      simp only [inFragment, Bool.and_eq_true, Bool.or_eq_true] at h
      by_cases text : st.isDocstring = true
      · simp only [Routine.statements, text, if_true]
        exact inFragment_withResult h.2 (List.append_subset.1 own).2
      · simp only [Routine.statements, text]
        have all : regularList (contextOf names ⟨params, .block (st :: ss), decorated⟩)
            (st :: ss) := Bool.and_eq_true_iff.2 ⟨h.1.resolve_left text, h.2⟩
        exact inFragment_withResult all own

end Cascade.Meaning

namespace Cascade.Host

open Meaning Lowering Source

variable {h : Host} {value : Value} {name : Option String} {maxDepth : Option Int}
  {e : EntryPoint} {d : Definition} {located : Located}

def context (h : Host) (e : EntryPoint) (located : Located) : Context :=
  contextOf (h.world.namespaceOf (h.world.function e.id)) located.routine

theorem execs_of_run {s : State} (run : h.run e = .ok d s)
    (found : (h.world.function e.id).locate? = .ok located)
    (inside : inFragment (h.world.namespaceOf (h.world.function e.id)) located.routine = true)
    (σ : Store) :
    Engine.execs d.body σ = Rules.reference.run (h.context e located) located.routine σ := by
  obtain ⟨other, formals, body, t, shape, found', accepted, inner⟩ := (run_sound run).function_inv
  rw [found] at found'
  cases found'
  simp only [Definition.node, List.cons.injEq, Node.function.injEq, and_true] at shape
  have settled : Settled (h.context e located)
      ((State.start []).begun e.id e.name (h.world.function e.id).qualname
        (frameOf located.routine formals)) := by
    refine ⟨located.routine.localNames formals, rfl, fun id => ?_⟩
    rw [localNames_eq accepted inside, context]
  obtain ⟨_, means⟩ := lowered_means inner rfl (inFragment_statements inside) settled
  rw [shape.2.2, context, ← block_statements Rules.reference inside]
  exact means σ

/-- A function of the fragment and its lowered body run alike from every store.  What the engine
ends with, the source ends with under the rules of the language, unless it comes to a plus sign
before a truth value. -/
theorem lower_preserves_meaning (entry : h.entry? value name maxDepth = .ok e)
    (lowered : h.lower value name maxDepth = .ok d)
    (found : (h.world.function e.id).locate? = .ok located)
    (inside : inFragment (h.world.namespaceOf (h.world.function e.id)) located.routine = true)
    (σ : Store) :
    Engine.execs d.body σ = Rules.reference.run (h.context e located) located.routine σ ∧
      ∀ r, Engine.execs d.body σ = .ok r →
        Rules.language.run (h.context e located) located.routine σ = .ok r ∨
          Rules.language.run (h.context e located) located.routine σ = .error .plusOnTruth := by
  obtain ⟨e', s, entry', run⟩ := lower_eq_ok.1 lowered
  rw [entry] at entry'
  cases entry'
  have same := execs_of_run run found inside σ
  refine ⟨same, fun r ends => ?_⟩
  rw [same] at ends
  exact Rules.run_agrees _ located.routine σ r ends

/-- A function with a leading text, a loop over a range, a chain of comparisons in a branch, a
constant of the program and a result without `return`. -/
def tally : Host :=
  let read (id : String) : Expr := .name id .load
  let number (n : Int) : Expr := .constant (.int n)
  ofFunctions [("limit", .scalar (.int 4))]
    [("tally", ["n", "keep"],
      [.expr (.constant (.str "Half of a sum of squares.")),
      .assign [.name "total" .store] (number 0),
      .forLoop (.name "i" .store) (.call (read "range") [number 1, read "limit"] [])
        [.branch (.junction .conj (.compare (number 0) .lt (read "i") [⟨.ltEq, read "n"⟩])
            [read "keep"])
          [.augAssign (.name "total" .store) .add (.binary .pow (read "i") (number 2))]
          [.assign [.name "total" .store] (.unary .minus (read "total"))]]
        [],
      .expr (.binary .floorDiv (read "total") (number 2)),
      .pass])]

/-- From `n = 5` and `keep = True`, the run ends with half of 14. -/
theorem tally_preserves_meaning :
    ∃ d located, tally.lower (.function "tally") none none = .ok d ∧
      (tally.world.function "tally").locate? = .ok located ∧
      (match Engine.execs d.body (Store.set (Store.set (fun _ => none) "n" (.int 5)) "keep"
          (.truth true)) with
        | .ok (.returned v _) => v
        | _ => none) = some (.int 7) ∧
      ∀ σ, Engine.execs d.body σ = Rules.reference.run
          (tally.context ⟨"tally", "tally", 200⟩ located) located.routine σ ∧
        ∀ r, Engine.execs d.body σ = .ok r →
          Rules.language.run (tally.context ⟨"tally", "tally", 200⟩ located) located.routine σ =
              .ok r ∨
            Rules.language.run (tally.context ⟨"tally", "tally", 200⟩ located) located.routine σ =
              .error .plusOnTruth := by
  have entry : tally.entry? (.function "tally") none none = .ok ⟨"tally", "tally", 200⟩ := by
    decide +kernel
  obtain ⟨d, lowered, result⟩ := exists_of_toOption
    (show (tally.lower (.function "tally") none none).toOption.map (fun d =>
      match Engine.execs d.body (Store.set (Store.set (fun _ => none) "n" (.int 5)) "keep"
          (.truth true)) with
        | .ok (.returned v _) => v
        | _ => none) = some (some (.int 7)) by decide +kernel)
  refine ⟨d, _, lowered, rfl, result, fun σ => ?_⟩
  exact lower_preserves_meaning entry lowered rfl (by decide +kernel) σ

end Cascade.Host
