import Cascade.Proofs.Lowering.DeadClosures
import Cascade.Proofs.Lowering.Inlining.Statement

set_option autoImplicit false

namespace Cascade

open Source

namespace Lowering

def Job.Exposes (spare : Bool) (off : List String) : Job → Prop
  | .expr e => e.exposes spare off = true
  | .exprs es => Expr.exposesList spare off es = true
  | .chain left links =>
    left.exposes spare off = true ∧ Expr.exposesLinks spare off links = true
  | .iterator source => source.exposesHeader spare off = true
  | .statement st => st.exposes spare off = true
  | .block ss => ∃ ss', Stmt.Aligned spare off ss ss'
  | .function _ _ => True

/-- The left end of a chain without comparisons is not lowered. -/
def Job.Lacks (off : List String) : Job → Prop
  | .expr e | .iterator e => off.Disjoint e.mentions
  | .exprs es => off.Disjoint (Expr.mentionsList es)
  | .chain left links =>
    (links ≠ [] → off.Disjoint left.mentions) ∧ off.Disjoint (Expr.mentionsLinks links)
  | .statement st => off.Disjoint st.mentions
  | .block ss => off.Disjoint (Stmt.mentionsList ss)
  | .function _ _ => True

section Lacks

variable {spare : Bool} {off : List String}

theorem disjoint_of_exposesBound {e : Expr} (bound : e.exposesBound spare off = true)
    (value : e.exposes spare off = true → off.Disjoint e.mentions) : off.Disjoint e.mentions := by
  unfold Expr.exposesBound at bound
  cases isLambda : e.isLambda with
  | true =>
    rw [isLambda, cond_true] at bound
    exact Expr.lacks_iff.1 bound
  | false =>
    rw [isLambda, cond_false] at bound
    exact value bound

theorem disjoint_call {callee : Expr} {args : List Expr} (first : off.Disjoint callee.mentions)
    (second : off.Disjoint (Expr.mentionsList args)) :
    off.Disjoint (Expr.call callee args []).mentions := by
  change off.Disjoint (callee.mentions ++ (Expr.mentionsList args ++ []))
  rw [List.append_nil]
  exact List.disjoint_append_right.2 ⟨first, second⟩

/-- Calls of anything but a lambda expression. -/
theorem disjoint_plain_call {callee : Expr} {args : List Expr} (plain : callee.isLambda = false)
    (exposed : (Expr.call callee args []).exposes spare off = true)
    (second : Expr.exposesList spare off args = true → off.Disjoint (Expr.mentionsList args)) :
    off.Disjoint (Expr.call callee args []).mentions := by
  obtain ⟨first, others⟩ := Bool.and_eq_true_iff.1 exposed
  exact disjoint_call (Expr.disjoint_of_exposesCallee plain first) (second others)

theorem isLambda_of_calleeToken? {fs : Frames} {names : Namespace} {callee : Expr} {token : String}
    (known : (calleeToken? fs names callee).filter Operator.isKnown = some token) :
    callee.isLambda = false := by
  cases callee with
  | lambda => cases known
  | _ => rfl

theorem isLambda_of_calledBy? {host : Host} {fs : Frames} {names : Namespace} {callee : Expr}
    {target : FunctionId × String} (called : calledBy? host fs names callee = some target) :
    callee.isLambda = false := by
  cases callee with
  | lambda => cases called
  | _ => rfl

theorem not_lowered_of_asks {host : Host} {names : Namespace} {st : Stmt} {s t : State}
    {ns : List Node} (asks : st.Asks) : ¬ Lowered host names (.statement st) s ns t := by
  intro lowered
  cases asks with
  | alone =>
    cases lowered with
    | expression value => cases value
  | result =>
    cases lowered with
    | retValue value => cases value

theorem Lowered.lacks {host : Host} {names : Namespace} {job : Job} {s t : State} {ns : List Node}
    (h : Lowered host names job s ns t) (exposed : job.Exposes spare off) : job.Lacks off := by
  induction h with
  | name => exact List.disjoint_singleton.2 (Expr.not_mem_of_exposes exposed)
  | constant | negative => exact List.disjoint_nil_right off
  | plus _ ih | minus _ _ ih | negation _ _ ih => exact ih (Bool.and_eq_true_iff.1 exposed).1
  | binary _ _ _ ih₁ ih₂ =>
    obtain ⟨first, second⟩ := Bool.and_eq_true_iff.1 exposed
    simp only [Job.Lacks, Expr.mentions_binary]
    exact List.disjoint_append_right.2 ⟨ih₁ first, ih₂ second⟩
  | junction _ _ ih₁ ih₂ =>
    obtain ⟨first, rest⟩ := Bool.and_eq_true_iff.1 exposed
    simp only [Job.Lacks, Expr.mentions_junction]
    exact List.disjoint_append_right.2 ⟨ih₁ first, ih₂ rest⟩
  | compare _ ih =>
    obtain ⟨first, links⟩ := ih (Bool.and_eq_true_iff.1 exposed)
    simp only [Job.Lacks, Expr.mentions_compare]
    exact List.disjoint_append_right.2 ⟨first nofun, links⟩
  | operator _ known _ _ ih => exact disjoint_plain_call (isLambda_of_calleeToken? known) exposed ih
  | closureReference _ _ _ _ ih | closureDefinition _ _ _ _ _ _ _ ih =>
    exact disjoint_plain_call rfl exposed ih
  | functionReference _ _ _ called _ _ ih | functionDefinition _ _ _ called _ _ _ ih =>
    exact disjoint_plain_call (isLambda_of_calledBy? called) exposed ih
  | @lambda _ params body _ _ _ _ _ _ _ _ _ _ _ ih₁ ih₂ =>
    obtain ⟨first, others⟩ := Bool.and_eq_true_iff.1 exposed
    obtain ⟨head, alone⟩ := Bool.and_eq_true_iff.1 first
    have alone : (Routine.ofLambda params body).exposes spare off = true := alone
    have value : off.Disjoint (Routine.ofLambda params body).mentions :=
      ih₁ ⟨_, (Routine.inlined_inline alone).statements⟩
    rw [Routine.mentions_ofLambda] at value
    refine disjoint_call ?_ (ih₂ others)
    rw [Expr.mentions_lambda]
    exact List.disjoint_append_right.2 ⟨Expr.all_lacks_iff.1 head, value⟩
  | nil | blockNil => exact List.disjoint_nil_right off
  | cons _ _ ih₁ ih₂ =>
    obtain ⟨first, rest⟩ := Bool.and_eq_true_iff.1 exposed
    exact List.disjoint_append_right.2 ⟨ih₁ first, ih₂ rest⟩
  | chainNil => exact ⟨fun filled => absurd rfl filled, List.disjoint_nil_right off⟩
  | chainCons _ _ _ _ ih₁ ih₂ ih₃ =>
    obtain ⟨second, rest⟩ := Bool.and_eq_true_iff.1 exposed.2
    refine ⟨fun _ => ih₁ exposed.1, ?_⟩
    exact List.disjoint_append_right.2 ⟨ih₂ second, (ih₃ ⟨second, rest⟩).2⟩
  | @range _ e _ _ _ _ static =>
    cases e with
    | call => exact Expr.lacks_iff.1 exposed
    | _ => cases static
  | display shape _ _ ih => rcases shape with rfl | rfl <;> exact ih exposed
  | constants => exact Expr.lacks_iff.1 exposed
  | branch _ _ ih₁ ih₂ =>
    simp only [Job.Exposes, Stmt.exposes, Bool.and_eq_true] at exposed
    simp only [Job.Lacks, Stmt.mentions, List.disjoint_append_right]
    exact ⟨⟨ih₁ exposed.1, ih₂ ⟨_, Stmt.aligned_inlineList exposed.2.1⟩⟩,
      List.disjoint_nil_right off⟩
  | branchElse _ _ _ ih₁ ih₂ ih₃ =>
    simp only [Job.Exposes, Stmt.exposes, Bool.and_eq_true] at exposed
    simp only [Job.Lacks, Stmt.mentions, List.disjoint_append_right]
    exact ⟨⟨ih₁ exposed.1, ih₂ ⟨_, Stmt.aligned_inlineList exposed.2.1⟩⟩,
      ih₃ ⟨_, Stmt.aligned_inlineList exposed.2.2⟩⟩
  | loop _ _ ih₁ ih₂ =>
    simp only [Job.Exposes, Stmt.exposes, Bool.and_eq_true] at exposed
    simp only [Job.Lacks, Stmt.mentions, List.disjoint_append_right]
    exact ⟨⟨⟨Expr.lacks_iff.1 exposed.1, ih₁ exposed.2.1⟩,
      ih₂ ⟨_, Stmt.aligned_inlineList exposed.2.2⟩⟩, List.disjoint_nil_right off⟩
  | ret | pass => exact List.disjoint_nil_right off
  | retValue _ ih =>
    simp only [Job.Lacks, Stmt.mentions, Option.toList_some, List.flatMap_singleton]
    exact ih exposed
  | augAssign _ _ ih =>
    obtain ⟨target, value⟩ := Bool.and_eq_true_iff.1 exposed
    exact List.disjoint_append_right.2 ⟨Expr.lacks_iff.1 target, ih value⟩
  | declaration =>
    obtain ⟨target, note⟩ := Bool.and_eq_true_iff.1 exposed
    simp only [Job.Lacks, Stmt.mentions, List.flatMap_cons, List.flatMap_nil, List.append_nil,
      List.disjoint_append_right, Option.toList_none]
    exact ⟨Expr.lacks_iff.1 target, Expr.lacks_iff.1 note⟩
  | annotated _ ih =>
    simp only [Job.Exposes, Stmt.exposes, Bool.and_eq_true] at exposed
    have assigned := ih (by
      simp only [Job.Exposes, Stmt.exposes, List.all_cons, List.all_nil, Bool.and_true,
        Bool.and_eq_true]
      exact ⟨exposed.1, exposed.2.2⟩)
    simp only [Job.Lacks, Stmt.mentions, List.flatMap_cons, List.flatMap_nil, List.append_nil,
      List.disjoint_append_right, Option.toList_some] at assigned ⊢
    exact ⟨⟨assigned.1, Expr.lacks_iff.1 exposed.2.1⟩, assigned.2⟩
  | assign _ ih =>
    simp only [Job.Exposes, Stmt.exposes, List.all_cons, List.all_nil, Bool.and_true,
      Bool.and_eq_true] at exposed
    exact List.disjoint_append_right.2
      ⟨Expr.lacks_iff.1 exposed.1, disjoint_of_exposesBound exposed.2 ih⟩
  | assignLambda =>
    simp only [Job.Exposes, Stmt.exposes, List.all_cons, List.all_nil, Bool.and_true,
      Bool.and_eq_true] at exposed
    exact List.disjoint_append_right.2 ⟨Expr.lacks_iff.1 exposed.1, Expr.lacks_iff.1 exposed.2⟩
  | nested => exact Stmt.lacks_iff.1 exposed
  | dropped => exact Expr.lacks_iff.1 (Bool.and_eq_true_iff.1 exposed).1
  | expression _ ih => exact disjoint_of_exposesBound (Bool.and_eq_true_iff.1 exposed).1 ih
  | blockCons head _ ih₁ ih₂ =>
    obtain ⟨_, aligned⟩ := exposed
    cases aligned with
    | cons first rest => exact List.disjoint_append_right.2 ⟨ih₁ first, ih₂ ⟨_, rest⟩⟩
    | asks _ asks => exact absurd head (not_lowered_of_asks asks)
  | function => trivial

end Lacks

end Lowering

namespace Host

open Lowering

section Guidance

variable {h : Host} {id : FunctionId} {source : FunctionSource} {name name' : Option String}
  {r : Routine} {n : String} {value : Value} {given chosen : Option String}

theorem replaces_withSource (h : Host) (id : FunctionId) (source : FunctionSource) :
    Replaces id h (h.withSource id source) where
  calledBy? := h.calledBy?_withSource id source
  namespaceOf := h.namespaceOf_withSource id source
  function other ne := by rw [function_withSource, if_neg ne]

theorem id_of_function? {maxDepth : Option Int} {e : EntryPoint}
    (target : h.function? value given = .ok (id, chosen))
    (entry : h.entry? value given maxDepth = .ok e) : e.id = id := by
  unfold entry? at entry
  rw [target] at entry
  dsimp only at entry
  split at entry
  · cases entry
  split at entry
  · cases entry
  split at entry
  · cases entry
    rfl
  · split at entry
    · cases entry
      rfl
    · cases entry

theorem run_guided {spare : Bool} {e : EntryPoint} {limit' : Int} {extra : Nat}
    (found : (h.world.function e.id).locate? = .ok ⟨name, r⟩)
    (found' : { h.world.function e.id with source := source }.locate? =
      .ok ⟨name', r.inline [n]⟩)
    (stands : n ∈ r.mentions) (exposed : r.exposes spare [n] = true)
    (levels : limit'.toNat = e.limit.toNat + extra) (room : spare = true → 2 ≤ extra)
    {d : Definition} {t : State} (ran : (h.withSource e.id source).run e = .ok d t) :
    ∃ u, h.run ⟨e.id, e.name, limit'⟩ = .error (.unsupported .assignmentExpression) u := by
  have guides := guides_descent (h.replaces_withSource e.id source) e.limit limit' room
    e.limit.toNat
  rw [← levels, ← remaining_start, ← remaining_start] at guides
  have located (there : Located)
      (got : ((h.withSource e.id source).world.function e.id).locate? = .ok there) :
      there.routine = r.inline [n] := by
    rw [function_withSource, if_pos rfl, found'] at got
    cases got
    rfl
  have begun : Paired e.id [] ((State.start []).marked e.id e.name)
      ((State.start []).marked e.id e.name) :=
    ⟨.nil, rfl, _, (Aliases.get?_mark e.id).trans (if_pos rfl)⟩
  have called : ((h.withSource e.id source).world.function e.id).qualname =
      (h.world.function e.id).qualname := by
    rw [function_withSource, if_pos rfl]
  have inlined := Routine.inlined_inline exposed
  have ended : Guided e.id [] (h.run ⟨e.id, e.name, limit'⟩)
      ((h.withSource e.id source).run e) := by
    refine function_guided guides [n] called (h.namespaceOf_withSource e.id source e.id) ?_ rfl
      begun
    intro there got
    rw [located there got]
    exact ⟨⟨name, r⟩, found, inlined⟩
  rw [ran] at ended
  generalize first : h.run ⟨e.id, e.name, limit'⟩ = result at ended
  cases ended with
  | asked => exact ⟨_, rfl⟩
  | ok _ =>
    -- Had the run succeeded, what it lowers would not mention the name.
    obtain ⟨_, _, _, _, _, found', _, body⟩ := (run_sound first).function_inv
    cases found.symm.trans found'
    have apart : [n].Disjoint r.mentions := body.lacks ⟨_, inlined.statements⟩
    exact absurd stands (apart (List.mem_singleton_self n))

def guidance : Failure :=
  .fault (.unsupported .assignmentExpression)

/-- If a function is lowered with the values in the places of all assignment expressions to a name,
then as it is written it is refused with the guidance, provided that the lowering comes to the
assignment expressions: under the same limit, or under one that is larger by two levels where their
values need fewer levels than they do themselves. -/
theorem lower_eq_guidance {maxDepth : Option Int} {d : Definition}
    (found : (h.world.function id).locate? = .ok ⟨name, r⟩)
    (found' : { h.world.function id with source := source }.locate? = .ok ⟨name', r.inline [n]⟩)
    (target : h.function? value given = .ok (id, chosen)) (stands : n ∈ r.mentions)
    (lowers : (h.withSource id source).lower value given maxDepth = .ok d) :
    (r.exposes false [n] = true → h.lower value given maxDepth = .error guidance) ∧
    (r.exposes true [n] = true → ∀ limit limit' : Int, maxDepth = some limit →
      limit.toNat + 2 ≤ limit'.toNat → h.lower value given (some limit') = .error guidance) ∧
    guidance.message =
      "Please use `=` for assignment. Assignment expressions (`:=`) are not supported." := by
  have same := h.entry?_withSource id source value given maxDepth
  cases entry : h.entry? value given maxDepth with
  | error cause =>
    unfold lower lowerTraced at lowers
    rw [same, entry] at lowers
    cases lowers
  | ok e =>
    obtain rfl := id_of_function? target entry
    rw [lower_of_entry (same.trans entry)] at lowers
    obtain ⟨t, ran⟩ : ∃ t, (h.withSource e.id source).run e = .ok d t := by
      cases ran : (h.withSource e.id source).run e with
      | ok d' t =>
        rw [ran] at lowers
        cases lowers
        exact ⟨t, rfl⟩
      | error cause t =>
        rw [ran] at lowers
        cases lowers
    refine ⟨?_, ?_, rfl⟩
    · intro exposed
      rw [lower_of_entry entry]
      refine outcome_eq_fault.2 ?_
      exact run_guided found found' stands exposed (Nat.add_zero _).symm nofun ran
    · rintro exposed limit limit' rfl room
      rcases entry?_cases h value given with ⟨cause, _, refused⟩ | ⟨id, chosen, accepted⟩
      · cases entry.symm.trans (refused limit)
      · cases entry.symm.trans (accepted limit)
        obtain ⟨extra, levels⟩ := Nat.exists_eq_add_of_le (Nat.le_of_add_right_le room)
        rw [lower_of_entry (accepted limit')]
        refine outcome_eq_fault.2 ?_
        exact run_guided found found' stands exposed levels (fun _ => by omega) ran

end Guidance

/-- The assignment expression `(n := value)`. -/
def assigning (value : Expr) : Expr :=
  .named (.name "n" .store) value

/-- The function `def f(x): if g(x) < bound: return (lambda z: z + x)(1)`, with a function `g` that
returns its argument. -/
def boundedBody (bound : Expr) : List Stmt :=
  [.branch (.compare (.call (.name "g" .load) [.name "x" .load] []) .lt bound [])
    [.ret (some (.call (.lambda [⟨.positional, "z", none, none⟩]
      (.binary .add (.name "z" .load) (.name "x" .load))) [.constant (.int 1)] []))] []]

def bounded : Host :=
  ofFunctions [] [("g", ["y"], [.ret (some (.name "y" .load))]),
    ("f", ["x"], boundedBody (assigning (.constant (.int 2))))]

/-- The function `def f(x): body`. -/
def single (body : List Stmt) : Host :=
  ofFunctions [] [("f", ["x"], body)]

def rewritten (h : Host) (body : List Stmt) : Host :=
  h.withSource "f" (.body [.function "f" [⟨.positional, "x", none, none⟩] body [] none])

def negativeBody (value : Expr) : List Stmt :=
  [.ret (some (.unary .minus value))]

/-- The number behind the minus sign is lowered with two levels, and the assignment expression is
answered with four. -/
theorem bounded_lower_eq_guidance :
    (∃ d, (bounded.rewritten (boundedBody (.constant (.int 2)))).lower (.function "f") none none =
      .ok d ∧ d.node.definitions = ["f", "g", "lambda_1"]) ∧
    bounded.lower (.function "f") none none = .error guidance ∧
    (∃ d, ((single (negativeBody (assigning (.constant (.int 1))))).rewritten
      (negativeBody (.constant (.int 1)))).lower (.function "f") none (some 2) = .ok d ∧
        d.node.definitions = ["f"]) ∧
    (single (negativeBody (assigning (.constant (.int 1))))).lower (.function "f") none (some 4) =
      .error guidance := by
  have lowers : ∃ d, (bounded.rewritten (boundedBody (.constant (.int 2)))).lower (.function "f")
      none none = .ok d ∧ d.node.definitions = ["f", "g", "lambda_1"] :=
    exists_of_toOption (by decide +kernel)
  have lowers' : ∃ d, ((single (negativeBody (assigning (.constant (.int 1))))).rewritten
      (negativeBody (.constant (.int 1)))).lower (.function "f") none (some 2) = .ok d ∧
        d.node.definitions = ["f"] :=
    exists_of_toOption (by decide +kernel)
  refine ⟨lowers, ?_, lowers', ?_⟩
  · obtain ⟨d, lowered, _⟩ := lowers
    have asked := @lower_eq_guidance bounded "f" _ (some "f") (some "f") _ "n" (.function "f") none
      none none d rfl rfl rfl (by decide) lowered
    exact asked.1 (by decide)
  · obtain ⟨d, lowered, _⟩ := lowers'
    have asked := @lower_eq_guidance (single (negativeBody (assigning (.constant (.int 1))))) "f" _
      (some "f") (some "f") _ "n" (.function "f") none none (some 2) d rfl rfl rfl (by decide)
      lowered
    exact asked.2.1 (by decide) 2 4 rfl (by decide)

/-- A callee. -/
def calledBody (callee : Expr) : List Stmt :=
  [.ret (some (.call callee [.name "x" .load] []))]

/-- The header of a loop. -/
def loopBody (source : Expr) : List Stmt :=
  [.forLoop (.name "i" .store) source [.assign [.name "x" .store] (.name "i" .load)] []]

/-- An initial value in the head of a nested function. -/
def nestedBody (initial : Expr) : List Stmt :=
  [.function "k" [⟨.positional, "a", none, some initial⟩] [.ret (some (.name "a" .load))] [] none,
    .ret (some (.name "x" .load))]

/-- The functions `def f(x): return (n := abs)(x)`, `def f(x): for i in (n := [1, 2]): x = i`,
`def f(x): def k(a=(n := 1)): return a; return x` and `def f(x): return -(n := 1)`.  With the value
in the place of the assignment expression each of them is lowered, the last one with two levels.  As
they are written, the first two are refused for the callee and the header, the third is lowered,
and the last one has no level left for the assignment expression. -/
theorem unguided_lower :
    ((∃ d, (single (calledBody (.name "abs" .load))).lower (.function "f") none none = .ok d ∧
        d.node.definitions = ["f"]) ∧
      (single (calledBody (assigning (.name "abs" .load)))).lower (.function "f") none none =
        .error (.fault (.unknownOperator "(n := abs)(x)"))) ∧
    ((∃ d, (single (loopBody (.list [.constant (.int 1), .constant (.int 2)]))).lower
        (.function "f") none none = .ok d ∧ d.node.definitions = ["f"]) ∧
      (single (loopBody (assigning (.list [.constant (.int 1), .constant (.int 2)])))).lower
        (.function "f") none none =
          .error (.fault (.unsupported (.loopIterator "(n := [1, 2])")))) ∧
    ((∃ d, (single (nestedBody (.constant (.int 1)))).lower (.function "f") none none = .ok d ∧
        d.node.definitions = ["f"]) ∧
      (single (nestedBody (assigning (.constant (.int 1))))).lower (.function "f") none none =
        (single (nestedBody (.constant (.int 1)))).lower (.function "f") none none) ∧
    (∃ d, (single (negativeBody (.constant (.int 1)))).lower (.function "f") none (some 2) = .ok d ∧
        d.node.definitions = ["f"]) ∧
      (single (negativeBody (assigning (.constant (.int 1))))).lower (.function "f") none (some 2) =
        .error (.fault (.depthExceeded 2)) := by
  refine ⟨⟨?_, by rfl⟩, ⟨?_, eq_error_of_error? (by decide +kernel)⟩, ⟨?_, by rfl⟩, ?_, by rfl⟩ <;>
    exact exists_of_toOption (by decide +kernel)

end Host

end Cascade
