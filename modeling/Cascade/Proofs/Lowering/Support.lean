import Cascade.Proofs.Lowering.Completion

set_option autoImplicit false

/-!
# Nothing unsupported is lowered, but for two things

A routine is supported if the engine has a counterpart for all its live parts: for the statements it
runs, for the expressions whose values they take, and for its parameters.  Annotations, callees and
the bodies of functions and lambda expressions that it only makes are not live; the heads of these
are.  A routine that a successful lowering translates is supported unless it is a lambda expression
whose value is a lambda expression, which is dropped like one that stands alone, or makes a function
whose decorators and initial values are not supported: nothing looks at them until the function is
called.
-/
namespace Cascade.Source

namespace Expr

def isSupported : Expr → Bool
  | name .. | unary .. | junction .. => true
  | constant value => value.isPrimitive
  | binary op _ _ => (Operator.binaryToken? op).isSome
  | compare _ op _ rest =>
    (Operator.compareToken? op).isSome &&
      rest.all fun link => (Operator.compareToken? link.op).isSome
  | call _ args keywords => keywords.isEmpty && !args.any isStarred
  | _ => false

def headerValues : Expr → List Expr
  | list elements | tuple elements => elements
  | e => [e]

def initialValues : Expr → List Expr
  | lambda params _ => params.flatMap (·.initial.toList)
  | _ => []

inductive Supported : Expr → Prop where
  | mk {e : Expr} (own : e.isSupported = true) (inner : ∀ a ∈ e.operands, Supported a) :
      Supported e

end Expr

namespace Stmt

def isSupported : Stmt → Bool
  | function .. | ret _ | branch .. | expr _ | pass | annAssign _ _ none _ => true
  | assign [.name ..] _ | annAssign (.name ..) _ (some _) _ | forLoop (.name ..) _ _ [] => true
  | augAssign (.name ..) op _ => (Operator.binaryToken? op).isSome
  | _ => false

/-- The expressions whose values a statement takes.  A lambda expression that is bound to a name or
stands alone is no value. -/
def values : Stmt → List Expr
  | ret value => value.toList
  | assign _ value => [value].filter fun e => !e.isLambda
  | annAssign _ _ value _ => value.toList.filter fun e => !e.isLambda
  | augAssign _ _ value => [value]
  | forLoop _ source _ _ => source.headerValues
  | branch test _ _ | whileLoop test _ _ => [test]
  | expr value => [value].filter fun e => !e.isLambda
  | _ => []

/-- The expressions whose values a statement takes to make a function or a lambda expression that is
bound to a name or stands alone. -/
def headValues : Stmt → List Expr
  | function _ params _ decorators _ => params.flatMap (·.initial.toList) ++ decorators
  | assign _ value | expr value => value.initialValues
  | annAssign _ _ value _ => value.toList.flatMap Expr.initialValues
  | _ => []

inductive Supported : Stmt → Prop where
  | mk {st : Stmt} (own : st.isSupported = true) (values : ∀ e ∈ st.values, e.Supported)
      (inner : ∀ part ∈ st.inner, Supported part) : Supported st

end Stmt

namespace Routine

def HeadsSupported (r : Routine) : Prop :=
  ∀ st, r.Runs st → ∀ e ∈ st.headValues, e.Supported

theorem HeadsSupported.of_flat {r : Routine} (flat : ∀ st ∈ r.statements, st.inner = [] ∧
    ∀ e ∈ st.headValues, e.Supported) : r.HeadsSupported := by
  intro st runs
  have inside : st ∈ r.statements := by
    induction runs with
    | top inside => exact inside
    | inner _ inside ih =>
      rw [(flat _ ih).1] at inside
      cases inside
  exact (flat st inside).2

/-- All arguments are passed by place and none has an initial value, and all statements are
supported; the value of a lambda expression is live. -/
structure Supported (r : Routine) : Prop where
  params : ∀ p ∈ r.params, p.isPlaced = true ∧ p.initial = none
  statements : ∀ st ∈ r.statements, st.Supported
  heads : r.HeadsSupported
  value : ∀ {e}, r.body = .expression e → e.Supported

def YieldsLambda (r : Routine) : Prop :=
  ∃ params value, r.body = .expression (.lambda params value)

end Routine

end Cascade.Source

namespace Cascade.Lowering

open Source

def Job.Supported : Job → Prop
  | .expr e => e.Supported
  | .exprs es => ∀ e ∈ es, e.Supported
  | .chain left links => (links ≠ [] → left.Supported) ∧
      ∀ link ∈ links, (Operator.compareToken? link.op).isSome = true ∧ link.right.Supported
  | .iterator source => ∀ e ∈ source.headerValues, e.Supported
  | .statement st => st.Supported
  | .block ss => ∀ st ∈ ss, st.Supported
  | .function _ _ => True

section Expressions

variable {fs : Frames} {names : Namespace}

theorem supported_name (id : String) (use : Use) : (Expr.name id use).Supported :=
  .mk rfl fun _ inside => (nomatch inside)

theorem supported_constant {value : Scalar} (primitive : value.isPrimitive = true) :
    (Expr.constant value).Supported :=
  .mk primitive fun _ inside => (nomatch inside)

theorem supported_unary {op : UnaryOp} {e : Expr} (h : e.Supported) :
    (Expr.unary op e).Supported := by
  refine .mk rfl fun a inside => ?_
  rw [List.mem_singleton.1 inside]
  exact h

theorem supported_call {callee : Expr} {args : List Expr}
    (plain : args.any Expr.isStarred = false) (h : ∀ e ∈ args, e.Supported) :
    (Expr.call callee args []).Supported := by
  refine .mk ?_ h
  simp [Expr.isSupported, plain]

theorem isPrimitive_of_constantNode? {value : Scalar} {n : Node}
    (found : constantNode? value = .ok n) : value.isPrimitive = true := by
  unfold constantNode? at found
  split at found
  · assumption
  · cases found

theorem isPrimitive_of_negate? {value negated : Scalar} (sign : value.negate? = some negated) :
    value.isPrimitive = true := by
  cases value with
  | int | float => rfl
  | _ => cases sign

theorem isPrimitive_of_int? {value : Scalar} {n : Int} (h : value.int? = some n) :
    value.isPrimitive = true := by
  cases value with
  | int => rfl
  | _ => cases h

theorem supported_of_staticInt? {e : Expr} {n : Int} (static : staticInt? fs names e = some n) :
    e.Supported := by
  unfold staticInt? at static
  split at static
  · exact supported_constant (isPrimitive_of_int? static)
  · obtain ⟨m, integer, _⟩ := Option.map_eq_some_iff.1 static
    exact supported_unary (supported_constant (isPrimitive_of_int? integer))
  · exact supported_name _ _
  · cases static

theorem exists_of_mapM {α β : Type} {f : α → Option β} {as : List α} {bs : List β}
    (h : as.mapM f = some bs) : ∀ a ∈ as, ∃ b, f a = some b := by
  induction as generalizing bs with
  | nil => exact fun a inside => (nomatch inside)
  | cons first as ih =>
    rw [List.mapM_cons] at h
    obtain ⟨b, head, h⟩ := Option.bind_eq_some_iff.1 h
    obtain ⟨rest, tail, _⟩ := Option.bind_eq_some_iff.1 h
    intro a inside
    rcases List.mem_cons.1 inside with rfl | inside
    · exact ⟨b, head⟩
    · exact ih tail a inside

theorem supported_of_staticRange? {e : Expr} {bounds : Int × Int × Int}
    (static : staticRange? fs names e = some bounds) : e.Supported := by
  unfold staticRange? at static
  split at static
  · split at static
    · cases static
    · rename_i args _
      obtain ⟨ints, found, _⟩ := Option.bind_eq_some_iff.1 static
      have each := exists_of_mapM found
      refine supported_call ?_ fun a inside => ?_
      · rw [List.any_eq_false]
        intro a inside starred
        obtain ⟨n, integer⟩ := each a inside
        cases a <;> cases starred
        cases integer
      · obtain ⟨n, integer⟩ := each a inside
        exact supported_of_staticInt? integer
  · cases static

end Expressions

section Lowered

variable {host : Host} {names : Namespace} {job : Job} {s t : State} {ns : List Node}

theorem supported_headerValues {e : Expr} (plain : e.headerValues = [e]) (h : e.Supported) :
    ∀ a ∈ e.headerValues, a.Supported := by
  intro a inside
  rw [plain] at inside
  rw [List.mem_singleton.1 inside]
  exact h

theorem Lowered.supported (h : Lowered host names job s ns t) : job.Supported := by
  induction h with
  | name => exact supported_name _ _
  | constant found => exact supported_constant (isPrimitive_of_constantNode? found)
  | plus _ ih | minus _ _ ih | negation _ _ ih => exact supported_unary ih
  | negative sign => exact supported_unary (supported_constant (isPrimitive_of_negate? sign))
  | binary known _ _ ih₁ ih₂ =>
    refine .mk (by simp [Expr.isSupported, known]) fun a inside => ?_
    simp only [Expr.operands, List.mem_cons, List.not_mem_nil, or_false] at inside
    rcases inside with rfl | rfl
    · exact ih₁
    · exact ih₂
  | junction _ _ ih₁ ih₂ =>
    refine .mk rfl fun a inside => ?_
    rcases List.mem_cons.1 inside with rfl | inside
    · exact ih₁
    · exact ih₂ a inside
  | @compare _ left op right rest _ _ _ _ _ ih =>
    obtain ⟨first, links⟩ := ih
    refine .mk ?_ fun a inside => ?_
    · simp only [Expr.isSupported, Bool.and_eq_true, List.all_eq_true]
      exact ⟨(links _ List.mem_cons_self).1, fun link inside =>
        (links link (List.mem_cons_of_mem _ inside)).1⟩
    · simp only [Expr.operands, List.mem_cons, List.mem_map] at inside
      rcases inside with rfl | rfl | ⟨link, inside, rfl⟩
      · exact first (List.cons_ne_nil _ _)
      · exact (links _ List.mem_cons_self).2
      · exact (links link (List.mem_cons_of_mem _ inside)).2
  | operator plain _ _ _ ih | lambda plain _ _ _ _ ih | closureReference plain _ _ _ ih
  | closureDefinition plain _ _ _ _ _ _ ih | functionReference plain _ _ _ _ _ ih
  | functionDefinition plain _ _ _ _ _ _ ih => exact supported_call plain ih
  | nil | blockNil => exact List.forall_mem_nil _
  | cons _ _ ih₁ ih₂ | blockCons _ _ ih₁ ih₂ =>
    intro a inside
    rcases List.mem_cons.1 inside with rfl | inside
    · exact ih₁
    · exact ih₂ a inside
  | chainNil => exact ⟨fun filled => absurd rfl filled, List.forall_mem_nil _⟩
  | chainCons known _ _ _ ih₁ ih₂ ih₃ =>
    refine ⟨fun _ => ih₁, fun link inside => ?_⟩
    rcases List.mem_cons.1 inside with rfl | inside
    · exact ⟨by rw [known]; rfl, ih₂⟩
    · exact ih₃.2 link inside
  | @range _ e _ _ _ _ static _ =>
    refine supported_headerValues ?_ (supported_of_staticRange? static)
    cases e with
    | call => rfl
    | _ => cases static
  | display shape _ _ ih => rcases shape with rfl | rfl <;> exact ih
  | constants => exact supported_headerValues rfl (supported_name _ _)
  | branch _ _ ih₁ ih₂ =>
    refine .mk rfl (fun e inside => ?_) fun part inside => ?_
    · rw [List.mem_singleton.1 inside]
      exact ih₁
    · rw [Stmt.inner, List.append_nil] at inside
      exact ih₂ part inside
  | branchElse _ _ _ ih₁ ih₂ ih₃ =>
    refine .mk rfl (fun e inside => ?_) fun part inside => ?_
    · rw [List.mem_singleton.1 inside]
      exact ih₁
    · exact (List.mem_append.1 inside).elim (ih₂ part) (ih₃ part)
  | loop _ _ ih₁ ih₂ =>
    refine .mk rfl ih₁ fun part inside => ?_
    rw [Stmt.inner, List.append_nil] at inside
    exact ih₂ part inside
  | ret | pass | nested =>
    exact .mk rfl (List.forall_mem_nil _) (List.forall_mem_nil _)
  | declaration =>
    exact .mk (by simp [Stmt.isSupported]) (List.forall_mem_nil _) (List.forall_mem_nil _)
  | retValue _ ih =>
    refine .mk rfl (fun e inside => ?_) (List.forall_mem_nil _)
    rw [List.mem_singleton.1 inside]
    exact ih
  | augAssign known _ ih =>
    refine .mk (by simp [Stmt.isSupported, known]) (fun e inside => ?_) (List.forall_mem_nil _)
    rw [List.mem_singleton.1 inside]
    exact ih
  | @annotated _ target _ _ _ _ _ _ _ ih =>
    cases ih with
    | mk own values inner =>
      refine .mk ?_ values (List.forall_mem_nil _)
      cases target with
      | name => rfl
      | _ => cases own
  | assign _ ih | expression _ ih =>
    refine .mk rfl (fun e inside => ?_) (List.forall_mem_nil _)
    rw [List.mem_singleton.1 (List.mem_filter.1 inside).1]
    exact ih
  | assignLambda | dropped =>
    refine .mk rfl (fun e inside => ?_) (List.forall_mem_nil _)
    simp [Stmt.values, Expr.isLambda] at inside
  | function => trivial

/-- The routines that are translated with an entry point: functions of user code that are lowered,
and closures and lambda expressions whose bodies are. -/
inductive Translated (host : Host) (e : EntryPoint) : Routine → Prop where
  | function {active names id requested s located}
      (reached : Reaches host e active names (.function id requested) s)
      (found : (host.world.function id).locate? = .ok located) :
      Translated host e located.routine
  | nested {a active names ss s} (reached : Reaches host e (a :: active) names (.body ss) s) :
      Translated host e a.routine

theorem params_of_formals? {r : Routine} {name : String} {formals : List String}
    (accepted : r.formals? name = .ok formals) :
    ∀ p ∈ r.params, p.isPlaced = true ∧ p.initial = none := by
  unfold Routine.formals? at accepted
  split at accepted
  · cases accepted
  · rename_i placed
    split at accepted
    · cases accepted
    · rename_i initial
      intro p inside
      rw [Bool.not_eq_true, List.any_eq_false] at placed initial
      have isPlaced := placed p inside
      have noInitial := initial p inside
      simp only [Bool.not_eq_true, Bool.not_eq_false, Bool.not_eq_eq_eq_not, Bool.not_true,
        Option.isSome_eq_false_iff, Option.isNone_iff_eq_none] at isPlaced noInitial
      exact ⟨isPlaced, noInitial⟩

theorem statements_of_value {r : Routine} {value : Expr} (body : r.body = .expression value)
    (plain : value.isLambda = false) : r.statements = [.ret (some value)] := by
  obtain ⟨params, _, decorated⟩ := r
  cases body
  change [(Stmt.expr value).asResult] = _
  rw [Stmt.asResult, plain]
  rfl

/-- A routine whose body is lowered is supported unless its value is dropped or a head is not
supported. -/
theorem Lowered.supported_iff {r : Routine} {name : String} {formals : List String}
    (accepted : r.formals? name = .ok formals)
    (h : Lowered host names (.block r.statements) s ns t) :
    r.Supported ↔ ¬ r.YieldsLambda ∧ r.HeadsSupported := by
  have statements : ∀ st ∈ r.statements, st.Supported := h.supported
  constructor
  · intro supported
    refine ⟨?_, supported.heads⟩
    rintro ⟨params, value, body⟩
    cases supported.value body with
    | mk own => cases own
  · rintro ⟨plain, heads⟩
    refine ⟨params_of_formals? accepted, statements, heads, fun {value} body => ?_⟩
    have notLambda : value.isLambda = false := by
      cases value with
      | lambda params inner => exact absurd ⟨params, inner, body⟩ plain
      | _ => rfl
    have result := statements (.ret (some value)) (by simp [statements_of_value body notLambda])
    cases result with
    | mk _ values _ => exact values value List.mem_cons_self

end Lowered

section Translated

variable {host : Host} {e : EntryPoint} {r : Routine}

theorem Reaches.body_inv {a : Activation} {active : List Activation} {names : Namespace}
    {ss : List Stmt} {s : State} (h : Reaches host e (a :: active) names (.body ss) s) :
    ss = a.routine.statements ∧ a.routine.decorated = false ∧
      ∃ name, a.routine.formals? name = .ok a.formals := by
  cases h with
  | within _ _ own => cases own
  | lambda _ _ accepted => exact ⟨rfl, rfl, _, accepted⟩
  | closure _ _ _ _ _ undecorated accepted => exact ⟨rfl, undecorated, _, accepted⟩

theorem Translated.supported_iff {d : Definition} {final : State} (run : host.run e = .ok d final)
    (h : Translated host e r) : r.Supported ↔ ¬ r.YieldsLambda ∧ r.HeadsSupported := by
  cases h with
  | function reached found =>
    obtain ⟨_, _, _, _, lowered⟩ := reached.succeeds run
    cases lowered with
    | function _ found' accepted inner =>
      cases found.symm.trans found'
      exact inner.supported_iff accepted
  | nested reached =>
    obtain ⟨rfl, _, name, accepted⟩ := reached.body_inv
    obtain ⟨_, _, _, _, lowered⟩ := reached.succeeds run
    exact Lowered.supported_iff accepted lowered

end Translated

end Cascade.Lowering

namespace Cascade.Host

open Lowering Source

/-- The routines that a successful lowering translates are supported in all their live parts, but
for lambda expressions whose value is a lambda expression and for the heads of functions that are
made, and no decorator stands on a closure that is translated. -/
theorem translated_supported_iff {h : Host} {value : Value} {name : Option String}
    {maxDepth : Option Int} {d : Definition} (lowered : h.lower value name maxDepth = .ok d) :
    ∃ e, h.entry? value name maxDepth = .ok e ∧
      (∀ r, Translated h e r → (r.Supported ↔ ¬ r.YieldsLambda ∧ r.HeadsSupported)) ∧
      ∀ a active names ss s, Reaches h e (a :: active) names (.body ss) s →
        a.routine.decorated = false := by
  obtain ⟨e, s, entry, run⟩ := lower_eq_ok.1 lowered
  refine ⟨e, entry, fun r translated => translated.supported_iff run, ?_⟩
  intro a active names ss s reached
  exact reached.body_inv.2.1

theorem sum_supported :
    (∃ d, sumHost.lower (.function "f") none (some 100) = .ok d) ∧
      (Routine.ofFunction [⟨.positional, "x", none, none⟩] sumBody []).Supported := by
  obtain ⟨d, lowered, _⟩ := exists_of_toOption
    (show (sumHost.lower (.function "f") none (some 100)).toOption.map (·.node.definitions) =
      some ["f", "g"] by decide +kernel)
  obtain ⟨e, entry, supported, _⟩ := translated_supported_iff lowered
  have start : sumHost.entry? (.function "f") none (some 100) = .ok ⟨"f", "f", 100⟩ := by
    decide +kernel
  cases start.symm.trans entry
  refine ⟨⟨d, lowered⟩, (supported _ (.function .entry rfl)).2 ⟨?_, ?_⟩⟩
  · rintro ⟨params, value, body⟩
    cases body
  · exact .of_flat (List.forall_mem_cons.2 ⟨⟨rfl, List.forall_mem_nil _⟩,
      List.forall_mem_singleton.2 ⟨rfl, List.forall_mem_nil _⟩⟩)

/-- The function `f = lambda x: lambda y: y`. -/
def twofold : Host where
  world :=
    { modules := [("m", ⟨.user, [("f", .function "f")]⟩)]
      functions := [("f", ⟨"m", some "m", lambdaName, lambdaName, ["x"], [], .body
        [.assign [.name "f" .store] (.lambda [⟨.positional, "x", none, none⟩]
          (.lambda [⟨.positional, "y", none, none⟩] (.name "y" .load)))]⟩)] }
  settings := ⟨[]⟩

/-- The function `def k(a=(n := 1)): return a` in another one, which never calls it. -/
def uncalled : Stmt :=
  .function "k" [⟨.positional, "a", none, some (.named (.name "n" .store) (.constant (.int 1)))⟩]
    [.ret (some (.name "a" .load))] [] none

def idle : Host :=
  ofFunctions [] [("f", ["x"], [uncalled, .ret (some (.name "x" .load))])]

/-- The first function is lowered to a program without statements, and its value is lost.  The
second one is lowered although an assignment expression is evaluated in it. -/
theorem twofold_not_supported :
    (twofold.lower (.function "f") (some "f") (some 100) = .ok ⟨"f", .names ["x"], []⟩ ∧
      ∃ r, Translated twofold ⟨"f", "f", 100⟩ r ∧ r.HeadsSupported ∧ ¬ r.Supported) ∧
    idle.lower (.function "f") (some "f") (some 100) =
        .ok ⟨"f", .names ["x"], [.ret (some (.symbol "x"))]⟩ ∧
      ∃ r, Translated idle ⟨"f", "f", 100⟩ r ∧ ¬ r.YieldsLambda ∧ ¬ r.Supported := by
  refine ⟨⟨by rfl, _, .function .entry (by rfl), ?_, fun supported => ?_⟩,
    by rfl, _, .function .entry (by rfl), ?_, fun supported => ?_⟩
  · exact .of_flat (List.forall_mem_singleton.2 ⟨rfl, List.forall_mem_nil _⟩)
  · cases supported.value rfl with
    | mk own => cases own
  · rintro ⟨params, value, body⟩
    cases body
  · cases supported.heads uncalled (.top List.mem_cons_self) _ List.mem_cons_self with
    | mk own => cases own

end Cascade.Host
