import Cascade.Proofs.Lowering.Inversion

set_option autoImplicit false

/-!
# A job has one outcome

Two derivations for the same job, begun in states that differ in the log at most, have the same
nodes and leave states that differ in the log at most.  The log is left out because a derivation
does not fix the text under which a lambda expression is dropped.
-/
namespace Cascade.Lowering

open Source

namespace State

def silent (s : State) : State := { s with trace := [] }

variable {s s' : State}

theorem frames_of_silent (same : s'.silent = s.silent) : s'.frames = s.frames := by
  have equal := congrArg State.frames same
  exact equal

theorem aliases_of_silent (same : s'.silent = s.silent) : s'.aliases = s.aliases := by
  have equal := congrArg State.aliases same
  exact equal

theorem lambdas_of_silent (same : s'.silent = s.silent) : s'.lambdas = s.lambdas := by
  have equal := congrArg State.lambdas same
  exact equal

theorem entries_of_silent (same : s'.silent = s.silent) : s'.entries = s.entries := by
  have equal := congrArg State.entries same
  exact equal

theorem aliasFor_of_silent (same : s'.silent = s.silent) (id : FunctionId) (requested : String) :
    s'.aliasFor id requested = s.aliasFor id requested := by
  unfold aliasFor
  rw [aliases_of_silent same]

/-- What does not read the log leaves equal states equal. -/
theorem silent_congr (F : State → State) (quiet : ∀ s, (F s).silent = (F s.silent).silent)
    (same : s'.silent = s.silent) : (F s').silent = (F s).silent := by
  rw [quiet s', same, ← quiet s]

end State

open State

def Determined (host : Host) (names : Namespace) (job : Job) (s : State) (ns : List Node)
    (t : State) : Prop :=
  ∀ ⦃s' ns' t'⦄, s'.silent = s.silent → Lowered host names job s' ns' t' →
    ns' = ns ∧ t'.silent = t.silent

section Determined

variable {host : Host} {names : Namespace} {s t u : State}

theorem determined_plus {e : Expr} {n : Node} (operand : Determined host names (.expr e) s [n] t) :
    Determined host names (.expr (.unary .plus e)) s [n] t := by
  intro s' ns' t' same h'
  cases h' with
  | plus operand' => exact operand same operand'
  | negation logical => rcases logical with logical | logical <;> cases logical

theorem determined_negative {value negated : Scalar} {n : Node}
    (sign : value.negate? = some negated) (found : Node.literal? negated = .ok n) :
    Determined host names (.expr (.unary .minus (.constant value))) s [n] s := by
  intro s' ns' t' same h'
  cases h' with
  | negative sign' found' =>
    cases sign.symm.trans sign'
    cases found.symm.trans found'
    exact ⟨rfl, same⟩
  | minus absent =>
    rw [show negated? (.constant value) = value.negate? from rfl, sign] at absent
    cases absent
  | negation logical => rcases logical with logical | logical <;> cases logical

theorem determined_minus {e : Expr} {n : Node} (absent : negated? e = none)
    (operand : Determined host names (.expr e) s [n] t) :
    Determined host names (.expr (.unary .minus e)) s
      [.operation "-" .binary [.literal (.int 0), n]] t := by
  intro s' ns' t' same h'
  cases h' with
  | @negative _ value _ _ _ sign' =>
    rw [show negated? (.constant value) = value.negate? from rfl, sign'] at absent
    cases absent
  | minus _ operand' =>
    obtain ⟨nodes, state⟩ := operand same operand'
    cases nodes
    exact ⟨rfl, state⟩
  | negation logical => rcases logical with logical | logical <;> cases logical

theorem determined_negation {op : UnaryOp} {e : Expr} {n : Node}
    (logical : op = .negation ∨ op = .invert)
    (operand : Determined host names (.expr e) s [n] t) :
    Determined host names (.expr (.unary op e)) s [.operation "!" .unary [n]] t := by
  intro s' ns' t' same h'
  cases h' with
  | plus | negative | minus => rcases logical with logical | logical <;> cases logical
  | negation _ operand' =>
    obtain ⟨nodes, state⟩ := operand same operand'
    cases nodes
    exact ⟨rfl, state⟩

theorem determined_operator {callee : Expr} {args : List Expr} {token : String} {ns : List Node}
    (known : (calleeToken? s.frames names callee).filter Operator.isKnown = some token)
    (outer : Determined host names (.exprs args) s ns t) :
    Determined host names (.expr (.call callee args [])) s
      [.operation token (fixityFor token ns) ns] t := by
  intro s' ns' t' same h'
  rw [← frames_of_silent same] at known
  obtain ⟨operands, outer', rfl⟩ := h'.operator_inv known
  obtain ⟨rfl, state⟩ := outer same outer'
  exact ⟨rfl, state⟩

theorem determined_lambda {params : List (Parameter Expr)} {body : Expr} {args : List Expr}
    {formals : List String} {steps operands : List Node}
    (accepted : (Routine.ofLambda params body).formals? (lambdaAlias (s.lambdas + 1)) =
      .ok formals)
    (inner : Determined host names (.block (Routine.ofLambda params body).statements)
      (s.lambdaNamed.opened (.lambda (lambdaAlias (s.lambdas + 1))) 0
        (frameOf (Routine.ofLambda params body) formals)) steps t)
    (outer : Determined host names (.exprs args) (t.closed s.frames 0) operands u) :
    Determined host names (.expr (.call (.lambda params body) args [])) s
      [.call (lambdaAlias (s.lambdas + 1)) operands
        (some (.function (lambdaAlias (s.lambdas + 1)) (Formals.ofNames formals) steps))] u := by
  intro s' ns' t' same h'
  obtain ⟨formals', steps', u', operands', accepted', inner', outer', rfl⟩ := h'.lambda_inv
  rw [lambdas_of_silent same] at accepted' ⊢
  cases accepted.symm.trans accepted'
  have opened := silent_congr (fun s => s.lambdaNamed.opened (.lambda (lambdaAlias
    (s.lambdas + 1))) 0 (frameOf (Routine.ofLambda params body) formals)) (fun _ => rfl) same
  obtain ⟨rfl, state₁⟩ := inner opened inner'
  rw [frames_of_silent same] at outer'
  have closed := silent_congr (fun t => t.closed s.frames 0) (fun _ => rfl) state₁
  obtain ⟨rfl, state₂⟩ := outer closed outer'
  exact ⟨rfl, state₂⟩

theorem determined_closureReference {id : String} {use : Use} {args : List Expr} {place : Nat}
    {operands : List Node} (owned : s.frames.owner? id = some place)
    (outer : Determined host names (.exprs args) s operands t)
    (started : ∀ routine, t.frames.closure? place id ≠ some ⟨routine, .pending⟩) :
    Determined host names (.expr (.call (.name id use) args [])) s [.call id operands none] t := by
  intro s' ns' t' same h'
  rw [← frames_of_silent same] at owned
  obtain ⟨operands', u', outer', ending'⟩ := h'.closure_inv owned
  obtain ⟨rfl, state⟩ := outer same outer'
  rcases ending' with ⟨_, rfl, rfl⟩ | ⟨_, _, _, _, pending', _⟩
  · exact ⟨rfl, state⟩
  · rw [frames_of_silent state] at pending'
    exact absurd pending' (started _)

theorem determined_closureDefinition {id : String} {use : Use} {args : List Expr} {place : Nat}
    {routine : Routine} {formals : List String} {operands steps : List Node}
    (owned : s.frames.owner? id = some place)
    (outer : Determined host names (.exprs args) s operands t)
    (pending : t.frames.closure? place id = some ⟨routine, .pending⟩)
    (accepted : routine.formals? id = .ok formals)
    (inner : Determined host names (.block routine.statements)
      ((t.withStatus place id .active).opened (.closure id) place (frameOf routine formals))
      steps u) :
    Determined host names (.expr (.call (.name id use) args [])) s
      [.call id operands (some (.function id (Formals.ofNames formals) steps))]
      ((u.closed (t.withStatus place id .active).frames place).withStatus place id .lowered) := by
  intro s' ns' t' same h'
  rw [← frames_of_silent same] at owned
  obtain ⟨operands', u', outer', ending'⟩ := h'.closure_inv owned
  obtain ⟨rfl, state₁⟩ := outer same outer'
  rcases ending' with ⟨started', _⟩ | ⟨_, _, _, v', pending', accepted', inner', rfl, rfl⟩
  · rw [← frames_of_silent state₁] at pending
    exact absurd pending (started' _)
  · rw [frames_of_silent state₁, pending] at pending'
    cases pending'
    cases accepted.symm.trans accepted'
    have active := silent_congr (fun t => t.withStatus place id .active) (fun _ => rfl) state₁
    have opened := silent_congr (fun t => t.opened (.closure id) place (frameOf routine formals))
      (fun _ => rfl) active
    obtain ⟨rfl, state₂⟩ := inner opened inner'
    rw [frames_of_silent active]
    exact ⟨rfl, silent_congr (fun u => (u.closed (t.withStatus place id .active).frames
      place).withStatus place id .lowered) (fun _ => rfl) state₂⟩

section FunctionCalls

variable {callee : Expr} {args : List Expr} {id : FunctionId} {requested : String}
  {operands : List Node}

theorem determined_functionReference {name : String}
    (unnamed : (calleeToken? s.frames names callee).filter Operator.isKnown = none)
    (unowned : ∀ word use, callee = .name word use → s.frames.owner? word = none)
    (called : calledBy? host s.frames names callee = some (id, requested))
    (outer : Determined host names (.exprs args) s operands t)
    (recorded : t.aliases.get? id = some name) :
    Determined host names (.expr (.call callee args [])) s [.call name operands none]
      (t.recorded (.reference name)) := by
  intro s' ns' t' same h'
  rw [← frames_of_silent same] at unnamed unowned called
  obtain ⟨operands', u', outer', ending'⟩ := h'.function_call_inv unnamed unowned called
  obtain ⟨rfl, state⟩ := outer same outer'
  rcases ending' with ⟨_, recorded', rfl, rfl⟩ | ⟨_, _, _, unrecorded', _⟩
  · rw [aliases_of_silent state, recorded] at recorded'
    cases recorded'
    exact ⟨rfl, state⟩
  · rw [aliases_of_silent state, recorded] at unrecorded'
    cases unrecorded'

theorem determined_functionDefinition {name : String} {formals : Formals} {body : List Node}
    (unnamed : (calleeToken? s.frames names callee).filter Operator.isKnown = none)
    (unowned : ∀ word use, callee = .name word use → s.frames.owner? word = none)
    (called : calledBy? host s.frames names callee = some (id, requested))
    (outer : Determined host names (.exprs args) s operands t)
    (unrecorded : t.aliases.get? id = none)
    (definition : Determined host names (.function id requested) t
      [.function name formals body] u) :
    Determined host names (.expr (.call callee args [])) s
      [.call name operands (some (.function name formals body))] u := by
  intro s' ns' t' same h'
  rw [← frames_of_silent same] at unnamed unowned called
  obtain ⟨operands', u', outer', ending'⟩ := h'.function_call_inv unnamed unowned called
  obtain ⟨rfl, state₁⟩ := outer same outer'
  rcases ending' with ⟨_, recorded', _⟩ | ⟨_, _, _, _, definition', rfl⟩
  · rw [aliases_of_silent state₁, unrecorded] at recorded'
    cases recorded'
  · obtain ⟨nodes, state₂⟩ := definition state₁ definition'
    cases nodes
    exact ⟨rfl, state₂⟩

theorem determined_function {located : Located} {formals : List String} {body : List Node}
    (found : (host.world.function id).locate? = .ok located)
    (accepted : located.routine.formals? (s.aliasFor id requested) = .ok formals)
    (inner : Determined host (host.world.namespaceOf (host.world.function id))
      (.block located.routine.statements)
      (s.begun id requested (host.world.function id).qualname (frameOf located.routine formals))
      body t) :
    Determined host names (.function id requested) s
      [.function (s.aliasFor id requested) (Formals.ofNames formals) body]
      (t.withFrames s.frames) := by
  intro s' ns' t' same h'
  cases h' with
  | function _ found' accepted' inner' =>
    cases found.symm.trans found'
    rw [aliasFor_of_silent same] at accepted' ⊢
    cases accepted.symm.trans accepted'
    have begun := silent_congr (fun s => s.begun id requested (host.world.function id).qualname
      (frameOf located.routine formals)) (fun _ => rfl) same
    obtain ⟨rfl, state⟩ := inner begun inner'
    rw [frames_of_silent same]
    exact ⟨rfl, silent_congr (fun t => t.withFrames s.frames) (fun _ => rfl) state⟩

end FunctionCalls

theorem determined_range {e : Expr} {start stop step : Int}
    (static : staticRange? s.frames names e = some (start, stop, step)) :
    Determined host names (.iterator e) s [.range start stop step] s := by
  intro s' ns' t' same h'
  cases h' with
  | range static' =>
    rw [frames_of_silent same, static] at static'
    cases static'
    exact ⟨rfl, same⟩
  | display shape' => rcases shape' with rfl | rfl <;> cases static
  | constants => cases static

theorem determined_display {e : Expr} {elements : List Expr} {ns : List Node}
    (shape : e = .list elements ∨ e = .tuple elements)
    (values : Determined host names (.exprs elements) s ns t) :
    Determined host names (.iterator e) s [.sequence ns] t := by
  intro s' ns' t' same h'
  cases h' with
  | range static' => rcases shape with rfl | rfl <;> cases static'
  | display shape' values' =>
    cases elements_unique shape shape'
    obtain ⟨rfl, state⟩ := values same values'
    exact ⟨rfl, state⟩
  | constants => rcases shape with shape | shape <;> cases shape

theorem determined_constants {id : String} {use : Use} {values : List Scalar} {ns : List Node}
    (static : staticValues? s.frames names id = some values) (found : literals? values = .ok ns) :
    Determined host names (.iterator (.name id use)) s [.sequence ns] s := by
  intro s' ns' t' same h'
  cases h' with
  | range static' => cases static'
  | display shape' => rcases shape' with shape | shape <;> cases shape
  | constants static' found' =>
    rw [frames_of_silent same, static] at static'
    cases static'
    cases found.symm.trans found'
    exact ⟨rfl, same⟩

end Determined

theorem Lowered.unique {host : Host} {names : Namespace} {job : Job} {s t : State}
    {ns : List Node} (h : Lowered host names job s ns t) {s' t' : State} {ns' : List Node}
    (same : s'.silent = s.silent) (h' : Lowered host names job s' ns' t') :
    ns' = ns ∧ t'.silent = t.silent := by
  induction h generalizing s' t' ns' with
  | name found =>
    cases h' with
    | name found' =>
      rw [frames_of_silent same, found] at found'
      cases found'
      exact ⟨rfl, same⟩
  | constant found =>
    cases h' with
    | constant found' =>
      cases found.symm.trans found'
      exact ⟨rfl, same⟩
  | plus _ ih => exact determined_plus (fun _ _ _ => ih) same h'
  | negative sign found => exact determined_negative sign found same h'
  | minus absent _ ih => exact determined_minus absent (fun _ _ _ => ih) same h'
  | negation logical _ ih => exact determined_negation logical (fun _ _ _ => ih) same h'
  | binary known _ _ ih₁ ih₂ =>
    cases h' with
    | binary known' first' second' =>
      cases known.symm.trans known'
      obtain ⟨nodes₁, state₁⟩ := ih₁ same first'
      obtain ⟨nodes₂, state₂⟩ := ih₂ state₁ second'
      cases nodes₁
      cases nodes₂
      exact ⟨rfl, state₂⟩
  | junction _ _ ih₁ ih₂ =>
    cases h' with
    | junction head' tail' =>
      obtain ⟨nodes₁, state₁⟩ := ih₁ same head'
      obtain ⟨nodes₂, state₂⟩ := ih₂ state₁ tail'
      cases nodes₁
      cases nodes₂
      exact ⟨rfl, state₂⟩
  | compare _ ih =>
    cases h' with
    | compare links' =>
      obtain ⟨nodes, state⟩ := ih same links'
      cases nodes
      exact ⟨rfl, state⟩
  | operator _ known _ _ ih => exact determined_operator known (fun _ _ _ => ih) same h'
  | lambda _ accepted _ _ ih₁ ih₂ =>
    exact determined_lambda accepted (fun _ _ _ => ih₁) (fun _ _ _ => ih₂) same h'
  | closureReference _ owned _ started ih =>
    exact determined_closureReference owned (fun _ _ _ => ih) started same h'
  | closureDefinition _ owned _ pending _ accepted _ ih₁ ih₂ =>
    exact determined_closureDefinition owned (fun _ _ _ => ih₁) pending accepted
      (fun _ _ _ => ih₂) same h'
  | functionReference _ unnamed unowned called _ recorded ih =>
    exact determined_functionReference unnamed unowned called (fun _ _ _ => ih) recorded same h'
  | functionDefinition _ unnamed unowned called _ unrecorded _ ih₁ ih₂ =>
    exact determined_functionDefinition unnamed unowned called (fun _ _ _ => ih₁) unrecorded
      (fun _ _ _ => ih₂) same h'
  | nil | chainNil | ret | declaration | pass | blockNil =>
    cases h'
    exact ⟨rfl, same⟩
  | cons _ _ ih₁ ih₂ =>
    cases h' with
    | cons head' tail' =>
      obtain ⟨nodes, state₁⟩ := ih₁ same head'
      obtain ⟨rfl, state₂⟩ := ih₂ state₁ tail'
      cases nodes
      exact ⟨rfl, state₂⟩
  | chainCons known _ _ _ ih₁ ih₂ ih₃ =>
    cases h' with
    | chainCons known' first' second' more' =>
      cases known.symm.trans known'
      obtain ⟨nodes₁, state₁⟩ := ih₁ same first'
      obtain ⟨nodes₂, state₂⟩ := ih₂ state₁ second'
      obtain ⟨rfl, state₃⟩ := ih₃ state₂ more'
      cases nodes₁
      cases nodes₂
      exact ⟨rfl, state₃⟩
  | range static => exact determined_range static same h'
  | display shape _ _ ih => exact determined_display shape (fun _ _ _ => ih) same h'
  | constants static found => exact determined_constants static found same h'
  | branch _ _ ih₁ ih₂ =>
    cases h' with
    | branch condition' positive' =>
      obtain ⟨nodes, state₁⟩ := ih₁ same condition'
      obtain ⟨rfl, state₂⟩ := ih₂ state₁ positive'
      cases nodes
      exact ⟨rfl, state₂⟩
  | branchElse _ _ _ ih₁ ih₂ ih₃ =>
    cases h' with
    | branchElse condition' positive' negative' =>
      obtain ⟨nodes, state₁⟩ := ih₁ same condition'
      obtain ⟨rfl, state₂⟩ := ih₂ state₁ positive'
      obtain ⟨rfl, state₃⟩ := ih₃ state₂ negative'
      cases nodes
      exact ⟨rfl, state₃⟩
  | @loop _ id _ _ _ _ _ _ _ _ _ _ ih₁ ih₂ =>
    cases h' with
    | loop header' inner' =>
      obtain ⟨nodes, state₁⟩ := ih₁ same header'
      have bound := silent_congr (fun t => t.withFrames (t.frames.bind id)) (fun _ => rfl) state₁
      obtain ⟨rfl, state₂⟩ := ih₂ bound inner'
      cases nodes
      exact ⟨rfl, state₂⟩
  | retValue _ ih =>
    cases h' with
    | retValue value' =>
      obtain ⟨nodes, state⟩ := ih same value'
      cases nodes
      exact ⟨rfl, state⟩
  | @augAssign _ id _ _ _ _ _ _ _ known _ ih =>
    cases h' with
    | augAssign known' value' =>
      cases known.symm.trans known'
      obtain ⟨nodes, state⟩ := ih same value'
      cases nodes
      exact ⟨rfl, silent_congr (fun t => t.withFrames (t.frames.bind id)) (fun _ => rfl) state⟩
  | annotated _ ih =>
    cases h' with
    | annotated plain' => exact ih same plain'
  | @assign _ id _ _ _ _ _ value ih =>
    cases h' with
    | assign value' =>
      obtain ⟨nodes, state⟩ := ih same value'
      cases nodes
      exact ⟨rfl, silent_congr (fun t => t.withFrames (t.frames.bind id)) (fun _ => rfl) state⟩
    | assignLambda => cases value
  | @assignLambda _ id _ params body =>
    cases h' with
    | assign value' => cases value'
    | assignLambda =>
      exact ⟨rfl, silent_congr (fun s => (s.withFrames (s.frames.bindClosure id
        (Routine.ofLambda params body))).recorded (.closureBound id)) (fun _ => rfl) same⟩
  | @nested _ id params body decorators =>
    cases h' with
    | nested =>
      exact ⟨rfl, silent_congr (fun s => (s.withFrames (s.frames.bindClosure id
        (Routine.ofFunction params body decorators))).recorded (.closureBound id))
        (fun _ => rfl) same⟩
  | dropped =>
    cases h' with
    | dropped => exact ⟨rfl, same⟩
    | expression value' => cases value'
  | expression value ih =>
    cases h' with
    | dropped => cases value
    | expression value' => exact ih same value'
  | blockCons _ _ ih₁ ih₂ =>
    cases h' with
    | blockCons head' tail' =>
      obtain ⟨rfl, state₁⟩ := ih₁ same head'
      obtain ⟨rfl, state₂⟩ := ih₂ state₁ tail'
      exact ⟨rfl, state₂⟩
  | function _ found accepted _ ih =>
    exact determined_function found accepted (fun _ _ _ => ih) same h'

end Cascade.Lowering
