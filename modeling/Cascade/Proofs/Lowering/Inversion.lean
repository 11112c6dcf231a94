import Cascade.Proofs.Lowering.Derivation

set_option autoImplicit false

namespace Cascade.Lowering

open Source State

theorem calleeToken?_of_owner? {fs : Frames} {names : Namespace} {id : String} {use : Use}
    {place : Nat} (owned : fs.owner? id = some place) :
    calleeToken? fs names (.name id use) = none := by
  simp [calleeToken?, owned]

section Inversion

variable {host : Host} {names : Namespace} {callee : Expr} {args : List Expr} {s t : State}
  {ns : List Node}

/-- A call of an operator lowers its arguments and nothing else. -/
theorem Lowered.operator_inv {token : String} (h : Lowered host names (.expr (.call callee args []))
      s ns t)
    (known : (calleeToken? s.frames names callee).filter Operator.isKnown = some token) :
    ∃ operands, Lowered host names (.exprs args) s operands t ∧
      ns = [.operation token (fixityFor token operands) operands] := by
  cases h with
  | operator _ known' outer =>
    cases known.symm.trans known'
    exact ⟨_, outer, rfl⟩
  | lambda => cases known
  | closureReference _ owned | closureDefinition _ owned =>
    rw [calleeToken?_of_owner? owned] at known
    cases known
  | functionReference _ unnamed | functionDefinition _ unnamed =>
    rw [known] at unnamed
    cases unnamed

theorem Lowered.lambda_inv {params : List (Parameter Expr)} {body : Expr}
    (h : Lowered host names (.expr (.call (.lambda params body) args [])) s ns t) :
    ∃ formals steps u operands,
      (Routine.ofLambda params body).formals? (lambdaAlias (s.lambdas + 1)) = .ok formals ∧
      Lowered host names (.block (Routine.ofLambda params body).statements)
        (s.lambdaNamed.opened (.lambda (lambdaAlias (s.lambdas + 1))) 0
          (frameOf (Routine.ofLambda params body) formals)) steps u ∧
      Lowered host names (.exprs args) (u.closed s.frames 0) operands t ∧
      ns = [.call (lambdaAlias (s.lambdas + 1)) operands
        (some (.function (lambdaAlias (s.lambdas + 1)) (Formals.ofNames formals) steps))] := by
  cases h with
  | operator _ known => cases known
  | lambda _ accepted inner outer => exact ⟨_, _, _, _, accepted, inner, outer, rfl⟩
  | functionReference _ _ _ called | functionDefinition _ _ _ called => cases called

/-- A call of a closure defines it if it is still to be lowered, and refers to it otherwise. -/
theorem Lowered.closure_inv {id : String} {use : Use} {place : Nat}
    (h : Lowered host names (.expr (.call (.name id use) args [])) s ns t)
    (owned : s.frames.owner? id = some place) :
    ∃ operands u, Lowered host names (.exprs args) s operands u ∧
      ((∀ routine, u.frames.closure? place id ≠ some ⟨routine, .pending⟩) ∧
          ns = [.call id operands none] ∧ t = u ∨
        ∃ routine formals steps v, u.frames.closure? place id = some ⟨routine, .pending⟩ ∧
          routine.formals? id = .ok formals ∧
          Lowered host names (.block routine.statements)
            ((u.withStatus place id .active).opened (.closure id) place (frameOf routine formals))
            steps v ∧
          ns = [.call id operands (some (.function id (Formals.ofNames formals) steps))] ∧
          t = (v.closed (u.withStatus place id .active).frames place).withStatus place id
            .lowered) := by
  cases h with
  | operator _ known =>
    rw [calleeToken?_of_owner? owned] at known
    cases known
  | closureReference _ owned' outer started =>
    cases owned.symm.trans owned'
    exact ⟨_, _, outer, .inl ⟨started, rfl, rfl⟩⟩
  | closureDefinition _ owned' outer pending _ accepted inner =>
    cases owned.symm.trans owned'
    exact ⟨_, _, outer, .inr ⟨_, _, _, _, pending, accepted, inner, rfl, rfl⟩⟩
  | functionReference _ _ unowned | functionDefinition _ _ unowned =>
    rw [unowned _ _ rfl] at owned
    cases owned

/-- A call of a function of user code refers to it if it is recorded, and defines it otherwise. -/
theorem Lowered.function_call_inv {id : FunctionId} {requested : String}
    (h : Lowered host names (.expr (.call callee args [])) s ns t)
    (unnamed : (calleeToken? s.frames names callee).filter Operator.isKnown = none)
    (unowned : ∀ word use, callee = .name word use → s.frames.owner? word = none)
    (called : calledBy? host s.frames names callee = some (id, requested)) :
    ∃ operands u, Lowered host names (.exprs args) s operands u ∧
      ((∃ name, u.aliases.get? id = some name ∧ ns = [.call name operands none] ∧
          t = u.recorded (.reference name)) ∨
        ∃ name formals body, u.aliases.get? id = none ∧
          Lowered host names (.function id requested) u [.function name formals body] t ∧
          ns = [.call name operands (some (.function name formals body))]) := by
  cases h with
  | operator _ known =>
    rw [unnamed] at known
    cases known
  | lambda => cases called
  | closureReference _ owned | closureDefinition _ owned =>
    rw [unowned _ _ rfl] at owned
    cases owned
  | functionReference _ _ _ called' outer recorded =>
    cases called.symm.trans called'
    exact ⟨_, _, outer, .inl ⟨_, recorded, rfl, rfl⟩⟩
  | functionDefinition _ _ _ called' outer unrecorded definition =>
    cases called.symm.trans called'
    exact ⟨_, _, outer, .inr ⟨_, _, _, unrecorded, definition, rfl⟩⟩

theorem elements_unique {e : Expr} {xs ys : List Expr} (h : e = .list xs ∨ e = .tuple xs)
    (h' : e = .list ys ∨ e = .tuple ys) : ys = xs := by
  rcases h with rfl | rfl
  · rcases h' with h' | h'
    · exact (Expr.list.inj h').symm
    · cases h'
  · rcases h' with h' | h'
    · cases h'
    · exact (Expr.tuple.inj h').symm

end Inversion

end Cascade.Lowering
