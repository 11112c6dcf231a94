import Cascade.Proofs.Lowering.Derivation
import Cascade.Proofs.Source.Live

set_option autoImplicit false

/-!
# What a lowering comes to, level by level

A task is what takes a level of its own.  `Enters host names task s part t` says that the lowering
of a task, begun in the state `s`, comes to a part of it in the state `t`, one level further down.
All that precedes the part has then succeeded; the part itself may fail.
-/
namespace Cascade.Lowering

open Source

inductive Task where
  | expr (e : Expr)
  | statement (st : Stmt)
  | body (ss : List Stmt)
  | function (id : FunctionId) (requested : String)

namespace Task

def inner (host : Host) (names : Namespace) : Task → Namespace
  | function id _ => host.world.namespaceOf (host.world.function id)
  | _ => names

end Task

def lastOperand : Expr → List (Comparison Expr) → Expr
  | left, [] => left
  | _, link :: links => lastOperand link.right links

/-- Whether the arguments of a call are lowered in the state the call is met in.  A lambda
expression is lowered before them. -/
def Callable (host : Host) (names : Namespace) (s : State) (callee : Expr) : Prop :=
  (∃ token, (calleeToken? s.frames names callee).filter Operator.isKnown = some token) ∨
    (∃ id use place, callee = .name id use ∧ s.frames.owner? id = some place) ∨
    ∃ target, calledBy? host s.frames names callee = some target

inductive Operand (host : Host) (names : Namespace) : Expr → State → Expr → State → Prop where
  | unary {op e s} (kept : op = .minus → negated? e = none) :
      Operand host names (.unary op e) s e s
  | left {op token left right s} (known : Operator.binaryToken? op = some token) :
      Operand host names (.binary op left right) s left s
  | right {op token left right s a t} (known : Operator.binaryToken? op = some token)
      (first : Lowered host names (.expr left) s [a] t) :
      Operand host names (.binary op left right) s right t
  | junction {op first rest before e after s ns t} (split : first :: rest = before ++ e :: after)
      (earlier : Lowered host names (.exprs before) s ns t) :
      Operand host names (.junction op first rest) s e t
  | compareLeft {left op right rest before link token after s ns t}
      (split : ⟨op, right⟩ :: rest = before ++ link :: after)
      (known : Operator.compareToken? link.op = some token)
      (earlier : Lowered host names (.chain left before) s ns t) :
      Operand host names (.compare left op right rest) s (lastOperand left before) t
  | compareRight {left op right rest before link token after s ns t a u}
      (split : ⟨op, right⟩ :: rest = before ++ link :: after)
      (known : Operator.compareToken? link.op = some token)
      (earlier : Lowered host names (.chain left before) s ns t)
      (first : Lowered host names (.expr (lastOperand left before)) t [a] u) :
      Operand host names (.compare left op right rest) s link.right u
  | argument {callee before e after s ns t}
      (plain : (before ++ e :: after).any Expr.isStarred = false)
      (callable : Callable host names s callee)
      (earlier : Lowered host names (.exprs before) s ns t) :
      Operand host names (.call callee (before ++ e :: after) []) s e t
  | lambdaArgument {params body formals before e after s steps t ns u}
      (plain : (before ++ e :: after).any Expr.isStarred = false)
      (accepted : (Routine.ofLambda params body).formals? (lambdaAlias (s.lambdas + 1)) =
        .ok formals)
      (inner : Lowered host names (.block (Routine.ofLambda params body).statements)
        (s.lambdaNamed.opened (.lambda (lambdaAlias (s.lambdas + 1))) 0
          (frameOf (Routine.ofLambda params body) formals)) steps t)
      (earlier : Lowered host names (.exprs before) (t.closed s.frames 0) ns u) :
      Operand host names (.call (.lambda params body) (before ++ e :: after) []) s e u

theorem mem_operands_lastOperand {left : Expr} {before after : List (Comparison Expr)}
    {link : Comparison Expr} :
    lastOperand left before ∈ left :: (before ++ link :: after).map (·.right) := by
  induction before generalizing left with
  | nil => exact List.mem_cons_self
  | cons first before ih => exact List.mem_cons_of_mem left ih

theorem Operand.mem_operands {host : Host} {names : Namespace} {x a : Expr} {s t : State}
    (h : Operand host names x s a t) : a ∈ x.operands := by
  cases h with
  | unary | left => exact List.mem_cons_self
  | right => exact List.mem_cons_of_mem _ List.mem_cons_self
  | junction split =>
    change a ∈ _ :: _
    rw [split]
    exact List.mem_append_right _ List.mem_cons_self
  | @compareLeft left op right rest before link _ after _ _ _ split =>
    have member := @mem_operands_lastOperand left before after link
    rw [← split] at member
    exact member
  | @compareRight left op right rest before link _ after _ _ _ _ _ split =>
    have member : link ∈ (⟨op, right⟩ :: rest : List (Comparison Expr)) := by simp [split]
    exact List.mem_cons_of_mem left (List.mem_map_of_mem member)
  | argument | lambdaArgument => exact List.mem_append_right _ List.mem_cons_self

/-- Whether an assignment lowers its value: a lambda expression is bound as it stands, and an
assignment expression is refused. -/
def isAssignable : Expr → Bool
  | .lambda .. | .named .. => false
  | _ => true

inductive Evaluates : Stmt → Expr → Prop where
  | ret {e} : Evaluates (.ret (some e)) e
  | assign {id use e} (plain : isAssignable e = true) : Evaluates (.assign [.name id use] e) e
  | annotated {id use annotation e bare} (plain : isAssignable e = true) :
      Evaluates (.annAssign (.name id use) annotation (some e) bare) e
  | augAssign {id use op token e} (known : Operator.binaryToken? op = some token) :
      Evaluates (.augAssign (.name id use) op e) e
  | expression {e} (plain : e.isLambda = false) : Evaluates (.expr e) e
  | test {e body orelse} : Evaluates (.branch e body orelse) e

inductive Nested (host : Host) (names : Namespace) : Stmt → State → Stmt → State → Prop where
  | body {test before st after orelse s c t ns u}
      (condition : Lowered host names (.expr test) s [c] t)
      (earlier : Lowered host names (.block before) t ns u) :
      Nested host names (.branch test (before ++ st :: after) orelse) s st u
  | orelse {test body before st after s c t ns u ms v}
      (condition : Lowered host names (.expr test) s [c] t)
      (positive : Lowered host names (.block body) t ns u)
      (earlier : Lowered host names (.block before) u ms v) :
      Nested host names (.branch test body (before ++ st :: after)) s st v
  | loop {id use source before st after s n t ns u}
      (header : Lowered host names (.iterator source) s [n] t)
      (earlier : Lowered host names (.block before) (t.withFrames (t.frames.bind id)) ns u) :
      Nested host names (.forLoop (.name id use) source (before ++ st :: after) []) s st u

inductive Enters (host : Host) (names : Namespace) : Task → State → Task → State → Prop where
  | operand {e s a t} (h : Operand host names e s a t) :
      Enters host names (.expr e) s (.expr a) t
  | lambda {params body args formals s} (plain : args.any Expr.isStarred = false)
      (accepted : (Routine.ofLambda params body).formals? (lambdaAlias (s.lambdas + 1)) =
        .ok formals) :
      Enters host names (.expr (.call (.lambda params body) args [])) s
        (.body (Routine.ofLambda params body).statements)
        (s.lambdaNamed.opened (.lambda (lambdaAlias (s.lambdas + 1))) 0
          (frameOf (Routine.ofLambda params body) formals))
  | closure {id use args place routine formals s operands t}
      (plain : args.any Expr.isStarred = false)
      (owned : s.frames.owner? id = some place)
      (outer : Lowered host names (.exprs args) s operands t)
      (pending : t.frames.closure? place id = some ⟨routine, .pending⟩)
      (undecorated : routine.decorated = false)
      (accepted : routine.formals? id = .ok formals) :
      Enters host names (.expr (.call (.name id use) args [])) s (.body routine.statements)
        ((t.withStatus place id .active).opened (.closure id) place (frameOf routine formals))
  | function {callee args id requested s operands t}
      (plain : args.any Expr.isStarred = false)
      (unnamed : (calleeToken? s.frames names callee).filter Operator.isKnown = none)
      (unowned : ∀ word use, callee = .name word use → s.frames.owner? word = none)
      (called : calledBy? host s.frames names callee = some (id, requested))
      (outer : Lowered host names (.exprs args) s operands t)
      (unrecorded : t.aliases.get? id = none) :
      Enters host names (.expr (.call callee args [])) s (.function id requested) t
  | value {st e s} (h : Evaluates st e) : Enters host names (.statement st) s (.expr e) s
  | display {id use source elements before e after body s ns t}
      (shape : source = .list elements ∨ source = .tuple elements)
      (split : elements = before ++ e :: after)
      (earlier : Lowered host names (.exprs before) s ns t) :
      Enters host names (.statement (.forLoop (.name id use) source body [])) s (.expr e) t
  | nested {st s part t} (h : Nested host names st s part t) :
      Enters host names (.statement st) s (.statement part) t
  | body {before st after s ns t} (earlier : Lowered host names (.block before) s ns t) :
      Enters host names (.body (before ++ st :: after)) s (.statement st) t
  | begun {id requested located formals before st after s ns t}
      (found : (host.world.function id).locate? = .ok located)
      (accepted : located.routine.formals? (s.aliasFor id requested) = .ok formals)
      (split : located.routine.statements = before ++ st :: after)
      (earlier : Lowered host (host.world.namespaceOf (host.world.function id)) (.block before)
        (s.begun id requested (host.world.function id).qualname
          (frameOf located.routine formals)) ns t) :
      Enters host names (.function id requested) s (.statement st) t

end Cascade.Lowering
