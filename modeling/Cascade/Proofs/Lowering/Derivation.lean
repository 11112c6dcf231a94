import Cascade.Proofs.Lowering.Success

set_option autoImplicit false

/-!
# Derivations of successful lowerings

`Lowered host names job s ns t` says that a job, begun in the state `s` under the names `names`,
succeeds with the nodes `ns` and leaves the state `t`.  There is one rule for each way in which a
part of the source can be lowered, and no rule mentions the number of levels left.  What all
lowered programs have in common is proved by induction on derivations.
-/
namespace Cascade.Lowering

open Source

inductive Job where
  | expr (e : Expr)
  | exprs (es : List Expr)
  /-- The comparisons of a chain, from its left end on. -/
  | chain (left : Expr) (links : List (Comparison Expr))
  | iterator (e : Expr)
  | statement (st : Stmt)
  | block (ss : List Stmt)
  | function (id : FunctionId) (requested : String)

def joined (token : String) (first : Node) (rest : List Node) : Node :=
  rest.foldl (fun result n => .operation token .binary [result, n]) first

def fixityFor (token : String) (operands : List Node) : Fixity :=
  Operator.classify token (some (operands.length : Int))

def frameOf (r : Routine) (formals : List String) : Frame :=
  Frame.ofNames (r.localNames formals)

namespace State

@[simps!]
def opened (s : State) (entry : Entry) (place : Nat) (frame : Frame) : State :=
  (s.registered entry).withFrames (frame :: s.frames.drop place)

/-- Back in the frames `before`, of which those from the place on have been shared. -/
@[simps!]
def closed (t : State) (before : Frames) (place : Nat) : State :=
  t.withFrames (before.take place ++ t.frames.tail)

@[simps!]
def withStatus (s : State) (place : Nat) (name : String) (status : ClosureStatus) : State :=
  s.withFrames (s.frames.setStatus place name status)

def aliasFor (s : State) (id : FunctionId) (requested : String) : String :=
  (s.aliases.mark id requested).1

@[simps!]
def begun (s : State) (id : FunctionId) (requested qualname : String) (frame : Frame) : State :=
  (((s.marked id requested).registered (.function id (s.aliasFor id requested))).recorded
    (.lowering (s.aliasFor id requested) qualname)).withFrames [frame]

end State

inductive Lowered (host : Host) : Namespace → Job → State → List Node → State → Prop where
  | name {names id use s n} (found : nameNode? s.frames names id = .ok n) :
      Lowered host names (.expr (.name id use)) s [n] s
  | constant {names value s n} (found : constantNode? value = .ok n) :
      Lowered host names (.expr (.constant value)) s [n] s
  | plus {names e s n t} (operand : Lowered host names (.expr e) s [n] t) :
      Lowered host names (.expr (.unary .plus e)) s [n] t
  | negative {names value negated s n} (sign : value.negate? = some negated)
      (found : Node.literal? negated = .ok n) :
      Lowered host names (.expr (.unary .minus (.constant value))) s [n] s
  | minus {names e s n t} (sign : negated? e = none)
      (operand : Lowered host names (.expr e) s [n] t) :
      Lowered host names (.expr (.unary .minus e)) s
        [.operation "-" .binary [.literal (.int 0), n]] t
  | negation {names op e s n t} (logical : op = .negation ∨ op = .invert)
      (operand : Lowered host names (.expr e) s [n] t) :
      Lowered host names (.expr (.unary op e)) s [.operation "!" .unary [n]] t
  | binary {names op token left right s a t b u} (known : Operator.binaryToken? op = some token)
      (first : Lowered host names (.expr left) s [a] t)
      (second : Lowered host names (.expr right) t [b] u) :
      Lowered host names (.expr (.binary op left right)) s [.operation token .binary [a, b]] u
  | junction {names op first rest s a t bs u}
      (head : Lowered host names (.expr first) s [a] t)
      (tail : Lowered host names (.exprs rest) t bs u) :
      Lowered host names (.expr (.junction op first rest)) s
        [joined (Operator.boolToken op) a bs] u
  | compare {names left op right rest s n ns t}
      (links : Lowered host names (.chain left (⟨op, right⟩ :: rest)) s (n :: ns) t) :
      Lowered host names (.expr (.compare left op right rest)) s [joined "&" n ns] t
  | operator {names callee args token s ns t} (plain : args.any Expr.isStarred = false)
      (known : (calleeToken? s.frames names callee).filter Operator.isKnown = some token)
      (operands : Lowered host names (.exprs args) s ns t)
      (admitted : (fixityFor token ns).admits ns.length = true) :
      Lowered host names (.expr (.call callee args [])) s
        [.operation token (fixityFor token ns) ns] t
  | lambda {names params body args formals s steps t operands u}
      (plain : args.any Expr.isStarred = false)
      (accepted : (Routine.ofLambda params body).formals? (lambdaAlias (s.lambdas + 1)) =
        .ok formals)
      (inner : Lowered host names (.block (Routine.ofLambda params body).statements)
        (s.lambdaNamed.opened (.lambda (lambdaAlias (s.lambdas + 1))) 0
          (frameOf (Routine.ofLambda params body) formals)) steps t)
      (outer : Lowered host names (.exprs args) (t.closed s.frames 0) operands u) :
      Lowered host names (.expr (.call (.lambda params body) args [])) s
        [.call (lambdaAlias (s.lambdas + 1)) operands
          (some (.function (lambdaAlias (s.lambdas + 1)) (Formals.ofNames formals) steps))] u
  | closureReference {names id use args place s operands t}
      (plain : args.any Expr.isStarred = false)
      (owned : s.frames.owner? id = some place)
      (outer : Lowered host names (.exprs args) s operands t)
      (started : ∀ routine, t.frames.closure? place id ≠ some ⟨routine, .pending⟩) :
      Lowered host names (.expr (.call (.name id use) args [])) s [.call id operands none] t
  | closureDefinition {names id use args place routine formals s operands t steps u}
      (plain : args.any Expr.isStarred = false)
      (owned : s.frames.owner? id = some place)
      (outer : Lowered host names (.exprs args) s operands t)
      (pending : t.frames.closure? place id = some ⟨routine, .pending⟩)
      (undecorated : routine.decorated = false)
      (accepted : routine.formals? id = .ok formals)
      (inner : Lowered host names (.block routine.statements)
        ((t.withStatus place id .active).opened (.closure id) place (frameOf routine formals))
        steps u) :
      Lowered host names (.expr (.call (.name id use) args [])) s
        [.call id operands (some (.function id (Formals.ofNames formals) steps))]
        ((u.closed (t.withStatus place id .active).frames place).withStatus place id .lowered)
  | functionReference {names callee args id requested name s operands t}
      (plain : args.any Expr.isStarred = false)
      (unnamed : (calleeToken? s.frames names callee).filter Operator.isKnown = none)
      (unowned : ∀ word use, callee = .name word use → s.frames.owner? word = none)
      (called : calledBy? host s.frames names callee = some (id, requested))
      (outer : Lowered host names (.exprs args) s operands t)
      (recorded : t.aliases.get? id = some name) :
      Lowered host names (.expr (.call callee args [])) s [.call name operands none]
        (t.recorded (.reference name))
  | functionDefinition {names callee args id requested name formals body s operands t u}
      (plain : args.any Expr.isStarred = false)
      (unnamed : (calleeToken? s.frames names callee).filter Operator.isKnown = none)
      (unowned : ∀ word use, callee = .name word use → s.frames.owner? word = none)
      (called : calledBy? host s.frames names callee = some (id, requested))
      (outer : Lowered host names (.exprs args) s operands t)
      (unrecorded : t.aliases.get? id = none)
      (definition : Lowered host names (.function id requested) t
        [.function name formals body] u) :
      Lowered host names (.expr (.call callee args [])) s
        [.call name operands (some (.function name formals body))] u
  | nil {names s} : Lowered host names (.exprs []) s [] s
  | cons {names e es s n t ns u} (head : Lowered host names (.expr e) s [n] t)
      (tail : Lowered host names (.exprs es) t ns u) :
      Lowered host names (.exprs (e :: es)) s (n :: ns) u
  | chainNil {names left s} : Lowered host names (.chain left []) s [] s
  | chainCons {names left op token right rest s a t b u ns v}
      (known : Operator.compareToken? op = some token)
      (first : Lowered host names (.expr left) s [a] t)
      (second : Lowered host names (.expr right) t [b] u)
      (more : Lowered host names (.chain right rest) u ns v) :
      Lowered host names (.chain left (⟨op, right⟩ :: rest)) s
        (.operation token .binary [a, b] :: ns) v
  | range {names e start stop step s}
      (static : staticRange? s.frames names e = some (start, stop, step)) (moves : step ≠ 0) :
      Lowered host names (.iterator e) s [.range start stop step] s
  | display {names e elements s ns t} (shape : e = .list elements ∨ e = .tuple elements)
      (values : Lowered host names (.exprs elements) s ns t)
      (literal : ns.all Node.isLiteral = true) :
      Lowered host names (.iterator e) s [.sequence ns] t
  | constants {names id use values s ns}
      (static : staticValues? s.frames names id = some values) (found : literals? values = .ok ns) :
      Lowered host names (.iterator (.name id use)) s [.sequence ns] s
  | branch {names test body s c t yes u} (condition : Lowered host names (.expr test) s [c] t)
      (positive : Lowered host names (.block body) t yes u) :
      Lowered host names (.statement (.branch test body [])) s [.branch c yes none] u
  | branchElse {names test body other others s c t yes u no v}
      (condition : Lowered host names (.expr test) s [c] t)
      (positive : Lowered host names (.block body) t yes u)
      (negative : Lowered host names (.block (other :: others)) u no v) :
      Lowered host names (.statement (.branch test body (other :: others))) s
        [.branch c yes (some no)] v
  | loop {names id use source body s values t steps u}
      (header : Lowered host names (.iterator source) s [values] t)
      (inner : Lowered host names (.block body) (t.withFrames (t.frames.bind id)) steps u) :
      Lowered host names (.statement (.forLoop (.name id use) source body [])) s
        [.loop id values steps] u
  | ret {names s} : Lowered host names (.statement (.ret none)) s [.ret none] s
  | retValue {names e s n t} (value : Lowered host names (.expr e) s [n] t) :
      Lowered host names (.statement (.ret (some e))) s [.ret (some n)] t
  | augAssign {names id use op token e s n t} (known : Operator.binaryToken? op = some token)
      (value : Lowered host names (.expr e) s [n] t) :
      Lowered host names (.statement (.augAssign (.name id use) op e)) s
        [.assign id (.operation token .binary [.symbol id, n])] (t.withFrames (t.frames.bind id))
  | declaration {names target annotation bare s} :
      Lowered host names (.statement (.annAssign target annotation none bare)) s [] s
  | annotated {names target annotation e bare s ns t}
      (plain : Lowered host names (.statement (.assign [target] e)) s ns t) :
      Lowered host names (.statement (.annAssign target annotation (some e) bare)) s ns t
  | assign {names id use e s n t} (value : Lowered host names (.expr e) s [n] t) :
      Lowered host names (.statement (.assign [.name id use] e)) s [.assign id n]
        (t.withFrames (t.frames.bind id))
  | assignLambda {names id use params body s} :
      Lowered host names (.statement (.assign [.name id use] (.lambda params body))) s []
        ((s.withFrames (s.frames.bindClosure id (Routine.ofLambda params body))).recorded
          (.closureBound id))
  | nested {names id params body decorators returns s} :
      Lowered host names (.statement (.function id params body decorators returns)) s []
        ((s.withFrames (s.frames.bindClosure id (Routine.ofFunction params body decorators))).recorded
          (.closureBound id))
  | pass {names s} : Lowered host names (.statement .pass) s [] s
  | dropped {names params body event s} :
      Lowered host names (.statement (.expr (.lambda params body))) s [] (s.recorded event)
  | expression {names e s n t} (value : Lowered host names (.expr e) s [n] t) :
      Lowered host names (.statement (.expr e)) s [n] t
  | blockNil {names s} : Lowered host names (.block []) s [] s
  | blockCons {names st ss s ns t ms u} (head : Lowered host names (.statement st) s ns t)
      (tail : Lowered host names (.block ss) t ms u) :
      Lowered host names (.block (st :: ss)) s (ns ++ ms) u
  | function {names id requested located formals s body t} (new : s.aliases.get? id = none)
      (found : (host.world.function id).locate? = .ok located)
      (accepted : located.routine.formals? (s.aliasFor id requested) = .ok formals)
      (inner : Lowered host (host.world.namespaceOf (host.world.function id))
        (.block located.routine.statements)
        (s.begun id requested (host.world.function id).qualname
          (frameOf located.routine formals)) body t) :
      Lowered host names (.function id requested) s
        [.function (s.aliasFor id requested) (Formals.ofNames formals) body]
        (t.withFrames s.frames)

theorem Lowered.function_inv {host : Host} {names : Namespace} {id : FunctionId}
    {requested : String} {s t : State} {ns : List Node}
    (h : Lowered host names (.function id requested) s ns t) :
    ∃ located formals body u,
      ns = [.function (s.aliasFor id requested) (Formals.ofNames formals) body] ∧
      (host.world.function id).locate? = .ok located ∧
      located.routine.formals? (s.aliasFor id requested) = .ok formals ∧
      Lowered host (host.world.namespaceOf (host.world.function id))
        (.block located.routine.statements)
        (s.begun id requested (host.world.function id).qualname (frameOf located.routine formals))
        body u := by
  cases h with
  | function new found accepted inner => exact ⟨_, _, _, _, rfl, found, accepted, inner⟩

end Cascade.Lowering
