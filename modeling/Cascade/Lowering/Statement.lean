import Cascade.Lowering.Iterator

set_option autoImplicit false

namespace Cascade.Lowering

open Source

def block (below : Descent) (names : Namespace) : List Stmt → Lower (List Node)
  | [] => pure []
  | s :: ss => do
    let n ← below.statement names s
    let ns ← block below names ss
    return n.toList ++ ns

def elseBlock (below : Descent) (names : Namespace) : List Stmt → Lower (Option (List Node))
  | [] => pure none
  | s :: ss => do return some (← block below names (s :: ss))

def branch (below : Descent) (names : Namespace) (test : Expr) (body orelse : List Stmt) :
    Lower Node := do
  let condition ← below.expr names test
  let yes ← block below names body
  let no ← elseBlock below names orelse
  return .branch condition yes no

/-- A loop over a static iterator.  Its variable is bound before the body is lowered. -/
def loop (below : Descent) (names : Namespace) (target source : Expr) (body orelse : List Stmt) :
    Lower Node :=
  if !orelse.isEmpty then refuse .loopElse
  else
    match target with
    | .name id _ => do
      let values ← iterator below names source
      bindVariable id
      let steps ← block below names body
      return .loop id values steps
    | _ => throwQuoting [target] (.unsupported (.loopTarget target.text))

/-- An assignment to one name.  A lambda expression is bound as a closure and leaves nothing
behind. -/
def assign (below : Descent) (names : Namespace) (targets : List Expr) (value : Expr) :
    Lower (Option Node) :=
  match targets with
  | [.name id _] =>
    match value with
    | .lambda params body => do
      bindClosure id (Routine.ofLambda params body)
      return none
    | .named .. => refuse .assignmentExpression
    | _ => do
      let n ← below.expr names value
      bindVariable id
      return some (.assign id n)
  | _ => refuse .assignmentTargets

def augAssign (below : Descent) (names : Namespace) (target : Expr) (op : BinaryOp)
    (value : Expr) : Lower Node :=
  match target with
  | .name id _ =>
    match Operator.binaryToken? op with
    | none => throwQuoting [target, value] (.unknownOperator (augAssignText target op value))
    | some token => do
      let n ← below.expr names value
      let result ← operation token [.symbol id, n]
      bindVariable id
      return .assign id result
  | _ => refuse .assignmentTargets

/-- An expression that is a statement of its own.  A lambda expression can never be called there, so
it is dropped. -/
def exprStatement (below : Descent) (names : Namespace) (value : Expr) : Lower (Option Node) :=
  if value.isLambda then
    match value.textFault? with
    | none => do
      record (.droppedLambda (exprStmtText value))
      return none
    | some cause => throw (.unwritable cause)
  else do return some (← below.expr names value)

def statement (below : Descent) (names : Namespace) : Stmt → Lower (Option Node)
  | .branch test body orelse => do return some (← branch below names test body orelse)
  | .forLoop target source body orelse => do
    return some (← loop below names target source body orelse)
  | .ret none => return some (.ret none)
  | .ret (some value) => do return some (.ret (some (← below.expr names value)))
  | .whileLoop .. => refuse .whileLoop
  | .augAssign target op value => do return some (← augAssign below names target op value)
  | .annAssign _ _ none _ => return none
  | .annAssign target _ (some value) _ => assign below names [target] value
  | .assign targets value => assign below names targets value
  | .function name params body decorators _ => do
    bindClosure name (Routine.ofFunction params body decorators)
    return none
  | .pass => return none
  | .expr value => exprStatement below names value
  | s => refuse (.statement s.kindText)

end Cascade.Lowering
