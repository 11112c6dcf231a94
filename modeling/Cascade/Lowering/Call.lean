import Cascade.Lowering.Operand

set_option autoImplicit false

namespace Cascade.Lowering

open Source

def moduleOf? (names : Namespace) (id : String) : Option String :=
  match names.get? id with
  | some (.moduleRef name) => some name
  | _ => none

/-- The token that a callee names: a name that no frame binds, or a member of a module. -/
def calleeToken? (fs : Frames) (names : Namespace) : Expr → Option String
  | .name id _ =>
    if fs.isBound id || (fs.owner? id).isSome then none else some (Operator.tokenForName id)
  | .member (.name base _) attr =>
    if fs.isBound base || (moduleOf? names base).isNone then none
    else some (Operator.tokenForName attr)
  | _ => none

def calleeValue? (w : World) (fs : Frames) (names : Namespace) : Expr → Option (Value × String)
  | .name id _ => if fs.isBound id then none else (names.get? id).map (·, id)
  | .member (.name base _) attr =>
    if fs.isBound base then none
    else ((moduleOf? names base).bind (w.member? · attr)).map (·, attr)
  | _ => none

def calledFunction? (w : World) (callName : String) : Value → Option (FunctionId × String)
  | .marked id name => some (id, w.markedName id name)
  | .function id =>
    let name := (w.function id).name
    some (id, if name = lambdaName then callName else name)
  | _ => none

def calledBy? (host : Host) (fs : Frames) (names : Namespace) (callee : Expr) :
    Option (FunctionId × String) :=
  (calleeValue? host.world fs names callee).bind fun (value, callName) =>
    if host.isUserDefined value then calledFunction? host.world callName value else none

def closure (below : Descent) (names : Namespace) (entry : Entry) (routine : Routine)
    (place : Nat) : Lower Definition := do
  register entry
  if routine.decorated then refuse (.decoratedClosure entry.name)
  else
    let formals ← ofExcept (routine.formals? entry.name)
    let frame := Frame.ofNames (routine.localNames formals)
    let body ← inChildFrame place frame (below.body names routine.statements)
    return ⟨entry.name, Formals.ofNames formals, body⟩

/-- A call of a closure.  The first call carries its definition; a later one, or one from inside
its own body, refers to it. -/
def callClosure (below : Descent) (names : Namespace) (name : String) (place : Nat)
    (args : List Expr) : Lower Node := do
  let operands ← exprs below names args
  match (← frames).closure? place name with
  | some ⟨routine, .pending⟩ =>
    let definition ← lowerOnce place name (closure below names (.closure name) routine place)
    return .call name operands (some definition.node)
  | _ => return .call name operands none

def callLambda (below : Descent) (names : Namespace) (params : List (Parameter Expr)) (body : Expr)
    (args : List Expr) : Lower Node := do
  let name ← nameLambda
  let definition ← closure below names (.lambda name) (Routine.ofLambda params body) 0
  let operands ← exprs below names args
  return .call name operands (some definition.node)

/-- A call of a function of user code.  The first call carries its definition. -/
def callFunction (below : Descent) (names : Namespace) (id : FunctionId) (requested : String)
    (args : List Expr) : Lower Node := do
  let operands ← exprs below names args
  match (← get).aliases.get? id with
  | some name =>
    record (.reference name)
    return .call name operands none
  | none =>
    let definition ← below.function id requested
    return .call definition.name operands (some definition.node)

def callValue (host : Host) (below : Descent) (names : Namespace) (callee : Expr)
    (args : List Expr) : Lower Node := do
  match calledBy? host (← frames) names callee with
  | some (id, requested) => callFunction below names id requested args
  | none =>
    let whole := Expr.call callee args []
    throwQuoting [whole] (.unknownOperator whole.text)

def call (host : Host) (below : Descent) (names : Namespace) (callee : Expr) (args : List Expr)
    (keywords : List (Keyword Expr)) : Lower Node :=
  if !keywords.isEmpty || args.any Expr.isStarred then
    let whole := Expr.call callee args keywords
    throwQuoting [whole] (.unsupported (.flexibleArguments whole.text))
  else do
    let fs ← frames
    match (calleeToken? fs names callee).filter Operator.isKnown with
    | some token => operation token (← exprs below names args)
    | none =>
      match callee with
      | .lambda params body => callLambda below names params body args
      | .name id _ =>
        match fs.owner? id with
        | some place => callClosure below names id place args
        | none => callValue host below names callee args
      | _ => callValue host below names callee args

end Cascade.Lowering
