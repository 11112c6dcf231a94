import Cascade.Fault
import Cascade.Source.Stmt

set_option autoImplicit false

namespace Cascade.Source

inductive RoutineBody where
  | block (statements : List Stmt)
  | expression (value : Expr)
deriving Inhabited

structure Routine where
  params : List (Parameter Expr)
  body : RoutineBody
  decorated : Bool
deriving Inhabited

namespace Stmt

def isPass : Stmt → Bool
  | pass => true
  | _ => false

def isDocstring : Stmt → Bool
  | expr (.constant (.str _)) => true
  | _ => false

def asResult : Stmt → Stmt
  | expr value => if value.isLambda then expr value else ret (some value)
  | s => s

end Stmt

namespace Parameter

variable {ε : Type}

def isPlaced (p : Parameter ε) : Bool :=
  p.kind = .positionalOnly || p.kind = .positional

end Parameter

def placedNames (params : List (Parameter Expr)) : List String :=
  (params.filter Parameter.isPlaced).map (·.name)

namespace Routine

def ofLambda (params : List (Parameter Expr)) (value : Expr) : Routine :=
  ⟨params, .expression value, false⟩

def ofFunction (params : List (Parameter Expr)) (body : List Stmt) (decorators : List Expr) :
    Routine :=
  ⟨params, .block body, !decorators.isEmpty⟩

/-- The names of the formal arguments.  All arguments are passed by place and none has an initial
value. -/
def formals? (r : Routine) (name : String) : Except Fault (List String) :=
  if r.params.any fun p => !p.isPlaced then .error (.unsupported (.flexibleParameters name))
  else if r.params.any fun p => p.initial.isSome then .error (.unsupported (.initialValues name))
  else .ok (placedNames r.params)

/-- Every name that the routine binds in its own scope, wherever in the body it does so, and its
formal arguments. -/
def localNames (r : Routine) (formals : List String) : List String :=
  formals ++ match r.body with
    | .block statements => Stmt.boundNamesList statements
    | .expression value => value.storedNames

def withResult : List Stmt → List Stmt
  | [] => []
  | [s] => [s.asResult]
  | s :: ss => s :: withResult ss

def statements (r : Routine) : List Stmt :=
  let body := match r.body with
    | .expression value => [Stmt.expr value]
    | .block [] => []
    | .block (s :: ss) => if s.isDocstring then ss else s :: ss
  withResult (body.filter fun s => !s.isPass)

end Routine

end Cascade.Source
