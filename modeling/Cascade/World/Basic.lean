import Cascade.Source.Routine
import Cascade.World.Builtin

set_option autoImplicit false

namespace Cascade

open Source

inductive Origin where
  | user
  | installed
  /-- Loaded, but from no file. -/
  | fileless
  /-- Not loaded. -/
  | absent
deriving DecidableEq, Inhabited

namespace Origin

def isLibrary : Origin → Bool
  | installed | fileless => true
  | user | absent => false

end Origin

structure Module where
  origin : Origin
  globals : Namespace
deriving Inhabited

inductive FunctionSource where
  | body (statements : List Stmt)
  /-- The source is a piece of an expression. -/
  | fragment (value : Expr)
  | broken
  | missing
deriving Inhabited

namespace FunctionSource

end FunctionSource

structure Function where
  /-- The module whose globals the function sees. -/
  home : String
  /-- The module that the function says it is defined in. -/
  moduleName : Option String
  name : String
  qualname : String
  /-- The parameters of a lambda expression, to find it in its source. -/
  params : List String
  /-- The variables of enclosing functions, and their values where they have one. -/
  cells : Table (Option Value)
  source : FunctionSource
deriving Inhabited

structure World where
  modules : Table Module
  functions : Table Function
deriving Inhabited

def lambdaName : String := "<lambda>"

def nonEmptyOr (name : Option String) (otherwise : String) : String :=
  match name with
  | none | some "" => otherwise
  | some name => name

namespace World

/-- The record of a function; a function without one has no source. -/
def function (w : World) (id : FunctionId) : Function :=
  (w.functions.get? id).getD ⟨"", none, id, id, [], [], .missing⟩

def moduleNames (w : World) (name : String) : Namespace :=
  ((w.modules.get? name).map (·.globals)).getD [] ++
    [("__name__", .scalar (.str name)), ("__doc__", .scalar .none)]

def member? (w : World) (moduleName attr : String) : Option Value :=
  if w.modules.contains moduleName then (w.moduleNames moduleName).get? attr else none

/-- The names that a function sees: its cells hide the globals of its module, and those hide the
names that every function sees. -/
def namespaceOf (w : World) (f : Function) : Namespace :=
  f.cells.filterMap (fun (name, value) => value.map (name, ·)) ++
    (w.moduleNames f.home ++ Builtin.names)

def qualname? (w : World) : Value → Option String
  | .function id => some (w.function id).qualname
  | .builtin name => some (Builtin.ownName name)
  | .other _ qualname => qualname
  | _ => none

def markedName (w : World) (id : FunctionId) (name : Option String) : String :=
  nonEmptyOr name (w.function id).name

end World

structure Located where
  name : Option String
  routine : Routine
deriving Inhabited

structure Candidate where
  name : String
  routine : Option Routine

namespace Candidate

def ofStmt? : Stmt → Option Candidate
  | .function name params body decorators _ =>
    some ⟨name, some (Routine.ofFunction params body decorators)⟩
  | .asyncFunction name _ _ => some ⟨name, none⟩
  | _ => none

end Candidate

namespace Function

/-- The lambda expression with the function's parameters, if there is exactly one. -/
def locateLambda? (f : Function) (lambdas : List (List (Parameter Expr) × Expr)) :
    Except Fault Located :=
  match lambdas.filter fun (params, _) => placedNames params = f.params with
  | [(params, body)] => .ok ⟨none, Routine.ofLambda params body⟩
  | candidates => .error (.lambdaNotFound f.qualname candidates.length)

/-- The last definition with the function's name, or else the last definition. -/
def locateDefinition? (f : Function) (candidates : List Candidate) : Except Fault Located :=
  match (candidates.filter (·.name = f.name)).getLast?.or candidates.getLast? with
  | none => .error .definitionNotFound
  | some ⟨name, none⟩ => .error (.unsupported (.asyncFunction name))
  | some ⟨name, some routine⟩ => .ok ⟨some name, routine⟩

def locate? (f : Function) : Except Fault Located :=
  match f.source with
  | .missing => .error (.sourceMissing f.qualname "source code not available")
  | .broken => .error (.sourceBroken f.qualname)
  | .body statements =>
    if f.name = lambdaName then f.locateLambda? (Stmt.lambdas statements)
    else f.locateDefinition? (statements.filterMap Candidate.ofStmt?)
  | .fragment value =>
    if f.name = lambdaName then f.locateLambda? value.lambdas
    else f.locateDefinition? []

end Function

end Cascade
