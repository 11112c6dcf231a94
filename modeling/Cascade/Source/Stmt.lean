import Cascade.Source.Expr

set_option autoImplicit false

/-! Statements of the source language.  A statement that is refused by its kind alone is held as
that kind with the expressions and statements it is made of. -/
namespace Cascade.Source

structure ImportedModule where
  path : String
  boundAs : Option String
deriving DecidableEq, Inhabited

inductive RefusedKind where
  | delete | asyncFor | withBlock | asyncWith | matchBlock | raise | tryBlock | tryStar | assertion
  | importModules (modules : List ImportedModule)
  | importNames | globalNames | nonlocalNames | breakLoop | continueLoop
deriving DecidableEq, Inhabited

inductive Stmt where
  | function (name : String) (params : List (Parameter Expr)) (body : List Stmt)
      (decorators : List Expr) (returns : Option Expr)
  | asyncFunction (name : String) (parts : List Expr) (body : List Stmt)
  | classDef (name : String) (parts : List Expr) (body : List Stmt)
  | ret (value : Option Expr)
  | assign (targets : List Expr) (value : Expr)
  | augAssign (target : Expr) (op : BinaryOp) (value : Expr)
  /-- The target is `bare` if it is a name without parentheses around it. -/
  | annAssign (target annotation : Expr) (value : Option Expr) (bare : Bool)
  | forLoop (target iterator : Expr) (body orelse : List Stmt)
  | whileLoop (test : Expr) (body orelse : List Stmt)
  | branch (test : Expr) (body orelse : List Stmt)
  | expr (value : Expr)
  | pass
  | refused (kind : RefusedKind) (parts : List Expr) (body : List Stmt)
deriving Inhabited

namespace RefusedKind

def text : RefusedKind → String
  | delete => "Delete"
  | asyncFor => "AsyncFor"
  | withBlock => "With"
  | asyncWith => "AsyncWith"
  | matchBlock => "Match"
  | raise => "Raise"
  | tryBlock => "Try"
  | tryStar => "TryStar"
  | assertion => "Assert"
  | importModules _ => "Import"
  | importNames => "ImportFrom"
  | globalNames => "Global"
  | nonlocalNames => "Nonlocal"
  | breakLoop => "Break"
  | continueLoop => "Continue"

end RefusedKind

namespace Stmt

def kindText : Stmt → String
  | function .. => "FunctionDef"
  | asyncFunction .. => "AsyncFunctionDef"
  | classDef .. => "ClassDef"
  | ret _ => "Return"
  | assign .. => "Assign"
  | augAssign .. => "AugAssign"
  | annAssign .. => "AnnAssign"
  | forLoop .. => "For"
  | whileLoop .. => "While"
  | branch .. => "If"
  | expr _ => "Expr"
  | pass => "Pass"
  | refused kind .. => kind.text

def headExprs (params : List (Parameter Expr)) (decorators : List Expr)
    (returns : Option Expr) : List Expr :=
  params.flatMap (fun p => p.annotation.toList ++ p.initial.toList) ++ decorators ++
    returns.toList

mutual

/-- The names that a statement binds in the scope it stands in.  A nested function or class binds
its own name only. -/
def boundNames : Stmt → List String
  | function name .. => [name]
  | asyncFunction name .. => [name]
  | classDef name .. => [name]
  | ret value => value.toList.flatMap Expr.storedNames
  | assign targets value => (targets ++ [value]).flatMap Expr.storedNames
  | augAssign target _ value => [target, value].flatMap Expr.storedNames
  | annAssign target annotation value _ =>
    (target :: annotation :: value.toList).flatMap Expr.storedNames
  | forLoop target iterator body orelse =>
    [target, iterator].flatMap Expr.storedNames ++ boundNamesList body ++ boundNamesList orelse
  | whileLoop test body orelse =>
    test.storedNames ++ boundNamesList body ++ boundNamesList orelse
  | branch test body orelse =>
    test.storedNames ++ boundNamesList body ++ boundNamesList orelse
  | expr value => value.storedNames
  | pass => []
  | refused _ parts body => parts.flatMap Expr.storedNames ++ boundNamesList body

def boundNamesList : List Stmt → List String
  | [] => []
  | s :: ss => boundNames s ++ boundNamesList ss

end

mutual

def collect {α : Type} (visit : Expr → List α) : Stmt → List α
  | function _ params body decorators returns =>
    (headExprs params decorators returns).flatMap visit ++ collectList visit body
  | asyncFunction _ parts body | classDef _ parts body | refused _ parts body =>
    parts.flatMap visit ++ collectList visit body
  | ret value => value.toList.flatMap visit
  | assign targets value => (targets ++ [value]).flatMap visit
  | augAssign target _ value => [target, value].flatMap visit
  | annAssign target annotation value _ =>
    (target :: annotation :: value.toList).flatMap visit
  | forLoop target iterator body orelse =>
    [target, iterator].flatMap visit ++ collectList visit body ++ collectList visit orelse
  | whileLoop test body orelse | branch test body orelse =>
    visit test ++ collectList visit body ++ collectList visit orelse
  | expr value => visit value
  | pass => []

def collectList {α : Type} (visit : Expr → List α) : List Stmt → List α
  | [] => []
  | s :: ss => collect visit s ++ collectList visit ss

end

def lambdas : List Stmt → List (List (Parameter Expr) × Expr) :=
  collectList Expr.lambdas

end Stmt

end Cascade.Source
