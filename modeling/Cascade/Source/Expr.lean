import Cascade.Scalar
import Cascade.Source.Operator

set_option autoImplicit false

namespace Cascade.Source

inductive Use where
  | load | store | delete
deriving DecidableEq, Inhabited

inductive ParameterKind where
  | positionalOnly | positional | rest | keywordOnly | keywordRest
deriving DecidableEq, Inhabited

structure Parameter (ε : Type) where
  kind : ParameterKind
  name : String
  annotation : Option ε
  initial : Option ε

/-- An argument passed by name, or without one a mapping of such arguments. -/
structure Keyword (ε : Type) where
  name : Option String
  value : ε

structure Comparison (ε : Type) where
  op : CompareOp
  right : ε

/-- An entry of a dictionary, or without a key a dictionary merged into it. -/
structure Entry (ε : Type) where
  key : Option ε
  value : ε

structure Clause (ε : Type) where
  isAsync : Bool
  target : ε
  iterator : ε
  conditions : List ε

inductive ComprehensionKind where
  | list | set | generator
deriving DecidableEq, Inhabited

inductive Expr where
  | name (id : String) (use : Use)
  | constant (value : Scalar)
  | unary (op : UnaryOp) (operand : Expr)
  | binary (op : BinaryOp) (left right : Expr)
  | junction (op : BoolOp) (first : Expr) (rest : List Expr)
  | compare (left : Expr) (op : CompareOp) (right : Expr) (rest : List (Comparison Expr))
  | call (callee : Expr) (args : List Expr) (keywords : List (Keyword Expr))
  | member (value : Expr) (attr : String)
  | subscript (value index : Expr)
  | slice (lower upper step : Option Expr)
  | conditional (body test orelse : Expr)
  | lambda (params : List (Parameter Expr)) (body : Expr)
  | tuple (elements : List Expr)
  | list (elements : List Expr)
  | set (elements : List Expr)
  | dict (entries : List (Entry Expr))
  | comprehension (kind : ComprehensionKind) (element : Expr) (clauses : List (Clause Expr))
  | dictComprehension (key value : Expr) (clauses : List (Clause Expr))
  | named (target value : Expr)
  | yield (value : Option Expr)
  | yieldFrom (value : Expr)
  | await (value : Expr)
  | fstring (parts : List Expr)
  | formatted (value : Expr) (conversion : Option Char) (format : Option Expr)
  | starred (value : Expr)
deriving Inhabited

namespace Expr

def isLambda : Expr → Bool
  | lambda .. => true
  | _ => false

def isStarred : Expr → Bool
  | starred _ => true
  | _ => false

def opensScope : Expr → Bool
  | lambda .. | comprehension .. | dictComprehension .. => true
  | _ => false

mutual

/-- What `visit` finds at the expression and at all expressions below it, except below those that
`enter` refuses. -/
def collect {α : Type} (visit : Expr → List α) (enter : Expr → Bool) : Expr → List α
  | name id use => visit (name id use)
  | constant value => visit (constant value)
  | unary op a => visit (unary op a) ++
      bif enter (unary op a) then collect visit enter a else []
  | binary op a b => visit (binary op a b) ++
      bif enter (binary op a b) then collect visit enter a ++ collect visit enter b else []
  | junction op a es => visit (junction op a es) ++
      bif enter (junction op a es) then
        collect visit enter a ++ collectList visit enter es else []
  | compare a op b cs => visit (compare a op b cs) ++
      bif enter (compare a op b cs) then
        collect visit enter a ++ (collect visit enter b ++ collectComparisons visit enter cs)
      else []
  | call f es ks => visit (call f es ks) ++
      bif enter (call f es ks) then
        collect visit enter f ++ (collectList visit enter es ++ collectKeywords visit enter ks)
      else []
  | member a attr => visit (member a attr) ++
      bif enter (member a attr) then collect visit enter a else []
  | subscript a b => visit (subscript a b) ++
      bif enter (subscript a b) then collect visit enter a ++ collect visit enter b else []
  | slice a b c => visit (slice a b c) ++
      bif enter (slice a b c) then
        collectOption visit enter a ++
          (collectOption visit enter b ++ collectOption visit enter c)
      else []
  | conditional a b c => visit (conditional a b c) ++
      bif enter (conditional a b c) then
        collect visit enter a ++ (collect visit enter b ++ collect visit enter c) else []
  | lambda ps a => visit (lambda ps a) ++
      bif enter (lambda ps a) then
        collectParameters visit enter ps ++ collect visit enter a else []
  | tuple es => visit (tuple es) ++
      bif enter (tuple es) then collectList visit enter es else []
  | list es => visit (list es) ++
      bif enter (list es) then collectList visit enter es else []
  | set es => visit (set es) ++
      bif enter (set es) then collectList visit enter es else []
  | dict es => visit (dict es) ++
      bif enter (dict es) then collectEntries visit enter es else []
  | comprehension kind a cs => visit (comprehension kind a cs) ++
      bif enter (comprehension kind a cs) then
        collect visit enter a ++ collectClauses visit enter cs else []
  | dictComprehension a b cs => visit (dictComprehension a b cs) ++
      bif enter (dictComprehension a b cs) then
        collect visit enter a ++ (collect visit enter b ++ collectClauses visit enter cs)
      else []
  | named a b => visit (named a b) ++
      bif enter (named a b) then collect visit enter a ++ collect visit enter b else []
  | yield a => visit (yield a) ++
      bif enter (yield a) then collectOption visit enter a else []
  | yieldFrom a => visit (yieldFrom a) ++
      bif enter (yieldFrom a) then collect visit enter a else []
  | await a => visit (await a) ++
      bif enter (await a) then collect visit enter a else []
  | fstring es => visit (fstring es) ++
      bif enter (fstring es) then collectList visit enter es else []
  | formatted a conversion b => visit (formatted a conversion b) ++
      bif enter (formatted a conversion b) then
        collect visit enter a ++ collectOption visit enter b else []
  | starred a => visit (starred a) ++
      bif enter (starred a) then collect visit enter a else []

def collectList {α : Type} (visit : Expr → List α) (enter : Expr → Bool) :
    List Expr → List α
  | [] => []
  | e :: es => collect visit enter e ++ collectList visit enter es

def collectOption {α : Type} (visit : Expr → List α) (enter : Expr → Bool) :
    Option Expr → List α
  | none => []
  | some e => collect visit enter e

def collectParameters {α : Type} (visit : Expr → List α) (enter : Expr → Bool) :
    List (Parameter Expr) → List α
  | [] => []
  | ⟨_, _, a, b⟩ :: ps =>
    collectOption visit enter a ++
      (collectOption visit enter b ++ collectParameters visit enter ps)

def collectKeywords {α : Type} (visit : Expr → List α) (enter : Expr → Bool) :
    List (Keyword Expr) → List α
  | [] => []
  | ⟨_, a⟩ :: ks => collect visit enter a ++ collectKeywords visit enter ks

def collectComparisons {α : Type} (visit : Expr → List α) (enter : Expr → Bool) :
    List (Comparison Expr) → List α
  | [] => []
  | ⟨_, a⟩ :: cs => collect visit enter a ++ collectComparisons visit enter cs

def collectEntries {α : Type} (visit : Expr → List α) (enter : Expr → Bool) :
    List (Entry Expr) → List α
  | [] => []
  | ⟨a, b⟩ :: es =>
    collectOption visit enter a ++ (collect visit enter b ++ collectEntries visit enter es)

def collectClauses {α : Type} (visit : Expr → List α) (enter : Expr → Bool) :
    List (Clause Expr) → List α
  | [] => []
  | ⟨_, a, b, es⟩ :: cs =>
    collect visit enter a ++ (collect visit enter b ++
      (collectList visit enter es ++ collectClauses visit enter cs))

end

def storedNames : Expr → List String :=
  collect (fun | name id .store => [id] | _ => []) (fun e => !e.opensScope)

def lambdas : Expr → List (List (Parameter Expr) × Expr) :=
  collect (fun | lambda params body => [(params, body)] | _ => []) (fun _ => true)

end Expr

end Cascade.Source
