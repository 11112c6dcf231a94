import Cascade.Fault
import Cascade.Scalar

set_option autoImplicit false

namespace Cascade

inductive Formals where
  | names (list : List String)
  | marker (text : String)
deriving DecidableEq, Inhabited

inductive Node where
  | literal (value : Scalar)
  | symbol (name : String)
  | operation (op : String) (fixity : Fixity) (operands : List Node)
  | function (name : String) (formals : Formals) (body : List Node)
  | call (callee : String) (operands : List Node) (definition : Option Node)
  | assign (symbol : String) (value : Node)
  | branch (condition : Node) (body : List Node) (orelse : Option (List Node))
  | otherwise (body : List Node)
  | loop (counter : String) (iterator : Node) (body : List Node)
  | ret (value : Option Node)
  | range (start stop step : Int)
  | sequence (values : List Node)
deriving Inhabited

structure Definition where
  name : String
  formals : Formals
  body : List Node
deriving Inhabited

namespace Formals

/-- A function without formal arguments is marked as such. -/
def ofNames : List String → Formals
  | [] => marker "none"
  | name :: rest => names (name :: rest)

end Formals

namespace Definition

def node (d : Definition) : Node :=
  .function d.name d.formals d.body

end Definition

namespace Node

def isLiteral : Node → Bool
  | literal _ => true
  | _ => false

/-- A constant.  Infinities and not-a-number cannot be sent to the engine. -/
def literal? : Scalar → Except Fault Node
  | .float value =>
    if value.isFinite then .ok (literal (.float value))
    else .error (.unsupported (.nonFinite value.text))
  | value => .ok (literal value)

def operation? (op : String) (fixity : Fixity) (operands : List Node) : Except Fault Node :=
  if fixity.admits operands.length then .ok (operation op fixity operands)
  else .error (.arity op fixity operands.length)

end Node

end Cascade
