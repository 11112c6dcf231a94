import Cascade.Lowering.State
import Cascade.Operator.Token

set_option autoImplicit false

namespace Cascade.Lowering

open Source

def operation (token : String) (operands : List Node) : Lower Node :=
  match Operator.classify token (some (operands.length : Int)) with
  | .unknown => throw (.unknownOperator token)
  | fixity => ofExcept (Node.operation? token fixity operands)

def joinOperands (token : String) : Node → List Node → Lower Node
  | result, [] => pure result
  | result, n :: ns => do joinOperands token (← operation token [result, n]) ns

def constantNode? (value : Scalar) : Except Fault Node :=
  if value.isPrimitive then Node.literal? value
  else .error (.unsupported (.constant value.text))

/-- A name.  One that no frame binds is replaced by its value if that is a constant. -/
def nameNode? (fs : Frames) (names : Namespace) (id : String) : Except Fault Node :=
  if (fs.owner? id).isSome then .error (.unsupported (.closureReference id))
  else if fs.isBound id then .ok (.symbol id)
  else
    match (names.get? id).bind Value.primitive? with
    | some value => Node.literal? value
    | none => .ok (.symbol id)

def negated? : Expr → Option Scalar
  | .constant value => value.negate?
  | _ => none

def exprs (below : Descent) (names : Namespace) : List Expr → Lower (List Node)
  | [] => pure []
  | e :: es => do
    let n ← below.expr names e
    let ns ← exprs below names es
    return n :: ns

/-- The operators `+x`, `-x`, `~x` and `not x`.  A negative constant is a constant; otherwise a
minus sign is a subtraction from zero. -/
def unary (below : Descent) (names : Namespace) (op : UnaryOp) (operand : Expr) : Lower Node :=
  match op with
  | .plus => below.expr names operand
  | .minus =>
    match negated? operand with
    | some value => ofExcept (Node.literal? value)
    | none => do operation "-" [.literal (.int 0), ← below.expr names operand]
  | .negation | .invert => do operation "!" [← below.expr names operand]

def binary (below : Descent) (names : Namespace) (op : BinaryOp) (left right : Expr) :
    Lower Node :=
  match Operator.binaryToken? op with
  | none =>
    let whole := Expr.binary op left right
    throwQuoting [whole] (.unknownOperator whole.text)
  | some token => do
    let a ← below.expr names left
    let b ← below.expr names right
    operation token [a, b]

def junction (below : Descent) (names : Namespace) (op : BoolOp) (first : Expr)
    (rest : List Expr) : Lower Node := do
  let a ← below.expr names first
  let bs ← exprs below names rest
  joinOperands (Operator.boolToken op) a bs

/-- The comparisons of a chain.  Each has operands of its own, so an inner expression of the chain
is lowered twice. -/
def comparisons (below : Descent) (names : Namespace) (whole : Expr) :
    Expr → List (Comparison Expr) → Lower (List Node)
  | _, [] => pure []
  | left, ⟨op, right⟩ :: rest =>
    match Operator.compareToken? op with
    | none => throwQuoting [whole] (.unknownOperator whole.text)
    | some token => do
      let a ← below.expr names left
      let b ← below.expr names right
      let n ← operation token [a, b]
      let ns ← comparisons below names whole right rest
      return n :: ns

def compare (below : Descent) (names : Namespace) (left : Expr) (op : CompareOp) (right : Expr)
    (rest : List (Comparison Expr)) : Lower Node := do
  let whole := Expr.compare left op right rest
  match ← comparisons below names whole left (⟨op, right⟩ :: rest) with
  | [] => throwQuoting [whole] (.unknownOperator whole.text)
  | first :: more => joinOperands "&" first more

end Cascade.Lowering
