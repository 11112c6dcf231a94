import Cascade.Lowering.Call

set_option autoImplicit false

namespace Cascade.Lowering

open Source

/-- One level of an expression.  What is no operator, call, name or constant cannot be lowered. -/
def expr (host : Host) (below : Descent) (names : Namespace) : Expr → Lower Node
  | .named .. => refuse .assignmentExpression
  | .binary op left right => binary below names op left right
  | .unary op operand => unary below names op operand
  | .junction op first rest => junction below names op first rest
  | .compare left op right rest => compare below names left op right rest
  | .call callee args keywords => call host below names callee args keywords
  | .name id _ => do ofExcept (nameNode? (← frames) names id)
  | .constant value => ofExcept (constantNode? value)
  | .lambda params body =>
    let whole := Expr.lambda params body
    throwQuoting [whole] (.unsupported (.looseLambda whole.text))
  | e => throwQuoting [e] (.unknownOperator e.text)

end Cascade.Lowering
