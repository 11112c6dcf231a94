set_option autoImplicit false

namespace Cascade.Source

inductive BinaryOp where
  | add | sub | mult | matMult | div | mod | floorDiv | pow
  | shiftLeft | shiftRight | bitOr | bitXor | bitAnd
deriving DecidableEq, Inhabited

inductive UnaryOp where
  | invert | negation | plus | minus
deriving DecidableEq, Inhabited

inductive BoolOp where
  | conj | disj
deriving DecidableEq, Inhabited

inductive CompareOp where
  | eq | notEq | lt | ltEq | gt | gtEq | same | notSame | mem | notMem
deriving DecidableEq, Inhabited

namespace BinaryOp

def text : BinaryOp → String
  | add => "+"
  | sub => "-"
  | mult => "*"
  | matMult => "@"
  | div => "/"
  | mod => "%"
  | floorDiv => "//"
  | pow => "**"
  | shiftLeft => "<<"
  | shiftRight => ">>"
  | bitOr => "|"
  | bitXor => "^"
  | bitAnd => "&"

end BinaryOp

namespace UnaryOp

def text : UnaryOp → String
  | invert => "~"
  | negation => "not"
  | plus => "+"
  | minus => "-"

end UnaryOp

namespace BoolOp

def text : BoolOp → String
  | conj => "and"
  | disj => "or"

end BoolOp

namespace CompareOp

def text : CompareOp → String
  | eq => "=="
  | notEq => "!="
  | lt => "<"
  | ltEq => "<="
  | gt => ">"
  | gtEq => ">="
  | same => "is"
  | notSame => "is not"
  | mem => "in"
  | notMem => "not in"

end CompareOp

end Cascade.Source
