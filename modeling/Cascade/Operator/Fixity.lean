set_option autoImplicit false

namespace Cascade

inductive Fixity where
  | unary | binary | variadic | unknown
deriving DecidableEq, Inhabited

namespace Fixity

def text : Fixity → String
  | unary => "unary"
  | binary => "binary"
  | variadic => "variadic"
  | unknown => "unknown"

def admits : Fixity → Nat → Bool
  | unary, count => count == 1
  | binary, count => count == 2
  | variadic, count => 1 ≤ count
  | unknown, _ => false

end Fixity

namespace Operator

/-- Tokens with a one-operand and a many-operand form. -/
def ambiguousTokens : List String := ["log", "trunc", "round", "signif"]

def unaryTokens : List String :=
  ["!", "abs", "sign", "sqrt", "ceiling", "floor", "cummax", "cummin", "cumprod", "cumsum",
    "log10", "log2", "log1p", "acos", "acosh", "asin", "asinh", "atan", "atanh", "exp", "expm1",
    "cos", "cosh", "sin", "sinh", "tan", "tanh", "gamma", "lgamma", "digamma", "trigamma",
    "is.na"] ++ ambiguousTokens

def binaryTokens : List String :=
  ["+", "-", "*", "^", "%%", "%/%", "/", "==", ">", "<", "!=", "<=", ">=", "&", "|", "**"]

def variadicTokens : List String :=
  ["max", "min", "range", "prod", "sum", "any", "all"] ++ ambiguousTokens

def isUnary (token : String) : Bool := unaryTokens.contains token

def isBinary (token : String) : Bool := binaryTokens.contains token

def isVariadic (token : String) : Bool := variadicTokens.contains token

def isKnown (token : String) : Bool :=
  isUnary token || isBinary token || isVariadic token

/-- The fixity of a token.  The operand count, where known, decides between the two forms of an
ambiguous token: exactly one operand is the unary form. -/
def classify (token : String) (count : Option Int) : Fixity :=
  if ambiguousTokens.contains token then
    if count = some 1 then .unary else .variadic
  else if isBinary token then .binary
  else if isUnary token then .unary
  else if isVariadic token then .variadic
  else .unknown

end Operator

end Cascade
