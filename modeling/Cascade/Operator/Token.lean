import Cascade.Source.Operator

set_option autoImplicit false

namespace Cascade.Operator

open Source

def binaryToken? : BinaryOp → Option String
  | .add => some "+"
  | .sub => some "-"
  | .mult => some "*"
  | .div => some "/"
  | .mod => some "%%"
  | .floorDiv => some "%/%"
  | .pow => some "^"
  | .bitAnd => some "&"
  | .bitOr => some "|"
  | .matMult | .shiftLeft | .shiftRight | .bitXor => none

def compareToken? : CompareOp → Option String
  | .eq => some "=="
  | .notEq => some "!="
  | .lt => some "<"
  | .ltEq => some "<="
  | .gt => some ">"
  | .gtEq => some ">="
  | .same | .notSame | .mem | .notMem => none

def boolToken : BoolOp → String
  | .conj => "&"
  | .disj => "|"

def renamedCallables : List (String × String) :=
  [("ceil", "ceiling"), ("isnan", "is.na"), ("fabs", "abs")]

def tokenForName (name : String) : String :=
  (renamedCallables.lookup name).getD name

end Cascade.Operator
