import Cascade.Source.Operator

set_option autoImplicit false

namespace Cascade.Source

/-- Binding strength, from the weakest construct (1) to an atom (18). -/
abbrev Level := Nat

namespace Level

def named : Level := 1
def tuple : Level := 2
def yielding : Level := 3
def test : Level := 4
def disj : Level := 5
def conj : Level := 6
def negation : Level := 7
def compare : Level := 8
def bitOr : Level := 9
def bitXor : Level := 10
def bitAnd : Level := 11
def shift : Level := 12
def arith : Level := 13
def term : Level := 14
def factor : Level := 15
def power : Level := 16
def await : Level := 17
def atom : Level := 18

def next (level : Level) : Level := min (level + 1) atom

def parenthesize (own required : Level) (text : String) : String :=
  if own < required then "(" ++ text ++ ")" else text

end Level

namespace BinaryOp

def level : BinaryOp → Level
  | bitOr => Level.bitOr
  | bitXor => Level.bitXor
  | bitAnd => Level.bitAnd
  | shiftLeft | shiftRight => Level.shift
  | add | sub => Level.arith
  | mult | matMult | div | mod | floorDiv => Level.term
  | pow => Level.power

/-- The levels required of both operands: all operators but the power group to the left. -/
def operandLevels (op : BinaryOp) : Level × Level :=
  if op = pow then (op.level.next, op.level) else (op.level, op.level.next)

end BinaryOp

namespace BoolOp

def level : BoolOp → Level
  | conj => Level.conj
  | disj => Level.disj

end BoolOp

namespace UnaryOp

def level : UnaryOp → Level
  | negation => Level.negation
  | invert | plus | minus => Level.factor

end UnaryOp

end Cascade.Source
