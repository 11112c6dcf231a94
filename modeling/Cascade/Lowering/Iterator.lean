import Cascade.Lowering.Operand

set_option autoImplicit false

namespace Cascade.Lowering

open Source

/-- The integer that an expression denotes: a constant, a negated one, or a name of a constant. -/
def staticInt? (fs : Frames) (names : Namespace) : Expr → Option Int
  | .constant value => value.int?
  | .unary .minus (.constant value) => value.int?.map (- ·)
  | .name id _ => if fs.isBound id then none else (names.get? id).bind Value.int?
  | _ => none

def isRange (names : Namespace) (id : String) : Bool :=
  match names.get? id with
  | some (.builtin name) => name == "range"
  | _ => false

def rangeOfBounds? : List Int → Option (Int × Int × Int)
  | [stop] => some (0, stop, 1)
  | [start, stop] => some (start, stop, 1)
  | [start, stop, step] => some (start, stop, step)
  | _ => none

def staticRange? (fs : Frames) (names : Namespace) : Expr → Option (Int × Int × Int)
  | .call (.name id _) args [] =>
    if fs.isBound id || !isRange names id then none
    else (args.mapM (staticInt? fs names)).bind rangeOfBounds?
  | _ => none

def staticValues? (fs : Frames) (names : Namespace) (id : String) : Option (List Scalar) :=
  if fs.isBound id then none else (names.get? id).bind Value.primitives?

def literals? : List Scalar → Except Fault (List Node)
  | [] => .ok []
  | value :: values => do
    let n ← Node.literal? value
    let ns ← literals? values
    return n :: ns

def refuseIterator {α : Type} (iterator : Expr) : Lower α :=
  throwQuoting [iterator] (.unsupported (.loopIterator iterator.text))

def displayIterator (below : Descent) (names : Namespace) (iterator : Expr)
    (elements : List Expr) : Lower Node := do
  let values ← exprs below names elements
  if values.all Node.isLiteral then return .sequence values else refuseIterator iterator

def iterator (below : Descent) (names : Namespace) (e : Expr) : Lower Node := do
  let fs ← frames
  match staticRange? fs names e with
  | some (start, stop, step) =>
    if step = 0 then refuse .zeroStep else return .range start stop step
  | none =>
    match e with
    | .list elements => displayIterator below names e elements
    | .tuple elements => displayIterator below names e elements
    | .name id _ =>
      match staticValues? fs names id with
      | some values => return .sequence (← ofExcept (literals? values))
      | none => refuseIterator e
    | _ => refuseIterator e

end Cascade.Lowering
