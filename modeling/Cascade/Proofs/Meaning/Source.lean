import Cascade.Lowering.Iterator
import Cascade.Proofs.Meaning.Engine
import Mathlib.Data.Int.Bitwise

set_option autoImplicit false

/-!
# The meaning of the source

Expressions and statements have a meaning under given rules for the operators.  Under the rules of
the language, truth values count as numbers and connectives leave operands out.  The reference rules
are those of the engine; where they give a result, the rules of the language give the same one,
unless a plus sign stands before a truth value.
-/
namespace Cascade.Meaning

open Source

structure Rules where
  unary : UnaryOp → Datum → Outcome Datum
  binary : BinaryOp → Datum → Datum → Outcome Datum
  compare : CompareOp → Datum → Datum → Outcome Datum
  junction : BoolOp → Outcome Datum → List (Outcome Datum) → Outcome Datum

def Datum.number : Datum → Int
  | int value => value
  | truth value => if value then 1 else 0

namespace Rules

def arithmetic (a b : Int) : BinaryOp → Outcome Datum
  | .add => .ok (.int (a + b))
  | .sub => .ok (.int (a - b))
  | .mult => .ok (.int (a * b))
  | .floorDiv => if b = 0 then .error .undefined else .ok (.int (a.fdiv b))
  | .mod => if b = 0 then .error .undefined else .ok (.int (a.fmod b))
  | .pow => if b < 0 then .error .undefined else .ok (.int (a ^ b.toNat))
  | _ => .error .undefined

def ordering (a b : Int) : CompareOp → Outcome Datum
  | .eq => .ok (.truth (a = b))
  | .notEq => .ok (.truth (a ≠ b))
  | .lt => .ok (.truth (a < b))
  | .ltEq => .ok (.truth (a ≤ b))
  | .gt => .ok (.truth (b < a))
  | .gtEq => .ok (.truth (b ≤ a))
  | _ => .error .undefined

def both : BoolOp → Datum → Datum → Outcome Datum
  | .conj, .truth a, .truth b => .ok (.truth (a && b))
  | .disj, .truth a, .truth b => .ok (.truth (a || b))
  | _, _, _ => .error .undefined

def decisive : BoolOp → Bool
  | .conj => false
  | .disj => true

def either (op : BoolOp) (first second : Outcome Datum) : Outcome Datum := do
  let v ← first
  if v.holds = decisive op then .ok v else second

def eitherOf (op : BoolOp) : Outcome Datum → List (Outcome Datum) → Outcome Datum
  | first, [] => first
  | first, next :: rest => either op first (eitherOf op next rest)

def reference : Rules where
  unary
    | .plus, v => .ok v
    | .minus, .int n => .ok (.int (-n))
    | .negation, .truth b => .ok (.truth (!b))
    | _, _ => .error .undefined
  binary
    | op, .int a, .int b => arithmetic a b op
    | .bitAnd, .truth a, .truth b => .ok (.truth (a && b))
    | .bitOr, .truth a, .truth b => .ok (.truth (a || b))
    | _, _, _ => .error .undefined
  compare
    | op, .int a, .int b => ordering a b op
    | .eq, .truth a, .truth b => .ok (.truth (a = b))
    | .notEq, .truth a, .truth b => .ok (.truth (a ≠ b))
    | _, _, _ => .error .undefined
  junction op first rest := rest.foldl (fun result v => do both op (← result) (← v)) first

/-- The rules of the language, as far as integers and truth values go. -/
def language : Rules where
  unary
    | .plus, .int n => .ok (.int n)
    | .plus, .truth _ => .error .plusOnTruth
    | .minus, v => .ok (.int (-v.number))
    | .negation, v => .ok (.truth (!v.holds))
    | .invert, v => .ok (.int (-v.number - 1))
  binary
    | .bitAnd, .truth a, .truth b => .ok (.truth (a && b))
    | .bitOr, .truth a, .truth b => .ok (.truth (a || b))
    | .bitAnd, a, b => .ok (.int (a.number.land b.number))
    | .bitOr, a, b => .ok (.int (a.number.lor b.number))
    | op, a, b => arithmetic a.number b.number op
  compare op a b := ordering a.number b.number op
  junction := eitherOf

end Rules

/-- What the names of a function body stand for: its own variables, or values of the program. -/
structure Context where
  locals : List String
  names : Namespace

namespace Context

def valueOf : Option Value → Outcome Datum
  | some (.scalar c) => Datum.ofScalar c
  | _ => .error .undefined

def elementsOf : Option Value → Outcome (List Datum)
  | some (.list items) | some (.tuple items) => gather (items.map fun item => valueOf (some item))
  | _ => .error .undefined

def read (c : Context) (σ : Store) (id : String) : Outcome Datum :=
  if id ∈ c.locals then σ.read id else valueOf (c.names.get? id)

variable {c : Context} {σ : Store} {id : String}

theorem read_of_mem (own : id ∈ c.locals) : c.read σ id = σ.read id :=
  if_pos own

theorem read_of_notMem (free : id ∉ c.locals) : c.read σ id = valueOf (c.names.get? id) :=
  if_neg free

end Context

def ranged : List Datum → Outcome (List Datum)
  | [.int stop] => .ok ((progression 0 stop 1).map .int)
  | [.int start, .int stop] => .ok ((progression start stop 1).map .int)
  | [.int start, .int stop, .int step] =>
    if step = 0 then .error .undefined else .ok ((progression start stop step).map .int)
  | _ => .error .undefined

def assignTo (targets : List Expr) (v : Outcome Datum) (σ : Store) : Outcome Progress :=
  match targets with
  | [.name id _] => do return .running (σ.set id (← v))
  | _ => .error .undefined

def loopOver (target : Expr) (body : Store → Outcome Progress) (vs : Outcome (List Datum))
    (σ : Store) : Outcome Progress :=
  match target with
  | .name id _ => do each id body (← vs) σ
  | _ => .error .undefined

namespace Rules

variable (r : Rules)

def link (op : CompareOp) (left right : Outcome Datum) : Outcome Datum := do
  r.compare op (← left) (← right)

mutual

/-- A comparison chain means the conjunction of its links. -/
def value (read : String → Outcome Datum) : Expr → Outcome Datum
  | .name id _ => read id
  | .constant c => Datum.ofScalar c
  | .unary op e => do r.unary op (← value read e)
  | .binary op left right => do r.binary op (← value read left) (← value read right)
  | .junction op first rest => r.junction op (value read first) (values read rest)
  | .compare left op right rest =>
    r.junction .conj (r.link op (value read left) (value read right))
      (links read (value read right) rest)
  | _ => .error .undefined

def values (read : String → Outcome Datum) : List Expr → List (Outcome Datum)
  | [] => []
  | e :: es => value read e :: values read es

def links (read : String → Outcome Datum) (left : Outcome Datum) :
    List (Comparison Expr) → List (Outcome Datum)
  | [] => []
  | ⟨op, right⟩ :: rest => r.link op left (value read right) :: links read (value read right) rest

end

def elements (c : Context) (σ : Store) : Expr → Outcome (List Datum)
  | .call (.name id _) args [] =>
    if id ∉ c.locals ∧ Lowering.isRange c.names id then do
      ranged (← gather (r.values (c.read σ) args))
    else .error .undefined
  | .list es | .tuple es => gather (r.values (c.read σ) es)
  | .name id _ => if id ∈ c.locals then .error .undefined else Context.elementsOf (c.names.get? id)
  | _ => .error .undefined

mutual

def step (c : Context) : Stmt → Store → Outcome Progress
  | .assign targets e => fun σ => assignTo targets (r.value (c.read σ) e) σ
  | .annAssign target _ (some e) _ => fun σ => assignTo [target] (r.value (c.read σ) e) σ
  | .annAssign _ _ none _ => fun σ => .ok (.running σ)
  | .augAssign target op e => fun σ =>
    assignTo [target] (do r.binary op (← r.value (c.read σ) target) (← r.value (c.read σ) e)) σ
  | .branch test body orelse => fun σ => do
    if (← r.value (c.read σ) test).holds then block c body σ else block c orelse σ
  | .forLoop target iterator body orelse => fun σ =>
    andThen (loopOver target (block c body) (r.elements c σ iterator) σ) (block c orelse)
  | .ret none => fun σ => .ok (.returned none σ)
  | .ret (some e) => fun σ => do return .returned (some (← r.value (c.read σ) e)) σ
  | .pass => fun σ => .ok (.running σ)
  | .expr e => fun σ => do
    let _ ← r.value (c.read σ) e
    return .running σ
  | .function .. | .asyncFunction .. | .classDef .. | .whileLoop .. | .refused .. =>
    fun _ => .error .undefined

def block (c : Context) : List Stmt → Store → Outcome Progress
  | [] => fun σ => .ok (.running σ)
  | s :: ss => fun σ => andThen (step c s σ) (block c ss)

end

/-- The statements of a function.  An expression at the end gives the result. -/
def body (c : Context) : List Stmt → Store → Outcome Progress
  | [] => fun σ => .ok (.running σ)
  | s :: ss => fun σ =>
    match s with
    | .expr e =>
      if ss.all Stmt.isPass then do return .returned (some (← r.value (c.read σ) e)) σ
      else andThen (r.step c (.expr e) σ) (body c ss)
    | s => andThen (r.step c s σ) (body c ss)

def run (c : Context) (routine : Routine) (σ : Store) : Outcome Progress :=
  match routine.body with
  | .expression e => do return .returned (some (← r.value (c.read σ) e)) σ
  | .block [] => .ok (.running σ)
  | .block (s :: ss) => if s.isDocstring then r.body c ss σ else r.body c (s :: ss) σ

end Rules

end Cascade.Meaning
