import Cascade.Node.Basic
import Mathlib.Algebra.Group.Int.Defs

set_option autoImplicit false

/-!
# The meaning of lowered programs

Programs over integers and truth values.  Arithmetic and ordering are defined on integers, equality
on values of one kind, connectives on truth values and with all their operands.  Whatever else a
program asks for is undefined.
-/
namespace Cascade.Meaning

inductive Datum where
  | int (value : Int)
  | truth (value : Bool)
deriving DecidableEq

inductive Stop where
  | undefined
  | plusOnTruth
deriving DecidableEq

abbrev Outcome := Except Stop

@[simp] theorem ok_bind {α β : Type} (v : α) (f : α → Outcome β) : (.ok v >>= f) = f v := rfl

abbrev Store := String → Option Datum

inductive Progress where
  | running (σ : Store)
  | returned (value : Option Datum) (σ : Store)

namespace Datum

def holds : Datum → Bool
  | int value => value != 0
  | truth value => value

def ofScalar : Scalar → Outcome Datum
  | .int value => .ok (int value)
  | .bool value => .ok (truth value)
  | _ => .error .undefined

end Datum

namespace Store

def read (σ : Store) (x : String) : Outcome Datum :=
  match σ x with
  | some v => .ok v
  | none => .error .undefined

def set (σ : Store) (x : String) (v : Datum) : Store :=
  fun y => if y = x then some v else σ y

end Store

def andThen (before : Outcome Progress) (next : Store → Outcome Progress) : Outcome Progress := do
  match ← before with
  | .running σ => next σ
  | .returned v σ => return .returned v σ

theorem andThen_idle (before : Outcome Progress) :
    andThen before (fun σ => .ok (.running σ)) = before := by
  cases before with
  | error cause => rfl
  | ok progress => cases progress <;> rfl

def each (x : String) (body : Store → Outcome Progress) : List Datum → Store → Outcome Progress
  | [], σ => .ok (.running σ)
  | v :: vs, σ => andThen (body (σ.set x v)) (each x body vs)

def gather : List (Outcome Datum) → Outcome (List Datum)
  | [] => .ok []
  | x :: xs => do
    let v ← x
    let vs ← gather xs
    return v :: vs

def progression (start stop step : Int) : List Int :=
  let count := if 0 < step then (stop - start + step - 1) / step
    else (start - stop - step - 1) / -step
  (List.range count.toNat).map fun (i : Nat) => start + i * step

namespace Engine

def onInts (token : String) (a b : Int) : Outcome Datum :=
  match token with
  | "+" => .ok (.int (a + b))
  | "-" => .ok (.int (a - b))
  | "*" => .ok (.int (a * b))
  | "%/%" => if b = 0 then .error .undefined else .ok (.int (a.fdiv b))
  | "%%" => if b = 0 then .error .undefined else .ok (.int (a.fmod b))
  | "^" => if b < 0 then .error .undefined else .ok (.int (a ^ b.toNat))
  | "==" => .ok (.truth (a = b))
  | "!=" => .ok (.truth (a ≠ b))
  | "<" => .ok (.truth (a < b))
  | "<=" => .ok (.truth (a ≤ b))
  | ">" => .ok (.truth (b < a))
  | ">=" => .ok (.truth (b ≤ a))
  | _ => .error .undefined

def onTruths (token : String) (a b : Bool) : Outcome Datum :=
  match token with
  | "&" => .ok (.truth (a && b))
  | "|" => .ok (.truth (a || b))
  | "==" => .ok (.truth (a = b))
  | "!=" => .ok (.truth (a ≠ b))
  | _ => .error .undefined

def apply (token : String) : List Datum → Outcome Datum
  | [.int a, .int b] => onInts token a b
  | [.truth a, .truth b] => onTruths token a b
  | [.truth a] => if token = "!" then .ok (.truth (!a)) else .error .undefined
  | _ => .error .undefined

mutual

def value (σ : Store) : Node → Outcome Datum
  | .literal c => Datum.ofScalar c
  | .symbol x => σ.read x
  | .operation token _ operands => do apply token (← gather (values σ operands))
  | _ => .error .undefined

def values (σ : Store) : List Node → List (Outcome Datum)
  | [] => []
  | n :: ns => value σ n :: values σ ns

end

def elements (σ : Store) : Node → Outcome (List Datum)
  | .range start stop step => .ok ((progression start stop step).map .int)
  | .sequence ns => gather (values σ ns)
  | _ => .error .undefined

mutual

def exec : Node → Store → Outcome Progress
  | .assign x n => fun σ => do return .running (σ.set x (← value σ n))
  | .branch condition yes no => fun σ => do
    if (← value σ condition).holds then execs yes σ else execElse no σ
  | .loop x iterator body => fun σ => do each x (execs body) (← elements σ iterator) σ
  | .ret none => fun σ => .ok (.returned none σ)
  | .ret (some n) => fun σ => do return .returned (some (← value σ n)) σ
  | n => fun σ => do
    let _ ← value σ n
    return .running σ

def execs : List Node → Store → Outcome Progress
  | [] => fun σ => .ok (.running σ)
  | n :: ns => fun σ => andThen (exec n σ) (execs ns)

def execElse : Option (List Node) → Store → Outcome Progress
  | none => fun σ => .ok (.running σ)
  | some body => execs body

end

section

variable (σ : Store)

theorem value_binary (token : String) (fixity : Fixity) (a b : Node) :
    value σ (.operation token fixity [a, b]) =
      (do apply token [← value σ a, ← value σ b]) := by
  simp only [value, values, gather]
  cases value σ a with
  | error cause => rfl
  | ok v =>
    cases value σ b with
    | error cause => rfl
    | ok w => rfl

theorem value_unary (token : String) (fixity : Fixity) (a : Node) :
    value σ (.operation token fixity [a]) =
      (do apply token [← value σ a]) := by
  simp only [value, values, gather]
  cases value σ a with
  | error cause => rfl
  | ok v => rfl

theorem values_literals (constants : List Scalar) :
    values σ (constants.map .literal) = constants.map Datum.ofScalar := by
  induction constants with
  | nil => rfl
  | cons constant constants ih => exact congrArg (Datum.ofScalar constant :: ·) ih

theorem execs_singleton (n : Node) : execs [n] σ = exec n σ :=
  andThen_idle _

theorem execs_append (ns ms : List Node) :
    execs (ns ++ ms) σ = andThen (execs ns σ) (execs ms) := by
  induction ns generalizing σ with
  | nil => rfl
  | cons n ns ih =>
    change andThen (exec n σ) (execs (ns ++ ms)) =
      andThen (andThen (exec n σ) (execs ns)) (execs ms)
    cases exec n σ with
    | error cause => rfl
    | ok progress =>
      cases progress with
      | running τ => exact ih τ
      | returned v τ => rfl

end

end Engine

end Cascade.Meaning
