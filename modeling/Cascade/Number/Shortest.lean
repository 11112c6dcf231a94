import Cascade.Number.Decimal

set_option autoImplicit false

/-! The shortest decimal that reads back as a given binary number.  A positive binary number
`mantissa * 2 ^ exponent` stands for all reals that round to it; of the decimals among them
with the fewest digits the nearest one is chosen. -/
namespace Cascade

/-- The positive number `mantissa * 2 ^ exponent`.  The gap below it is half as wide when it is
the least number of its binade. -/
structure Binary where
  mantissa : Nat
  exponent : Int
  narrow : Bool

namespace Binary

/-- The reals that round to a number, on a decimal grid of step `10 ^ place`, all values
multiplied by a common factor that makes them integers. -/
structure Grid where
  low : Nat
  value : Nat
  high : Nat
  step : Nat
  closed : Bool

def grid (b : Binary) (place : Int) : Grid :=
  let scale := Nat.pow 2 (b.exponent - 2).toNat * Nat.pow 10 (-place).toNat
  { low := (4 * b.mantissa - if b.narrow then 1 else 2) * scale
    value := 4 * b.mantissa * scale
    high := (4 * b.mantissa + 2) * scale
    step := Nat.pow 10 place.toNat * Nat.pow 2 (2 - b.exponent).toNat
    closed := b.mantissa % 2 == 0 }

namespace Grid

def admits (g : Grid) (point : Nat) : Bool :=
  let p := point * g.step
  if g.closed then g.low ≤ p && p ≤ g.high else g.low < p && p < g.high

/-- The neighbour of the value that reads back, the nearer one if both do and the even one if
they are equally near. -/
def best? (g : Grid) : Option Nat :=
  let below := g.value / g.step
  let above := below + 1
  match g.admits below, g.admits above with
  | false, false => none
  | true, false => some below
  | false, true => some above
  | true, true =>
    let down := g.value - below * g.step
    let up := above * g.step - g.value
    if down < up then some below
    else if up < down then some above
    else if below % 2 == 0 then some below else some above

end Grid

def atLeast (b : Binary) (e : Int) : Bool :=
  Nat.pow 10 e.toNat * Nat.pow 2 (-b.exponent).toNat ≤
    b.mantissa * Nat.pow 2 b.exponent.toNat * Nat.pow 10 (-e).toNat

/-- The number of digits before the point: the number is below `10 ^ magnitude`, and not below
a tenth of that. -/
def magnitude (b : Binary) : Int :=
  let guess := ((b.exponent + b.mantissa.log2) * 30103).fdiv 100000
  if b.atLeast (guess + 1) then guess + 2 else if b.atLeast guess then guess + 1 else guess

/-- Seventeen digits identify every number of double precision. -/
def maxPlaces : Nat := 17

def shortest (b : Binary) (negative : Bool) : Decimal :=
  let top := b.magnitude
  let found := (List.range maxPlaces).findSome? fun (n : Nat) =>
    let place := top - (n + 1)
    ((b.grid place).best?).map fun point => (point, place)
  match found with
  | some (point, place) => Decimal.normalize negative point place
  | none => Decimal.normalize negative 0 0

end Binary

end Cascade
