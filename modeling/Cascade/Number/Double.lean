import Cascade.Number.Shortest

set_option autoImplicit false

namespace Cascade

inductive Double where
  | nan
  | infinite (negative : Bool)
  | finite (value : Decimal)
deriving DecidableEq, Inhabited

namespace Double

def isFinite : Double → Bool
  | finite _ => true
  | _ => false

def negate : Double → Double
  | nan => nan
  | infinite negative => infinite (!negative)
  | finite value => finite value.negate

def textWith (whole : List Char) : Double → String
  | nan => "nan"
  | infinite false => "inf"
  | infinite true => "-inf"
  | finite value => String.ofList (value.textWith whole)

def text (x : Double) : String :=
  x.textWith ['.', '0']

def ofBits (bits : Nat) : Double :=
  let negative := bits / Nat.pow 2 63 % 2 == 1
  let biased := bits / Nat.pow 2 52 % Nat.pow 2 11
  let fraction := bits % Nat.pow 2 52
  if biased == 2047 then
    if fraction == 0 then infinite negative else nan
  else if biased == 0 then
    if fraction == 0 then finite (Decimal.normalize negative 0 0)
    else finite (Binary.shortest ⟨fraction, -1074, false⟩ negative)
  else
    finite (Binary.shortest ⟨Nat.pow 2 52 + fraction, (biased : Int) - 1075,
      fraction == 0 && biased != 1⟩ negative)

/-- Beyond this power of ten every number overflows, and below its inverse underflows. -/
def maxMagnitude : Int := 400

def nearest (negative : Bool) (digits : Nat) (exponent : Int) : Double :=
  let point := (Decimal.naturalText digits).length + exponent
  if digits == 0 || point < -maxMagnitude then finite (Decimal.normalize negative 0 0)
  else if maxMagnitude < point then infinite negative
  else
    let size := Float.ofScientific digits (exponent < 0) exponent.natAbs
    match ofBits size.toBits.toNat with
    | finite value => finite { value with negative := negative }
    | infinite _ => infinite negative
    | nan => nan

def spanDigits (cs : List Char) : List Char × List Char :=
  (cs.takeWhile Char.isDigit, cs.dropWhile Char.isDigit)

def digitsValue (cs : List Char) : Nat :=
  cs.foldl (fun n c => 10 * n + (c.toNat - 48)) 0

def readExponent? : List Char → Option Int
  | [] => some 0
  | mark :: cs =>
    if mark != 'e' then none
    else
      let (negative, ds) := match cs with
        | '-' :: ds => (true, ds)
        | '+' :: ds => (false, ds)
        | ds => (false, ds)
      if ds.isEmpty || !ds.all Char.isDigit then none
      else some (if negative then -(digitsValue ds : Int) else digitsValue ds)

def readMagnitude? (negative : Bool) (cs : List Char) : Option Double := do
  let (whole, rest) := spanDigits cs
  let (fraction, rest) := match rest with
    | '.' :: rest => spanDigits rest
    | rest => ([], rest)
  if whole.isEmpty then none
  else
    let exponent ← readExponent? rest
    some (nearest negative (digitsValue (whole ++ fraction)) (exponent - fraction.length))

def read? (s : String) : Option Double :=
  let (negative, cs) := match s.toList with
    | '-' :: cs => (true, cs)
    | cs => (false, cs)
  if cs == "inf".toList then some (infinite negative)
  else if cs == "nan".toList then some nan
  else readMagnitude? negative cs

end Double

end Cascade
