import Cascade.Text.Blank
import Cascade.Text.Digit

set_option autoImplicit false

namespace Cascade.Text

/-- White space around an integer.  The information separators do not count. -/
def isIntegerMargin (c : Char) : Bool :=
  isBlank c && !(0x1C ≤ c.toNat && c.toNat ≤ 0x1F)

def readDigits? : List Char → Option (List Nat)
  | [] => none
  | [c] => (digitValue? c).map ([·])
  | c :: '_' :: cs => do return (← digitValue? c) :: (← readDigits? cs)
  | c :: cs => do return (← digitValue? c) :: (← readDigits? cs)

def ofDigits (ds : List Nat) : Nat :=
  ds.foldl (fun n d => 10 * n + d) 0

def maxDigits : Nat := 4300

def digitsMessage : String :=
  s!"Exceeds the limit ({maxDigits} digits) for integer string conversion; " ++
    "use sys.set_int_max_str_digits() to increase the limit"

def firstLong : Nat := Nat.pow 10 maxDigits

def isShort (n : Int) : Bool :=
  n.natAbs < firstLong

def readNatural? (cs : List Char) : Option Nat := do
  let ds ← readDigits? cs
  if ds.length ≤ maxDigits then some (ofDigits ds) else none

def readInteger? (s : String) : Option Int :=
  match trimChars isIntegerMargin s.toList with
  | '-' :: cs => (readNatural? cs).map fun n => -(n : Int)
  | '+' :: cs => (readNatural? cs).map Int.ofNat
  | cs => (readNatural? cs).map Int.ofNat

end Cascade.Text
