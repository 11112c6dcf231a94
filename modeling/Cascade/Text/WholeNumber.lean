import Cascade.Text.Integer
import Cascade.Text.Split

set_option autoImplicit false

/-! Whole numbers as arguments give them: ASCII digits, perhaps with leading zeros, decimals that
are all zero, single underscores, a sign and white space around.  The plain form has none of
these but a minus sign. -/
namespace Cascade.Text

def isAsciiDigit (c : Char) : Bool :=
  '0' ≤ c && c ≤ '9'

def isPlainNatural (cs : List Char) : Bool :=
  !cs.isEmpty && cs.all isAsciiDigit && (cs.length == 1 || cs.head? != some '0')

def plainValue (cs : List Char) : Nat :=
  ofDigits (cs.map fun c => c.toNat - '0'.toNat)

def readPlain? (cs : List Char) : Option Int :=
  if maxDigits < cs.length then none
  else
    match cs with
    | '-' :: ds => if isPlainNatural ds then some (-(plainValue ds : Int)) else none
    | ds => if isPlainNatural ds then some (plainValue ds) else none

/-- The text behind the zeros and underscores at its head, of which `last` is the one just read.
One of them stays before a point or at the end. -/
def behindZeros? (last : Char) : List Char → Option (List Char)
  | [] => some [last]
  | c :: cs =>
    if c == '0' || c == '_' then behindZeros? c cs
    else if isAsciiDigit c then some (c :: cs)
    else if c == '.' then some (last :: c :: cs)
    else none

def dropLeadingZeros? : List Char → Option (List Char)
  | [] => none
  | c :: cs =>
    if c == '0' then behindZeros? c cs
    else if isAsciiDigit c then some (c :: cs)
    else none

def dropZeroDecimals (cs : List Char) : List Char :=
  match cs.dropWhile (· != '.') with
  | [] => cs
  | _ :: decimals => if decimals.all (· == '0') then cs.takeWhile (· != '.') else cs

def dropUnderscores (cs : List Char) : List Char :=
  if (splitWhere (· == '_') cs).any List.isEmpty then cs else cs.filter (· != '_')

def splitSign : List Char → List Char × List Char
  | '+' :: cs => ([], cs)
  | '-' :: cs => (['-'], cs)
  | cs => ([], cs)

def plainForm? (cs : List Char) : Option (List Char) :=
  let (sign, unsigned) := splitSign (trimChars isIntegerMargin cs)
  (dropLeadingZeros? unsigned).map fun ds => sign ++ dropUnderscores (dropZeroDecimals ds)

def readWhole? (s : String) : Option Int :=
  (readPlain? s.toList).or ((plainForm? s.toList).bind readPlain?)

end Cascade.Text
