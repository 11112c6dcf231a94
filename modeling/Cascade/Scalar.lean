import Cascade.Number.Double
import Cascade.Text.Quoted

set_option autoImplicit false

namespace Cascade

inductive Scalar where
  | none
  | bool (value : Bool)
  | int (value : Int)
  | float (value : Double)
  | str (value : String)
  | imaginary (value : Double)
  | bytes (value : List UInt8)
  | ellipsis
deriving DecidableEq, Inhabited

namespace Scalar

def typeName : Scalar → String
  | none => "NoneType"
  | bool _ => "bool"
  | int _ => "int"
  | float _ => "float"
  | str _ => "str"
  | imaginary _ => "complex"
  | bytes _ => "bytes"
  | ellipsis => "ellipsis"

def text : Scalar → String
  | none => "None"
  | bool true => "True"
  | bool false => "False"
  | int value => toString value
  | float value => value.text
  | str value => Text.quoted value
  | imaginary value => value.textWith [] ++ "j"
  | bytes value => Text.quotedBytes value
  | ellipsis => "Ellipsis"

def isPrimitive : Scalar → Bool
  | bool _ | int _ | float _ | str _ => true
  | _ => false

/-- The value of an integer constant; truth values do not count as integers. -/
def int? : Scalar → Option Int
  | int value => some value
  | _ => Option.none

def negate? : Scalar → Option Scalar
  | int value => some (int (-value))
  | float value => some (float value.negate)
  | _ => Option.none

end Scalar

end Cascade
