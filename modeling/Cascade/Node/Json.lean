import Cascade.Node.Wire
import Cascade.Text.Integer

set_option autoImplicit false

namespace Cascade

inductive JsonFault where
  | notEncodable (typeName : String)
  | outOfRange
  | tooManyDigits
  | indentOverflow
deriving DecidableEq, Inhabited

namespace JsonFault

def message : JsonFault → String
  | notEncodable typeName => s!"Object of type {typeName} is not JSON serializable"
  | outOfRange => "Out of range float values are not JSON compliant"
  | tooManyDigits => Text.digitsMessage
  | indentOverflow => "cannot fit 'int' into an index-sized integer"

end JsonFault

namespace Wire

def jsonUnit (n : Nat) : List Char :=
  '\\' :: 'u' :: Text.hexDigits 4 n

/-- One character of a JSON string.  Characters beyond the first plane are written as a pair of
surrogates. -/
def jsonChar (c : Char) : List Char :=
  let n := c.toNat
  if c == '"' || c == '\\' then ['\\', c]
  else if c == '\n' then ['\\', 'n']
  else if c == '\r' then ['\\', 'r']
  else if c == '\t' then ['\\', 't']
  else if n == 8 then ['\\', 'b']
  else if n == 12 then ['\\', 'f']
  else if 0x20 ≤ n && n < 0x7F then [c]
  else if n < 0x10000 then jsonUnit n
  else jsonUnit (0xD800 + (n - 0x10000) / 0x400) ++ jsonUnit (0xDC00 + (n - 0x10000) % 0x400)

def jsonString (s : String) : List Char :=
  '"' :: s.toList.flatMap jsonChar ++ ['"']

/-- The text of a constant.  Those without one are refused before. -/
def jsonScalar : Scalar → List Char
  | .bool true => "true".toList
  | .bool false => "false".toList
  | .int value => (toString value).toList
  | .float value => value.text.toList
  | .str value => jsonString value
  | .none | .imaginary _ | .bytes _ | .ellipsis => "null".toList

def scalarFault? : Scalar → Option JsonFault
  | .float value => if value.isFinite then none else some .outOfRange
  | .none | .bool _ | .int _ | .str _ => none
  | value => some (.notEncodable value.typeName)

def jsonBreak (indent : Option Nat) (level : Nat) : List Char :=
  match indent with
  | none => []
  | some width => '\n' :: List.replicate (width * level) ' '

def jsonSeparator (indent : Option Nat) (level : Nat) : List Char :=
  match indent with
  | none => [',', ' ']
  | some width => ',' :: jsonBreak (some width) level

mutual

def scalars : Wire → List Scalar
  | scalar value => [value]
  | list items => scalarsList items
  | record fields => scalarsFields fields

def scalarsList : List Wire → List Scalar
  | [] => []
  | w :: ws => scalars w ++ scalarsList ws

def scalarsFields : List (String × Wire) → List Scalar
  | [] => []
  | (_, w) :: fields => scalars w ++ scalarsFields fields

end

mutual

/-- The text of a structure whose items stand one level below `level`. -/
def jsonChars (indent : Option Nat) (level : Nat) : Wire → List Char
  | scalar value => jsonScalar value
  | list [] => ['[', ']']
  | list (w :: ws) =>
    '[' :: jsonBreak indent (level + 1) ++ jsonChars indent (level + 1) w ++
      jsonItems indent (level + 1) ws ++ jsonBreak indent level ++ [']']
  | record [] => ['{', '}']
  | record ((key, w) :: fields) =>
    '{' :: jsonBreak indent (level + 1) ++ jsonString key ++ ':' :: ' ' ::
      jsonChars indent (level + 1) w ++ jsonFields indent (level + 1) fields ++
      jsonBreak indent level ++ ['}']

def jsonItems (indent : Option Nat) (level : Nat) : List Wire → List Char
  | [] => []
  | w :: ws => jsonSeparator indent level ++ jsonChars indent level w ++ jsonItems indent level ws

def jsonFields (indent : Option Nat) (level : Nat) : List (String × Wire) → List Char
  | [] => []
  | (key, w) :: fields =>
    jsonSeparator indent level ++ jsonString key ++ ':' :: ' ' :: jsonChars indent level w ++
      jsonFields indent level fields

end

/-- The text of a structure, unless one of its constants cannot be written; the first one in reading
order is reported.  A negative indent is no indent within its line. -/
def textUnless (fault? : Scalar → Option JsonFault) (w : Wire) (indent : Option Int) :
    Except JsonFault String :=
  match w.scalars.findSome? fault? with
  | some fault => .error fault
  | none => .ok (String.ofList (w.jsonChars (indent.map Int.toNat) 0))

def json? (w : Wire) (indent : Option Int) : Except JsonFault String :=
  textUnless scalarFault? w indent

/-- Why a constant is not written, if it is not: integers of many digits have a text, but it is
refused. -/
def payloadFault? : Scalar → Option JsonFault
  | .int value => if Text.isShort value then none else some .tooManyDigits
  | value => scalarFault? value

def isIndent (n : Int) : Bool :=
  -0x8000000000000000 ≤ n && n < 0x8000000000000000

def payload? (w : Wire) (indent : Option Int) : Except JsonFault String :=
  if indent.all isIndent then textUnless payloadFault? w indent else .error .indentOverflow

end Wire

namespace Node

def json? (n : Node) (indent : Option Int) : Except JsonFault String :=
  n.wire.json? indent

def payload? (n : Node) (indent : Option Int) : Except JsonFault String :=
  n.wire.payload? indent

end Node

end Cascade
