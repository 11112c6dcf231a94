import Cascade.Node.Basic

set_option autoImplicit false

namespace Cascade

inductive Wire where
  | scalar (value : Scalar)
  | list (items : List Wire)
  | record (fields : List (String × Wire))
deriving Inhabited

namespace Wire

def text (s : String) : Wire := scalar (.str s)

def number (n : Int) : Wire := scalar (.int n)

end Wire

inductive Position where
  | statement | operand
deriving DecidableEq, Inhabited

namespace Formals

def wire : Formals → Wire
  | names list => .list (list.map Wire.text)
  | marker text => Wire.text text

end Formals

namespace Node

/-- The kind under which a constant is sent.  Truth values are not numbers. -/
def literalKind : Scalar → String
  | .bool _ => "boolean"
  | .str _ => "string"
  | _ => "numeric"

/-- The engine looks a symbol up under its name behind a dollar sign. -/
def symbolText (name : String) : String :=
  "$" ++ name

mutual

/-- The wire structure of a node.  In operand position a bare symbol is sent as its look-up text
alone. -/
def wireAt (position : Position) : Node → Wire
  | literal value => .record [("type", Wire.text (literalKind value)), ("value", .scalar value)]
  | symbol name =>
    match position with
    | .statement => .record [("symbols", Wire.text (symbolText name))]
    | .operand => Wire.text (symbolText name)
  | operation op fixity operands =>
    .record [("astop", .record [("operator", Wire.text op), ("fixity", Wire.text fixity.text),
      ("operands", .list (wiresAt .operand operands))])]
  | function name formals body =>
    .record [("alias", Wire.text name), ("free_variables", formals.wire),
      ("body", .list (wiresAt .statement body))]
  | call callee operands definition =>
    .record [("call", .record (("alias", Wire.text callee) ::
      ("operands", .list (wiresAt .operand operands)) :: definitionField definition))]
  | assign name value =>
    .record [("assign", .record [("symbol", Wire.text name), ("value", wireAt .operand value)])]
  | branch condition body orelse =>
    .record [("if", .record (("condition", wireAt .operand condition) ::
      ("body", .list (wiresAt .statement body)) :: elseField orelse))]
  | otherwise body => .record [("else", .record [("body", .list (wiresAt .statement body))])]
  | loop counter iterator body =>
    .record [("for", .record [("variable", Wire.text counter),
      ("iterator", wireAt .statement iterator), ("body", .list (wiresAt .statement body))])]
  | ret value => .record [("return", valueWire value)]
  | range start stop step =>
    .record [("range", .record [("start", Wire.number start), ("stop", Wire.number stop),
      ("step", Wire.number step)])]
  | sequence values => .record [("sequence", .list (wiresAt .statement values))]

def wiresAt (position : Position) : List Node → List Wire
  | [] => []
  | n :: ns => wireAt position n :: wiresAt position ns

def definitionField : Option Node → List (String × Wire)
  | none => []
  | some n => [("definition", wireAt .statement n)]

def elseField : Option (List Node) → List (String × Wire)
  | none => []
  | some body => [("else", .record [("body", .list (wiresAt .statement body))])]

def valueWire : Option Node → Wire
  | none => .scalar .none
  | some n => wireAt .operand n

end

def wire (n : Node) : Wire :=
  n.wireAt .statement

end Node

end Cascade
