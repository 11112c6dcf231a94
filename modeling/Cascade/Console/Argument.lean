import Cascade.Console.Token

set_option autoImplicit false

namespace Cascade.Console

inductive Argument where
  | constant (kind : ConstantKind)
  | tuple (items : List Argument)
  | set (items : List Argument)
  /-- Keys and values in turn. -/
  | dict (items : List Argument)
  | emptySet
  | signed (operand : Argument)
  | sum (left right : Argument)
  | name (text : String)
  | other (kind : String)
deriving Inhabited

namespace Argument

abbrev Read (α : Type) := List Token → Except ArgumentFault (α × List Token)

def stop {α : Type} (opened : List Char) (tokens : List Token) : Except ArgumentFault α :=
  match tokens, opened with
  | [], bracket :: _ => .error (.neverClosed bracket)
  | _, _ => .error .invalid

def reserved : List String :=
  ["and", "as", "assert", "async", "await", "break", "class", "continue", "def", "del", "elif",
    "else", "except", "finally", "for", "from", "global", "if", "import", "in", "is", "lambda",
    "nonlocal", "not", "or", "pass", "raise", "return", "try", "while", "with", "yield"]

def begins : Token → Bool
  | .constant _ => true
  | .name word => !reserved.contains word || word = "not"
  | .sign sign => ["(", "\x7b", "+", "-", "~", "..."].contains sign

/-- The kind of expression that a link between two operands makes, and what follows the link.  A sum
has no kind of its own here. -/
def link? : List Token → Option (Option String × List Token)
  | .name "not" :: .name "in" :: rest => some (some "Compare", rest)
  | .name "is" :: .name "not" :: rest => some (some "Compare", rest)
  | .name word :: rest =>
    if word = "is" || word = "in" then some (some "Compare", rest)
    else if word = "and" || word = "or" then some (some "BoolOp", rest)
    else if word = "if" || word = "else" then some (some "IfExp", rest)
    else none
  | .sign sign :: rest =>
    if sign = "+" || sign = "-" then some (none, rest)
    else if ["==", "!=", "<", "<=", ">", ">="].contains sign then some (some "Compare", rest)
    else if ["*", "/", "//", "%", "@", "**", "|", "^", "&", "<<", ">>"].contains sign then
      some (some "BinOp", rest)
    else none
  | _ => none

def readLinks (operand : Read Argument) : Nat → Argument → Read Argument
  | 0, left, tokens => .ok (left, tokens)
  | fuel + 1, left, tokens =>
    match link? tokens with
    | none => .ok (left, tokens)
    | some (kind, rest) => do
      let (right, rest) ← operand rest
      readLinks operand fuel (match kind with
        | none => sum left right
        | some kind => other kind) rest

def readTail (opened : List Char) (arguments : Read (List Argument × Bool)) :
    Nat → Argument → Read Argument
  | 0, left, tokens => .ok (left, tokens)
  | fuel + 1, left, tokens =>
    match tokens with
    | .sign "." :: .name _ :: rest => readTail opened arguments fuel (other "Attribute") rest
    | .sign "." :: rest => stop opened rest
    | .sign "(" :: rest => do
      let ((items, _), rest) ← arguments rest
      let isEmptySet := match left with
        | name text => text = "set" && items.isEmpty
        | _ => false
      readTail opened arguments fuel (if isEmptySet then emptySet else other "Call") rest
    | _ => .ok (left, tokens)

/-- The fault of an item that is followed by neither a comma nor its bracket.  Two expressions side
by side lack a comma; outside of brackets that is not worth a hint. -/
def besides {α : Type} (opened : List Char) (inBrackets : Bool) (next : Read Argument)
    (item rest : List Token) : Except ArgumentFault α :=
  let hint (fault : ArgumentFault) : Except ArgumentFault α :=
    .error (if inBrackets then fault else .invalid)
  match item, rest with
  | _, [] => stop opened []
  | .name _ :: .sign "=" :: _, _ => hint .assignment
  | .name _ :: .constant .text :: _, _ => .error .invalid
  | _, token :: _ =>
    if !begins token then .error .invalid
    else
      match next rest with
      | .ok (_, []) => stop opened []
      | .ok _ => hint .missingComma
      | .error (.neverClosed bracket) => .error (.neverClosed bracket)
      | .error .missingComma => .error .missingComma
      | .error _ => .error .invalid

/-- Items with commas between them up to a closing bracket or up to the end, and whether a comma
comes right before it. -/
def readItems (opened : List Char) (closing : Option Token) (next : Read Argument)
    (item : Read (List Argument)) : Nat → Read (List Argument × Bool)
  | 0, tokens => stop opened tokens
  | fuel + 1, tokens =>
    if tokens.head? = closing then .ok (([], true), tokens.drop 1)
    else do
      let (values, rest) ← item tokens
      if rest.head? = some (.sign ",") then
        let ((more, comma), rest) ← readItems opened closing next item fuel (rest.drop 1)
        return ((values ++ more, comma || more.isEmpty), rest)
      else if rest.head? = closing then return ((values, false), rest.drop 1)
      else besides opened closing.isSome next tokens rest

def listItem (next : Read Argument) : Read (List Argument)
  | .sign "*" :: rest => (next rest).map fun (_, rest) => ([other "Starred"], rest)
  | tokens => (next tokens).map fun (value, rest) => ([value], rest)

def callItem (next : Read Argument) : Read (List Argument)
  | .sign "**" :: rest => listItem next rest
  | .name _ :: .sign "=" :: rest => listItem next rest
  | tokens => listItem next tokens

def dictItem (opened : List Char) (next : Read Argument) (tokens : List Token) :
    Except ArgumentFault (List Argument × List Token) := do
  let (key, rest) ← next tokens
  match rest with
  | .sign ":" :: rest =>
    let (value, rest) ← next rest
    return ([key, value], rest)
  | rest => stop opened rest

def readGroup (opened : List Char) (next : Read Argument) (fuel : Nat) (tokens : List Token) :
    Except ArgumentFault (Argument × List Token) := do
  let ((items, comma), rest) ← readItems opened (some (.sign ")")) next (listItem next) fuel
    tokens
  match items, comma with
  | [other "Starred"], false => .error .starred
  | [item], false => return (item, rest)
  | items, _ => return (tuple items, rest)

/-- What stands in braces: a set, or a dictionary if a colon follows its first item. -/
def readBraces (opened : List Char) (next : Read Argument) (fuel : Nat) (tokens : List Token) :
    Except ArgumentFault (Argument × List Token) :=
  let isDict := tokens.head? = some (.sign "\x7d") || match next tokens with
    | .ok (_, .sign ":" :: _) => true
    | _ => false
  let closing := some (.sign "\x7d")
  if isDict then
    (readItems opened closing next (dictItem opened next) fuel tokens).map fun ((items, _), rest) =>
      (dict items, rest)
  else
    (readItems opened closing next (listItem next) fuel tokens).map fun ((items, _), rest) =>
      (set items, rest)

/-- Texts that stand side by side are one. -/
def dropTexts (kind : ConstantKind) (tokens : List Token) : List Token :=
  if kind = .text || kind = .bytes then tokens.dropWhile (· = .constant kind) else tokens

def readOperand (opened : List Char) (next : Read Argument) (fuel : Nat) : Read Argument
  | .sign sign :: rest =>
    if sign = "+" || sign = "-" then do
      let (operand, rest) ← readOperand opened next fuel rest
      return (signed operand, rest)
    else if sign = "~" then do
      let (_, rest) ← readOperand opened next fuel rest
      return (other "UnaryOp", rest)
    else if sign = "..." then tail (constant .text) rest
    else if sign = "(" then do
      let (group, rest) ← readGroup opened next fuel rest
      tail group rest
    else if sign = "\x7b" then do
      let (group, rest) ← readBraces opened next fuel rest
      tail group rest
    else .error .invalid
  | .constant kind :: rest =>
    let value := if kind = .formatted then other "JoinedStr" else constant kind
    tail value (dropTexts kind rest)
  | .name word :: rest =>
    if word = "not" then do
      let (_, rest) ← readOperand opened next fuel rest
      return (other "UnaryOp", rest)
    else if reserved.contains word then .error .invalid
    else if ["True", "False", "None"].contains word then tail (constant .text) rest
    else tail (name word) rest
  | [] => stop opened []
where
  tail (value : Argument) : Read Argument :=
    readTail opened (readItems opened (some (.sign ")")) next (callItem next) fuel) fuel value

def readExpression (opened : List Char) : Nat → Read Argument
  | 0, tokens => stop opened tokens
  | fuel + 1, tokens => do
    let next := readExpression opened fuel
    let (first, rest) ← readOperand opened next fuel tokens
    readLinks (readOperand opened next fuel) fuel first rest

def read? (text : List Char) : Except ArgumentFault Argument := do
  let (tokens, opened) ← Token.readAll 0 [] text
  let fuel := tokens.length + 1
  let next := readExpression opened fuel
  if tokens.isEmpty then .error .invalid
  else
    let item (tokens : List Token) := (next tokens).map fun (value, rest) => ([value], rest)
    let ((items, comma), _) ← readItems opened none next item fuel tokens
    match items, comma with
    | [item], false => return item
    | items, _ => return tuple items

inductive Use where
  | real
  | imaginary
  | plain
  | unhashable (typeName : String)
deriving DecidableEq, Inhabited

def kindText : Argument → String
  | constant _ => "Constant"
  | tuple _ => "Tuple"
  | set _ => "Set"
  | dict _ => "Dict"
  | emptySet => "Call"
  | signed _ => "UnaryOp"
  | sum .. => "BinOp"
  | name _ => "Name"
  | other kind => kind

def number? : Argument → Except ArgumentFault ConstantKind
  | constant .real => .ok .real
  | constant .imaginary => .ok .imaginary
  | a => .error (.malformed a.kindText)

def signedNumber? : Argument → Except ArgumentFault ConstantKind
  | signed operand => number? operand
  | a => number? a

def Use.ofNumber : ConstantKind → Use
  | .imaginary => .imaginary
  | _ => .real

/-- The value of what goes into a set or is a key must not be changeable. -/
def Use.hashed : Use → Except ArgumentFault Unit
  | .unhashable typeName => .error (.unhashable typeName)
  | _ => .ok ()

mutual

def evaluate : Argument → Except ArgumentFault Use
  | constant .real => .ok .real
  | constant .imaginary => .ok .imaginary
  | constant _ => .ok .plain
  | tuple items => evaluateItems items
  | set items => (evaluateKeys items).map fun _ => .unhashable "set"
  | dict items => (evaluateEntries items).map fun _ => .unhashable "dict"
  | emptySet => .ok (.unhashable "set")
  | sum left right =>
    match signedNumber? left, number? right with
    | .error fault, _ | _, .error fault => .error fault
    | .ok .real, .ok .imaginary => .ok .imaginary
    | _, _ => .error (.malformed "BinOp")
  | a => (signedNumber? a).map Use.ofNumber

/-- A tuple can be part of a set if all its items can. -/
def evaluateItems : List Argument → Except ArgumentFault Use
  | [] => .ok .plain
  | a :: as => do
    let use ← evaluate a
    let rest ← evaluateItems as
    match use with
    | .unhashable typeName => return .unhashable typeName
    | _ => return rest

def evaluateKeys : List Argument → Except ArgumentFault Unit
  | [] => .ok ()
  | a :: as => do
    (← evaluate a).hashed
    evaluateKeys as

def evaluateEntries : List Argument → Except ArgumentFault Unit
  | [] => .ok ()
  | [a] => (evaluate a).map fun _ => ()
  | key :: value :: rest => do
    let use ← evaluate key
    let _ ← evaluate value
    use.hashed
    evaluateEntries rest

end

def check (text : List Char) : Except ArgumentFault Unit := do
  let argument ← read? text
  let _ ← argument.evaluate
  return ()

end Argument

end Cascade.Console
