import Cascade.Fault
import Cascade.Source.Level
import Cascade.Source.Stmt
import Cascade.Text.QuoteChoice

set_option autoImplicit false

namespace Cascade.Source

/-- A number in an expression.  One that is not finite is written with literals that overflow. -/
def numberText (value : Double) (finite : String) : String :=
  match value with
  | .nan => "(1e309-1e309)"
  | .infinite negative => if negative then "-1e309" else "1e309"
  | .finite _ => finite

def constantText (inField : Bool) : Scalar → String
  | .float value => numberText value value.text
  | .imaginary value => numberText value (value.textWith []) ++ "j"
  | .ellipsis => "..."
  | .str value => if inField then Text.sparselyQuoted value else Text.quoted value
  | value => value.text

def formatChar (c : Char) : List Char :=
  if c == '{' || c == '}' then [c, c] else [c]

/-- A field of a formatted string, in braces.  A space keeps two braces apart. -/
def formatField (text conversion format : String) : String :=
  (if text.startsWith "\x7b" then "\x7b " else "\x7b") ++ text ++ conversion ++ format ++ "\x7d"

/-- A parameter list.  A slash closes the positional-only parameters, and a star opens the
keyword-only ones unless a rest parameter does. -/
def parameterListText (params : List (ParameterKind × String)) : String :=
  let ofKind (kind : ParameterKind) := (params.filter (·.1 = kind)).map (·.2)
  let marker (kind : ParameterKind) (mark : String) := if (ofKind kind).isEmpty then [] else [mark]
  ", ".intercalate (
    ofKind .positionalOnly ++ marker .positionalOnly "/" ++ ofKind .positional ++
    (if (ofKind .rest).isEmpty then marker .keywordOnly "*" else (ofKind .rest).map ("*" ++ ·)) ++
    ofKind .keywordOnly ++ (ofKind .keywordRest).map ("**" ++ ·))

def tupleItems : List String → String
  | [item] => item ++ ","
  | items => ", ".intercalate items

def ComprehensionKind.enclose (kind : ComprehensionKind) (text : String) : String :=
  match kind with
  | .list => "[" ++ text ++ "]"
  | .set => "\x7b" ++ text ++ "\x7d"
  | .generator => "(" ++ text ++ ")"

namespace Expr

/-- A member of a plain number is set off by a space, so that the point is not read as part of
the number. -/
def memberPoint : Expr → String
  | constant (.int _) | constant (.bool _) => " ."
  | _ => "."

def isConstant : Expr → Bool
  | constant _ => true
  | _ => false

def conversionText : Option Char → String
  | none => ""
  | some c => String.ofList ['!', c]

mutual

def textAt (inField : Bool) (required : Level) : Expr → String
  | name id _ => id
  | constant value => constantText inField value
  | unary op a =>
    let space := if op = .negation then " " else ""
    op.level.parenthesize required (op.text ++ space ++ textAt inField op.level a)
  | binary op a b =>
    op.level.parenthesize required
      (textAt inField op.operandLevels.1 a ++ " " ++ op.text ++ " " ++
        textAt inField op.operandLevels.2 b)
  | junction op a es =>
    op.level.parenthesize required
      ((" " ++ op.text ++ " ").intercalate
        (textAt inField op.level.next a :: growingTexts inField op.level.next.next es))
  | compare a op b cs =>
    Level.compare.parenthesize required
      (textAt inField Level.compare.next a ++ " " ++ op.text ++ " " ++
        textAt inField Level.compare.next b ++ comparisonsText inField cs)
  | call f es ks =>
    textAt inField Level.atom f ++ "(" ++
      ", ".intercalate (texts inField es ++ keywordTexts inField ks) ++ ")"
  | member a attr => textAt inField Level.atom a ++ a.memberPoint ++ attr
  | subscript a index =>
    let inner := match index with
      | tuple (e :: es) => tupleItems (textAt inField Level.test e :: texts inField es)
      | e => textAt inField Level.test e
    textAt inField Level.atom a ++ "[" ++ inner ++ "]"
  | slice a b c =>
    let step := match c with
      | none => ""
      | some e => ":" ++ textAt inField Level.test e
    optionText inField a ++ ":" ++ optionText inField b ++ step
  | conditional a b c =>
    Level.test.parenthesize required
      (textAt inField Level.test.next a ++ " if " ++ textAt inField Level.test.next b ++ " else " ++
        textAt inField Level.test c)
  | lambda ps a =>
    let params := parameterListText (parameterTexts inField ps)
    let head := if params.isEmpty then "lambda" else "lambda " ++ params
    Level.test.parenthesize required (head ++ ": " ++ textAt inField Level.test a)
  | tuple es =>
    let own := if es.isEmpty then 0 else Level.tuple
    own.parenthesize required (tupleItems (texts inField es))
  | list es => "[" ++ ", ".intercalate (texts inField es) ++ "]"
  | set es =>
    if es.isEmpty then "\x7b*()\x7d" else "\x7b" ++ ", ".intercalate (texts inField es) ++ "\x7d"
  | dict es => "\x7b" ++ ", ".intercalate (entryTexts inField es) ++ "\x7d"
  | comprehension kind a cs =>
    kind.enclose (textAt inField Level.test a ++ clausesText inField cs)
  | dictComprehension a b cs =>
    "\x7b" ++ textAt inField Level.test a ++ ": " ++ textAt inField Level.test b ++
      clausesText inField cs ++ "\x7d"
  | named a b =>
    Level.named.parenthesize required
      (textAt inField Level.atom a ++ " := " ++ textAt inField Level.atom b)
  | yield a =>
    let value := match a with
      | none => ""
      | some e => " " ++ textAt inField Level.atom e
    Level.yielding.parenthesize required ("yield" ++ value)
  | yieldFrom a =>
    Level.yielding.parenthesize required ("yield from " ++ textAt inField Level.atom a)
  | await a => Level.await.parenthesize required ("await " ++ textAt inField Level.atom a)
  | fstring es =>
    let pieces := formatPieces es
    "f" ++ if inField then Text.sparselyQuoted (String.join (pieces.map (·.text)))
      else Text.quotedPieces pieces
  | formatted a conversion b =>
    formatField (textAt true Level.test.next a) (conversionText conversion) (formatSpec b)
  | starred a => "*" ++ textAt inField Level.bitOr a

def texts (inField : Bool) : List Expr → List String
  | [] => []
  | e :: es => textAt inField Level.test e :: texts inField es

def growingTexts (inField : Bool) (required : Level) : List Expr → List String
  | [] => []
  | e :: es => textAt inField required e :: growingTexts inField required.next es

def optionText (inField : Bool) : Option Expr → String
  | none => ""
  | some e => textAt inField Level.test e

def parameterTexts (inField : Bool) : List (Parameter Expr) → List (ParameterKind × String)
  | [] => []
  | ⟨kind, id, annotation, initial⟩ :: ps =>
    let annotationText := match annotation with
      | none => ""
      | some e => ": " ++ textAt inField Level.test e
    let initialText := match initial with
      | none => ""
      | some e => "=" ++ textAt inField Level.test e
    (kind, id ++ annotationText ++ initialText) :: parameterTexts inField ps

def keywordTexts (inField : Bool) : List (Keyword Expr) → List String
  | [] => []
  | ⟨none, e⟩ :: ks => ("**" ++ textAt inField Level.test e) :: keywordTexts inField ks
  | ⟨some id, e⟩ :: ks => (id ++ "=" ++ textAt inField Level.test e) :: keywordTexts inField ks

def comparisonsText (inField : Bool) : List (Comparison Expr) → String
  | [] => ""
  | ⟨op, e⟩ :: cs =>
    " " ++ op.text ++ " " ++ textAt inField Level.compare.next e ++ comparisonsText inField cs

def entryTexts (inField : Bool) : List (Entry Expr) → List String
  | [] => []
  | ⟨none, e⟩ :: es => ("**" ++ textAt inField Level.bitOr e) :: entryTexts inField es
  | ⟨some k, e⟩ :: es =>
    (textAt inField Level.test k ++ ": " ++ textAt inField Level.test e) :: entryTexts inField es

def clausesText (inField : Bool) : List (Clause Expr) → String
  | [] => ""
  | ⟨isAsync, target, iterator, conditions⟩ :: cs =>
    (if isAsync then " async for " else " for ") ++ textAt inField Level.tuple target ++ " in " ++
      textAt inField Level.test.next iterator ++ conditionsText inField conditions ++
      clausesText inField cs

def conditionsText (inField : Bool) : List Expr → String
  | [] => ""
  | e :: es => " if " ++ textAt inField Level.test.next e ++ conditionsText inField es

def formatText : Expr → String
  | constant (.str s) => String.ofList (s.toList.flatMap formatChar)
  | fstring es => String.join ((formatPieces es).map (·.text))
  | formatted a conversion b =>
    formatField (textAt true Level.test.next a) (conversionText conversion) (formatSpec b)
  | _ => ""

def formatSpec : Option Expr → String
  | none => ""
  | some e => ":" ++ formatText e

def formatPieces : List Expr → List Text.QuotedPiece
  | [] => []
  | e :: es => ⟨!e.isConstant, formatText e⟩ :: formatPieces es

end

def text (e : Expr) : String :=
  e.textAt false Level.test

def integers : Expr → List Int :=
  collect (fun | constant (.int n) => [n] | _ => []) (fun _ => true)

/-- What keeps the expression itself from being written, not the expressions below it.  A field of a
formatted string is looked at for backslashes once it is written. -/
def ownTextFaults : Expr → List TextFault
  | constant (.int n) => if Text.isShort n then [] else [.digits]
  | formatted a _ _ =>
    let field := textAt true Level.test.next a
    if a.integers.all Text.isShort && field.toList.contains '\\' then [.backslash] else []
  | _ => []

def textFault? (e : Expr) : Option TextFault :=
  (e.collect ownTextFaults (fun _ => true)).head?

end Expr

def augAssignText (target : Expr) (op : BinaryOp) (value : Expr) : String :=
  target.text ++ " " ++ op.text ++ "= " ++ value.text

def exprStmtText (value : Expr) : String :=
  value.textAt false Level.yielding

end Cascade.Source
