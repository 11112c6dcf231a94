import Cascade.Console.Argument
import Cascade.Console.Cells
import Cascade.Console.Emoji
import Cascade.Console.Style
import Cascade.Console.Tag
import Cascade.Text.Digit
import Cascade.Text.Quoted

set_option autoImplicit false

namespace Cascade.Console

inductive MarkupFault where
  | nothingToClose (position : Nat)
  | unmatched (tag : String) (position : Nat)
  /-- The arguments of a tag, as read and as written. -/
  | badArguments (read written : String) (cause : ArgumentFault)
  | emptyComponent
deriving DecidableEq, Inhabited

namespace MarkupFault

def message : MarkupFault → String
  | nothingToClose position => s!"closing tag '[/]' at position {position} has nothing to close"
  | unmatched tag position =>
    s!"closing tag '{tag}' at position {position} doesn't match any open tag"
  | badArguments read written cause =>
    if cause.isSyntactic then
      s!"error parsing {Text.quoted read} in {Text.quoted written}; {cause.message}"
    else s!"error parsing {Text.quoted written}; {cause.message}"
  | emptyComponent => "invalid literal for int() with base 10: ''"

end MarkupFault

/-- A tag that is open: the normal form of its name, and its parameters. -/
structure OpenTag where
  name : String
  parameters : Option (List Char)
deriving DecidableEq, Inhabited

def isControl (c : Char) : Bool :=
  [7, 8, 11, 12, 13].contains c.toNat

def unescape : List Char → List Char
  | [] => []
  | '\\' :: '[' :: cs => '[' :: unescape cs
  | c :: cs => c :: unescape cs

def plainText (cs : List Char) : List Char :=
  (Emoji.replace (unescape cs)).filter fun c => !isControl c

def handlerName (cs : List Char) : List Char :=
  cs.takeWhile fun c => Token.isNameChar c || c == '.'

/-- The arguments that parameters pass on: those in brackets behind a name, none behind a name
alone, or else the whole text. -/
def handlerArguments (parameters : List Char) : List Char :=
  match parameters.drop (handlerName parameters).length with
  | [] => ['(', ')']
  | rest =>
    if rest.head? == some '(' && rest.getLast? == some ')' && !rest.contains '\n' then rest
    else parameters

namespace OpenTag

/-- Close a tag.  One that passes arguments on has them checked. -/
def close (t : OpenTag) : Except MarkupFault Unit :=
  match t.parameters with
  | none | some [] => .ok ()
  | some written =>
    if !t.name.startsWith "@" then .ok ()
    else
      let read := handlerArguments (Text.trimChars Text.isBlank written)
      match Argument.check read with
      | .ok () => .ok ()
      | .error cause =>
        .error (.badArguments (String.ofList read) (String.ofList written) cause)

end OpenTag

def tagName (name : List Char) : Except MarkupFault String :=
  match Style.normalize name with
  | .ok name => .ok name
  | .error _ => .error .emptyComponent

def follow (opened : List OpenTag) (t : Tag) : Except MarkupFault (List OpenTag) :=
  match t.name with
  | '/' :: rest =>
    let wanted := Text.trimChars Text.isBlank rest
    if wanted.isEmpty then
      match opened with
      | [] => .error (.nothingToClose t.position)
      | last :: others => last.close.map fun _ => others
    else do
      let name ← tagName wanted
      match opened.find? (·.name = name) with
      | none => .error (.unmatched t.text t.position)
      | some found =>
        found.close
        return opened.eraseP (·.name = name)
  | name => do return ⟨← tagName name, t.parameters⟩ :: opened

def showPieces : List OpenTag → List Piece → Except MarkupFault (List Char)
  | _, [] => .ok []
  | opened, .plain cs :: pieces => do return plainText cs ++ (← showPieces opened pieces)
  | opened, .tag t :: pieces => do showPieces (← follow opened t) pieces

def showMarkup (s : String) : Except MarkupFault String :=
  (showPieces [] (Piece.ofMarkup s.toList)).map fun cs => String.ofList (expandTabs 0 cs)

end Cascade.Console
