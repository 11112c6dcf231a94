import Cascade.Text.Blank

set_option autoImplicit false

namespace Cascade.Console

inductive ArgumentFault where
  | unmatched (bracket : Char)
  | mismatched (closing opening : Char)
  | neverClosed (bracket : Char)
  | unterminatedText
  | unterminatedLongText
  | badNumber (base : String)
  | leadingZeros
  | strayBackslash
  | missingComma
  | assignment
  | starred
  | invalid
  | malformed (kind : String)
  | unhashable (typeName : String)
deriving DecidableEq, Inhabited

inductive ConstantKind where
  | real | imaginary | text | bytes | formatted
deriving DecidableEq, Inhabited

inductive Token where
  | name (text : String)
  | constant (kind : ConstantKind)
  | sign (text : String)
deriving DecidableEq, Inhabited

namespace ArgumentFault

def message : ArgumentFault → String
  | unmatched bracket => s!"unmatched '{bracket}'"
  | mismatched closing opening =>
    s!"closing parenthesis '{closing}' does not match opening parenthesis '{opening}'"
  | neverClosed bracket => s!"'{bracket}' was never closed"
  | unterminatedText => "unterminated string literal (detected at line 1)"
  | unterminatedLongText => "unterminated triple-quoted string literal (detected at line 1)"
  | badNumber base => s!"invalid {base} literal"
  | leadingZeros =>
    "leading zeros in decimal integer literals are not permitted; " ++
      "use an 0o prefix for octal integers"
  | strayBackslash => "unexpected character after line continuation character"
  | missingComma => "invalid syntax. Perhaps you forgot a comma?"
  | assignment => "invalid syntax. Maybe you meant '==' or ':=' instead of '='?"
  | starred => "cannot use starred expression here"
  | invalid => "invalid syntax"
  | malformed kind => s!"malformed node or string on line 1: <ast.{kind} object>"
  | unhashable typeName => s!"unhashable type: '{typeName}'"

def isSyntactic : ArgumentFault → Bool
  | malformed _ | unhashable _ => false
  | _ => true

end ArgumentFault

namespace Token

def isNameChar (c : Char) : Bool :=
  c.isAlphanum || c == '_' || 0x80 ≤ c.toNat

/-- The signs of more than one character, the longer ones first. -/
def longSigns : List String :=
  ["**=", "//=", ">>=", "<<=", "...", "!=", "->", ":=", "**", "//", ">>", "<<", "<=", ">=", "==",
    "+=", "-=", "*=", "/=", "%=", "&=", "|=", "^=", "@="]

def readSign (c : Char) (cs : List Char) : String :=
  (longSigns.find? fun sign => sign.toList.isPrefixOf (c :: cs)).getD (String.ofList [c])

/-- Words that may follow a number without a blank. -/
def linkingWords : List String :=
  ["and", "else", "for", "if", "in", "is", "or", "not"]

def endsNumber (cs : List Char) : Bool :=
  (cs.head?.map isNameChar).getD false = false ||
    linkingWords.any fun word => word.toList.isPrefixOf cs

def isDigitOrJoint (c : Char) : Bool :=
  c.isDigit || c == '_'

def exponentChars (cs : List Char) : List Char :=
  match cs with
  | e :: rest =>
    let sign := rest.takeWhile fun c => c == '+' || c == '-'
    let digits := (rest.drop sign.length).takeWhile isDigitOrJoint
    if (e == 'e' || e == 'E') && sign.length ≤ 1 && !digits.isEmpty then e :: (sign ++ digits)
    else []
  | [] => []

def readDecimal (cs : List Char) : Except ArgumentFault (ConstantKind × Nat) :=
  let whole := cs.takeWhile isDigitOrJoint
  let behindWhole := cs.drop whole.length
  let fraction := match behindWhole with
    | '.' :: rest => '.' :: rest.takeWhile isDigitOrJoint
    | _ => []
  let exponent := exponentChars (behindWhole.drop fraction.length)
  let length := whole.length + fraction.length + exponent.length
  let behind := cs.drop length
  if behind.head? == some 'j' || behind.head? == some 'J' then
    if endsNumber (behind.drop 1) then .ok (.imaginary, length + 1)
    else .error (.badNumber "imaginary")
  else if fraction.isEmpty && exponent.isEmpty && whole.head? == some '0' &&
      whole.any (fun c => c != '0' && c != '_') then
    .error .leadingZeros
  else if endsNumber behind then .ok (.real, length)
  else .error (.badNumber "decimal")

def bases : List (List Char × String × List Char) :=
  [("0x".toList, "hexadecimal", "0123456789abcdefABCDEF_".toList),
    ("0X".toList, "hexadecimal", "0123456789abcdefABCDEF_".toList),
    ("0o".toList, "octal", "01234567_".toList), ("0O".toList, "octal", "01234567_".toList),
    ("0b".toList, "binary", "01_".toList), ("0B".toList, "binary", "01_".toList)]

def readNumber (cs : List Char) : Except ArgumentFault (ConstantKind × Nat) :=
  match bases.find? fun (start, _, _) => start.isPrefixOf cs with
  | none => readDecimal cs
  | some (start, base, digits) =>
    let chars := (cs.drop start.length).takeWhile digits.contains
    let length := start.length + chars.length
    if chars.isEmpty || !endsNumber (cs.drop length) then .error (.badNumber base)
    else .ok (.real, length)

def textKind? (letters : List Char) : Option ConstantKind :=
  match String.ofList (letters.map Char.toLower) with
  | "" | "r" | "u" => some .text
  | "b" | "br" | "rb" => some .bytes
  | "f" | "fr" | "rf" => some .formatted
  | _ => none

/-- The number of characters up to the end of a text in quotes; a backslash takes the next one with
it. -/
def textLength? (quote : List Char) : Bool → List Char → Option Nat
  | _, [] => none
  | true, _ :: cs => (textLength? quote false cs).map (· + 1)
  | false, c :: cs =>
    if quote.isPrefixOf (c :: cs) then some quote.length
    else if c == '\n' && quote.length == 1 then none
    else (textLength? quote (c == '\\') cs).map (· + 1)

def quotedLength (quote : Char) (cs : List Char) : Except ArgumentFault Nat :=
  let long := [quote, quote, quote]
  if long.isPrefixOf (quote :: cs) then
    match textLength? long false (cs.drop 2) with
    | some n => .ok (n + 3)
    | none => .error .unterminatedLongText
  else
    match textLength? [quote] false cs with
    | some n => .ok (n + 1)
    | none => .error .unterminatedText

def partner? : Char → Option Char
  | ')' => some '('
  | '}' => some '{'
  | ']' => some '['
  | _ => none

def bracketsBehind (c : Char) (opened : List Char) : Except ArgumentFault (List Char) :=
  if c == '(' || c == '{' || c == '[' then .ok (c :: opened)
  else
    match partner? c, opened with
    | none, _ => .ok opened
    | some _, [] => .error (.unmatched c)
    | some partner, top :: rest =>
      if top = partner then .ok rest else .error (.mismatched c top)

def readOne (c : Char) (cs : List Char) : Except ArgumentFault (Token × Nat) :=
  let isQuote (c : Char) := c == '\'' || c == '"'
  let word := (c :: cs).takeWhile isNameChar
  let behind := (c :: cs).drop word.length
  match textKind? word, behind with
  | some kind, q :: rest =>
    if isQuote q then (quotedLength q rest).map fun n => (.constant kind, word.length + n)
    else readWord c cs word
  | _, _ => readWord c cs word
where
  readWord (c : Char) (cs word : List Char) : Except ArgumentFault (Token × Nat) :=
    if c.isDigit || (c == '.' && (cs.head?.map Char.isDigit).getD false) then
      (readNumber (c :: cs)).map fun (kind, length) => (.constant kind, length)
    else if c == '\\' then .error .strayBackslash
    else if word.isEmpty then
      let sign := readSign c cs
      .ok (.sign sign, sign.length)
    else .ok (.name (String.ofList word), word.length)

/-- The tokens of a text and the brackets still open at its end, after `skip` characters that belong
to a token. -/
def readAll : Nat → List Char → List Char → Except ArgumentFault (List Token × List Char)
  | _, opened, [] => .ok ([], opened)
  | skip + 1, opened, _ :: cs => readAll skip opened cs
  | 0, opened, c :: cs =>
    if Text.isBlank c then readAll 0 opened cs
    else
      match readOne c cs, bracketsBehind c opened with
      | .error fault, _ | _, .error fault => .error fault
      | .ok (token, length), .ok behind =>
        (readAll (length - 1) behind cs).map fun (tokens, left) => (token :: tokens, left)

end Token

end Cascade.Console
