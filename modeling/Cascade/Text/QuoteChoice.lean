import Cascade.Text.Quoted

set_option autoImplicit false

namespace Cascade.Text

def quoteKinds : List (List Char) :=
  [['\''], ['"'], ['"', '"', '"'], ['\'', '\'', '\'']]

def occurs (word : List Char) : List Char → Bool
  | [] => word.isEmpty
  | c :: cs => word.isPrefixOf (c :: cs) || occurs word cs

structure Quotable where
  content : List Char
  kinds : List (List Char)

def sparedChar (keepBreaks : Bool) (c : Char) : List Char :=
  if keepBreaks && (c == '\n' || c == '\t') then [c]
  else if c == '\\' || !isPrintable c then (commonEscape? '\\' c).getD (escapePoint c.toNat)
  else [c]

def fitsAround (content kind : List Char) : Bool :=
  (kind.length == 3 || !content.contains '\n') && !occurs kind content

/-- Make a text ready for one of the given kinds of quotes.  A last character that looks like the
quote is avoided by the choice of the kind, or else escaped; where no kind fits, the text is quoted
the ordinary way. -/
def makeQuotable (keepBreaks : Bool) (kinds : List (List Char)) (s : List Char) : Quotable :=
  let content := s.flatMap (sparedChar keepBreaks)
  let fitting := kinds.filter (fitsAround content)
  if fitting.isEmpty then
    let quote := quoteFor s
    ⟨s.flatMap (quotedChar quote), [(kinds.find? (·.contains quote)).getD [quote]]⟩
  else
    match content.getLast? with
    | none => ⟨content, fitting⟩
    | some last =>
      let clear := fitting.filter (·.head? != some last)
      let clashing := fitting.filter (·.head? == some last)
      if clear.isEmpty then ⟨content.dropLast ++ ['\\', last], clashing⟩
      else ⟨content, clear ++ clashing⟩

def sparselyQuoted (s : String) : String :=
  let q := makeQuotable true quoteKinds s.toList
  let quote := q.kinds.headD ['\'']
  String.ofList (quote ++ q.content ++ quote)

structure QuotedPiece where
  keepBreaks : Bool
  text : String

def makeAllQuotable? : List (List Char) → List QuotedPiece → Option Quotable
  | kinds, [] => some ⟨[], kinds⟩
  | kinds, p :: ps =>
    let q := makeQuotable p.keepBreaks kinds p.text.toList
    if q.kinds.any kinds.contains then
      (makeAllQuotable? q.kinds ps).map fun rest => ⟨q.content ++ rest.content, rest.kinds⟩
    else none

def quotedPieces (pieces : List QuotedPiece) : String :=
  match makeAllQuotable? quoteKinds pieces with
  | some q =>
    let quote := q.kinds.headD ['\'']
    String.ofList (quote ++ q.content ++ quote)
  | none =>
    let quote := ['\'', '\'', '\'']
    String.ofList
      (quote ++ pieces.flatMap (fun p => p.text.toList.flatMap (quotedChar '\'')) ++ quote)

end Cascade.Text
