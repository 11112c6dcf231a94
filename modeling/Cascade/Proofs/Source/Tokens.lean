import Cascade.Operator.Fixity
import Cascade.Operator.Token
import Cascade.Proofs.Number.Numeral
import Cascade.Source.Text

set_option autoImplicit false

/-!
# Quoted expressions are no tokens

A message about an operator quotes a whole expression.  Its text cannot be taken for a token: it holds
a mark that no token holds, or else it is a member of an object or a starred expression.  There it
matters that the names of the source are identifiers: `is.na` would be a token, and so would a star
before an empty name.
-/
namespace Cascade

namespace Text

/-- The characters of words.  Beyond the first 128 characters all of them are taken for letters. -/
def isWordChar (c : Char) : Bool :=
  c.isAlphanum || c == '_' || 128 ≤ c.toNat

def marks : List Char :=
  [' ', '(', '[', '{', ':', '\'', '"']

def isMarked (text : String) : Bool :=
  text.toList.any marks.contains

end Text

namespace Operator

def signs : List Char :=
  "+-*/%@&|^~<>=!".toList

/-- A token that stands alone: one of the engine's, a word, or a run of signs. -/
def isBare (text : String) : Bool :=
  isKnown text || text.toList.all Text.isWordChar || text.toList.all signs.contains

end Operator

namespace Source

/-- The words of the source language that cannot be names. -/
def keywords : List String := [
  "False", "None", "True", "and", "as", "assert", "async", "await", "break", "class", "continue",
  "def", "del", "elif", "else", "except", "finally", "for", "from", "global", "if", "import", "in",
  "is", "lambda", "nonlocal", "not", "or", "pass", "raise", "return", "try", "while", "with",
  "yield"]

def isIdentifier (id : String) : Bool :=
  id ≠ "" && id.toList.all Text.isWordChar && !keywords.contains id

namespace Expr

def isParsed (e : Expr) : Bool :=
  (e.collect (fun | name id _ => [id] | member _ attr => [attr] | _ => []) (fun _ => true)).all
    isIdentifier

/-- Whether an expression of this kind is refused with its text: an operator that the engine lacks,
a call of something unknown, or anything that is no operator, call, name or constant. -/
def isRefused : Expr → Bool
  | name .. | constant _ | unary .. | junction .. | named .. | lambda .. => false
  | binary op _ _ => (Operator.binaryToken? op).isNone
  | compare _ op _ rest =>
    (Operator.compareToken? op).isNone || rest.any fun link => (Operator.compareToken? link.op).isNone
  | _ => true

end Expr

end Source

namespace Text

@[simp] theorem isMarked_append (a b : String) :
    isMarked (a ++ b) = (isMarked a || isMarked b) := by
  simp [isMarked]

theorem contains_eq_false {p : Char → Bool} {cs : List Char} {c : Char} (held : p c = true)
    (outside : cs.all (fun d => !p d) = true) : cs.contains c = false := by
  by_contra inside
  have absent := List.all_eq_true.1 outside c (by simpa using inside)
  rw [held] at absent
  cases absent

theorem isMarked_of_mem {c : Char} {text : String} (inside : c ∈ text.toList) (mark : c ∈ marks) :
    isMarked text = true :=
  List.any_eq_true.2 ⟨c, inside, by simpa using mark⟩

@[simp] theorem isMarked_parenthesize (own required : Source.Level) (text : String) :
    isMarked (own.parenthesize required text) = (decide (own < required) || isMarked text) := by
  unfold Source.Level.parenthesize
  split
  next below => simp [below, show isMarked "(" = true from rfl]
  next above => simp [above]

theorem isMarked_quoted (s : String) : isMarked (quoted s) = true := by
  have quote : quoteFor s.toList ∈ marks := by
    unfold quoteFor
    split <;> decide
  exact isMarked_of_mem (by simp [quoted]) quote

def isQuote (kind : List Char) : Bool :=
  kind.any marks.contains

theorem isQuote_makeQuotable {keepBreaks : Bool} {kinds : List (List Char)} {s : List Char}
    (all : ∀ kind ∈ kinds, isQuote kind = true) :
    ∀ kind ∈ (makeQuotable keepBreaks kinds s).kinds, isQuote kind = true := by
  have quote : isQuote [quoteFor s] = true := by
    unfold quoteFor
    split <;> decide
  have fitting {p q : List Char → Bool} : ∀ kind ∈ (kinds.filter p).filter q, isQuote kind = true :=
    fun kind inside => all kind (List.mem_filter.1 (List.mem_filter.1 inside).1).1
  unfold makeQuotable
  intro kind
  dsimp only
  split
  · intro inside
    rw [List.mem_singleton.1 inside]
    cases found : kinds.find? (·.contains (quoteFor s)) with
    | none => exact quote
    | some kind => exact all kind (List.mem_of_find?_eq_some found)
  · split
    · exact fun inside => all kind (List.mem_filter.1 inside).1
    · split
      · exact fitting kind
      · intro inside
        rcases List.mem_append.1 inside with clear | clashing
        · exact fitting kind clear
        · exact fitting kind clashing

theorem isQuote_makeAllQuotable? {kinds : List (List Char)} {pieces : List QuotedPiece} {q : Quotable}
    (all : ∀ kind ∈ kinds, isQuote kind = true) (made : makeAllQuotable? kinds pieces = some q) :
    ∀ kind ∈ q.kinds, isQuote kind = true := by
  induction pieces generalizing kinds q with
  | nil =>
    cases made
    exact all
  | cons p ps ih =>
    rw [makeAllQuotable?] at made
    split at made
    · obtain ⟨rest, made', rfl⟩ := Option.map_eq_some_iff.1 made
      exact ih (q := rest) (isQuote_makeQuotable all) made'
    · cases made

theorem isMarked_quotedPieces (pieces : List QuotedPiece) : isMarked (quotedPieces pieces) = true := by
  have framed {quote : List Char} (quotes : isQuote quote = true) (content : List Char) :
      isMarked (String.ofList (quote ++ content ++ quote)) = true := by
    unfold isQuote at quotes
    simp [isMarked, quotes]
  unfold quotedPieces
  split
  next q made =>
    refine framed ?_ q.content
    have all := isQuote_makeAllQuotable? (by decide) made
    cases shape : q.kinds with
    | nil => decide
    | cons kind kinds => exact all kind (by simp [shape])
  · exact framed (by decide) _

end Text

namespace Operator

theorem known_unmarked : ∀ token ∈ unaryTokens ++ binaryTokens ++ variadicTokens,
    Text.isMarked token = false := by
  decide +kernel

theorem mem_of_isKnown {token : String} (known : isKnown token = true) :
    token ∈ unaryTokens ++ binaryTokens ++ variadicTokens := by
  simpa [isKnown, isUnary, isBinary, isVariadic, or_assoc] using known

/-- A mark makes a text no token. -/
theorem not_isBare_of_isMarked {text : String} (marked : Text.isMarked text = true) :
    isBare text = false := by
  obtain ⟨c, inside, mark⟩ := List.any_eq_true.1 marked
  have unmarked : Text.marks.all (fun d => !Text.isWordChar d) = true := rfl
  have word := List.all_eq_true.1 unmarked c (by simpa using mark)
  have sign := @Text.contains_eq_false Text.marks.contains signs c mark rfl
  unfold isBare
  simp only [Bool.or_eq_false_iff, List.all_eq_false]
  refine ⟨⟨?_, c, inside, by simpa using word⟩, c, inside, by simpa using sign⟩
  by_contra known
  rw [known_unmarked text (mem_of_isKnown (by simpa using known))] at marked
  cases marked

end Operator

namespace Source.Expr

open Text Operator

def holdsMark : Expr → Bool
  | name .. | constant _ | unary .. | junction .. | member .. | starred _ => false
  | _ => true

theorem isMarked_textAt {e : Expr} {required : Level} (strong : Level.test ≤ required)
    (kind : e.holdsMark = true) : isMarked (e.textAt false required) = true := by
  have paren : isMarked "(" = true := rfl
  have blank : isMarked " " = true := rfl
  have bracket : isMarked "[" = true := rfl
  have brace : isMarked "\x7b" = true := rfl
  have colon : isMarked ":" = true := rfl
  have spaced : isMarked ": " = true := rfl
  have condition : isMarked " if " = true := rfl
  have awaiting : isMarked "await " = true := rfl
  have below {own : Level} (weak : own < Level.test) : own < required :=
    Nat.lt_of_lt_of_le weak strong
  cases e with
  | name | constant | unary | junction | member | starred => cases kind
  | binary | compare | call | conditional | list | dict | dictComprehension | await | lambda =>
    simp [textAt, paren, blank, bracket, brace, spaced, condition, awaiting]
  | named => simp [textAt, below (by decide : Level.named < Level.test)]
  | yieldFrom => simp [textAt, below (by decide : Level.yielding < Level.test)]
  | subscript a index =>
    rw [textAt.eq_def]
    simp [bracket]
  | slice a b c =>
    rw [textAt.eq_def]
    simp [colon]
  | yield a =>
    rw [textAt.eq_def]
    simp [below (by decide : Level.yielding < Level.test)]
  | tuple es =>
    simp only [textAt, isMarked_parenthesize]
    split
    · simp [below (by decide : 0 < Level.test)]
    · simp [below (by decide : Level.tuple < Level.test)]
  | set es =>
    simp only [textAt]
    split
    · rfl
    · simp [brace]
  | comprehension shape =>
    cases shape <;> simp [textAt, ComprehensionKind.enclose, paren, bracket, brace]
  | fstring es => simp [textAt, isMarked_quotedPieces]
  | formatted a conversion b =>
    simp only [textAt, formatField]
    split <;> simp [brace, show isMarked "\x7b " = true from rfl]

theorem mem_parenthesize {own required : Level} {text : String} {c : Char}
    (inside : c ∈ text.toList) : c ∈ (own.parenthesize required text).toList := by
  unfold Level.parenthesize
  split
  · simp [inside]
  · exact inside

theorem exists_digit {cs : List Char} {value : Scalar} (read : Numeral.read? cs = some value) :
    ∃ c ∈ cs, c.isDigit = true := by
  unfold Numeral.read? at read
  split at read
  · obtain ⟨c, rest, rfl, digit⟩ := Numeral.digit_of_magnitude? read
    exact ⟨c, by simp, digit⟩
  · obtain ⟨c, rest, rfl, digit⟩ := Numeral.digit_of_magnitude? read
    exact ⟨c, by simp, digit⟩

/-- A constant holds a character that is no sign and is not in `is`. -/
theorem exists_constantText (value : Scalar) :
    ∃ c ∈ (constantText false value).toList, (signs ++ ['i', 's']).contains c = false := by
  have digit {cs : List Char} {value : Scalar} (read : Numeral.read? cs = some value) :
      ∃ c ∈ cs, (signs ++ ['i', 's']).contains c = false := by
    obtain ⟨c, inside, digit⟩ := exists_digit read
    exact ⟨c, inside, contains_eq_false digit rfl⟩
  cases value with
  | none => exact ⟨'N', by decide, by decide⟩
  | bool value =>
    cases value with
    | true => exact ⟨'T', by decide, by decide⟩
    | false => exact ⟨'F', by decide, by decide⟩
  | int value => exact digit (Numeral.read?_int value)
  | float value =>
    cases value with
    | nan => exact ⟨'1', by decide, by decide⟩
    | infinite negative => cases negative <;> exact ⟨'1', by decide, by decide⟩
    | finite value =>
      have text : (constantText false (.float (.finite value))).toList = value.text := by
        simp [constantText, numberText, Double.text, Double.textWith, Decimal.text]
      rw [text]
      exact digit (Numeral.read?_text value)
  | str value =>
    obtain ⟨c, inside, mark⟩ := List.any_eq_true.1 (isMarked_quoted value)
    exact ⟨c, inside, contains_eq_false mark rfl⟩
  | imaginary value => exact ⟨'j', by simp [constantText], by decide⟩
  | bytes value => exact ⟨'b', by simp [constantText, Scalar.text, quotedBytes], by decide⟩
  | ellipsis => exact ⟨'.', by decide, by decide⟩

theorem isParsed_name {id : String} {use : Use} (parsed : (name id use).isParsed = true) :
    isIdentifier id = true := by
  simpa [isParsed, collect] using parsed

theorem isParsed_unary {op : UnaryOp} {a : Expr} (parsed : (unary op a).isParsed = true) :
    a.isParsed = true := by
  simpa [isParsed, collect] using parsed

theorem isParsed_starred {a : Expr} (parsed : (starred a).isParsed = true) :
    a.isParsed = true := by
  simpa [isParsed, collect] using parsed

theorem isParsed_member {a : Expr} {attr : String} (parsed : (member a attr).isParsed = true) :
    a.isParsed = true := by
  have both : isIdentifier attr = true ∧ a.isParsed = true := by
    simpa [isParsed, collect] using parsed
  exact both.2

theorem mem_memberPoint (a : Expr) : '.' ∈ a.memberPoint.toList := by
  unfold memberPoint
  split <;> decide

/-- By recursion on the expression: signs alone stand only before other expressions. -/
theorem exists_not_sign : ∀ {e : Expr} {required : Level}, Level.bitOr ≤ required →
    e.isParsed = true → ∃ c ∈ (e.textAt false required).toList, signs.contains c = false
  | e, required, strong, parsed => by
    have marked (held : isMarked (e.textAt false required) = true) :
        ∃ c ∈ (e.textAt false required).toList, signs.contains c = false := by
      obtain ⟨c, inside, mark⟩ := List.any_eq_true.1 held
      exact ⟨c, inside, contains_eq_false mark rfl⟩
    cases e with
    | name id use =>
      have word := isParsed_name parsed
      simp only [isIdentifier, Bool.and_eq_true, decide_eq_true_eq] at word
      obtain ⟨c, cs, shape⟩ := List.exists_cons_of_ne_nil (l := id.toList) (by simpa using word.1.1)
      have inside : c ∈ id.toList := shape ▸ List.mem_cons_self
      have letter := List.all_eq_true.1 word.1.2 c inside
      exact ⟨c, by simpa [textAt] using inside, contains_eq_false letter rfl⟩
    | constant value =>
      obtain ⟨c, inside, outside⟩ := exists_constantText value
      refine ⟨c, by simpa [textAt] using inside, ?_⟩
      simp only [List.contains_append, Bool.or_eq_false_iff] at outside
      exact outside.1
    | unary op a =>
      cases op with
      | negation =>
        apply marked
        simp [textAt, UnaryOp.level, show Level.negation < required from
          Nat.lt_of_lt_of_le (by decide) strong]
      | invert | plus | minus =>
        obtain ⟨c, inside, outside⟩ := @exists_not_sign a Level.factor (by decide)
          (isParsed_unary parsed)
        refine ⟨c, ?_, outside⟩
        simp only [textAt]
        exact mem_parenthesize (by simp [UnaryOp.level, inside])
    | junction op a es =>
      apply marked
      have weak : op.level < required := by
        cases op <;> exact Nat.lt_of_lt_of_le (by decide) strong
      simp [textAt, weak]
    | member a attr =>
      exact ⟨'.', by simp [textAt, mem_memberPoint], by decide⟩
    | starred a =>
      obtain ⟨c, inside, outside⟩ := @exists_not_sign a Level.bitOr (by decide)
        (isParsed_starred parsed)
      exact ⟨c, by simp [textAt, inside], outside⟩
    | _ => exact marked (isMarked_textAt (Nat.le_trans (by decide) strong) rfl)

/-- No object of which a member is taken is written like the word `is`. -/
theorem textAt_ne_is {a : Expr} (parsed : a.isParsed = true) :
    a.textAt false Level.atom ≠ "is" := by
  have holding {c : Char} (inside : c ∈ (a.textAt false Level.atom).toList)
      (other : ['i', 's'].contains c = false) : a.textAt false Level.atom ≠ "is" := by
    intro same
    rw [same] at inside
    have : c ∈ ['i', 's'] := inside
    simp_all
  have marked (held : isMarked (a.textAt false Level.atom) = true) :
      a.textAt false Level.atom ≠ "is" := by
    intro same
    rw [same] at held
    cases held
  cases a with
  | name id use =>
    have word := isParsed_name parsed
    rintro same
    have : id = "is" := by simpa [textAt] using same
    rw [this] at word
    exact absurd word (by decide)
  | constant value =>
    obtain ⟨c, inside, outside⟩ := exists_constantText value
    simp only [List.contains_append, Bool.or_eq_false_iff] at outside
    exact holding (by simpa [textAt] using inside) outside.2
  | unary op a =>
    have weak : op.level < Level.atom := by cases op <;> decide
    exact marked (by simp [textAt, weak])
  | junction op a es =>
    have weak : op.level < Level.atom := by cases op <;> decide
    exact marked (by simp [textAt, weak])
  | member a attr => exact holding (c := '.') (by simp [textAt, mem_memberPoint]) (by decide)
  | starred a => exact holding (c := '*') (by simp [textAt]) (by decide)
  | _ => exact marked (isMarked_textAt (by decide) rfl)

theorem eq_of_append_point {front back : List Char}
    (whole : front ++ '.' :: back = ['i', 's', '.', 'n', 'a']) : front = ['i', 's'] := by
  rcases front with _ | ⟨c₁, _ | ⟨c₂, _ | ⟨c₃, _ | ⟨c₄, _ | ⟨c₅, rest⟩⟩⟩⟩⟩ <;> simp_all

/-- Only `is.na` is a token with a point. -/
theorem not_isBare_member {a : Expr} {attr : String} (parsed : a.isParsed = true) :
    isBare (member a attr).text = false := by
  have text : (member a attr).text =
      a.textAt false Level.atom ++ a.memberPoint ++ attr := by
    simp [Expr.text, textAt]
  have point : '.' ∈ (member a attr).text.toList := by simp [text, mem_memberPoint]
  have pointed : ∀ token ∈ unaryTokens ++ binaryTokens ++ variadicTokens,
      '.' ∈ token.toList → token = "is.na" := by
    decide +kernel
  unfold isBare
  simp only [Bool.or_eq_false_iff, List.all_eq_false]
  refine ⟨⟨?_, '.', point, by decide⟩, '.', point, by decide⟩
  by_contra known
  have same := pointed _ (mem_of_isKnown (by simpa using known)) point
  have letters : (a.textAt false Level.atom).toList ++ (a.memberPoint.toList ++ attr.toList) =
      ['i', 's', '.', 'n', 'a'] := by
    rw [← List.append_assoc, ← String.toList_append, ← String.toList_append, ← text, same]
    decide
  have plain : a.memberPoint = "." := by
    unfold memberPoint at letters ⊢
    split
    · have blank : ' ' ∈ ['i', 's', '.', 'n', 'a'] := by simp [← letters]
      exact absurd blank (by decide)
    · have blank : ' ' ∈ ['i', 's', '.', 'n', 'a'] := by simp [← letters]
      exact absurd blank (by decide)
    · rfl
  rw [plain] at letters
  apply textAt_ne_is parsed
  rw [← String.toList_inj]
  exact eq_of_append_point letters

/-- The text of an expression that is refused is no token. -/
theorem not_isBare_text {e : Expr} (refused : e.isRefused = true) (parsed : e.isParsed = true) :
    isBare e.text = false := by
  have marked (kind : e.holdsMark = true) : isBare e.text = false :=
    not_isBare_of_isMarked (isMarked_textAt (Nat.le_refl _) kind)
  cases e with
  | name | constant | unary | junction => cases refused
  | member a attr => exact not_isBare_member (isParsed_member parsed)
  | starred a =>
    obtain ⟨c, inside, outside⟩ := @exists_not_sign a Level.bitOr (by decide)
      (isParsed_starred parsed)
    have signed : ∀ token ∈ unaryTokens ++ binaryTokens ++ variadicTokens,
        token.toList.head? = some '*' → token.toList.all signs.contains = true := by
      decide +kernel
    have text : (starred a).text.toList = '*' :: (a.textAt false Level.bitOr).toList := by
      simp [Expr.text, textAt]
    have other : (starred a).text.toList.all signs.contains = false :=
      List.all_eq_false.2 ⟨c, by simp [text, inside], by simpa using outside⟩
    unfold isBare
    simp only [other, Bool.or_false, Bool.or_eq_false_iff]
    constructor
    · by_contra known
      have := signed _ (mem_of_isKnown (by simpa using known)) (by simp [text])
      rw [other] at this
      cases this
    · rw [text]
      rfl
  | _ => exact marked rfl

end Source.Expr

theorem Source.not_isBare_augAssignText (target : Source.Expr) (op : Source.BinaryOp)
    (value : Source.Expr) : Operator.isBare (Source.augAssignText target op value) = false := by
  apply Operator.not_isBare_of_isMarked
  simp [Source.augAssignText, show Text.isMarked " " = true from rfl]

end Cascade
