import Cascade.Node.Wire
import Cascade.Proofs.Table
import Mathlib.Data.List.Forall2

set_option autoImplicit false

namespace Cascade

namespace Wire

/-- The same structure: lists agree item by item, and records key by key in whatever order. -/
inductive Same : Wire → Wire → Prop where
  | scalar (value : Scalar) : Same (.scalar value) (.scalar value)
  | list {ws ws' : List Wire} (items : List.Forall₂ Same ws ws') : Same (.list ws) (.list ws')
  | record {fs gs : Table Wire} (fields : ∀ key, Option.Rel Same (fs.get? key) (gs.get? key)) :
      Same (.record fs) (.record gs)

def SameFields (fs gs : Table Wire) : Prop :=
  ∀ key, Option.Rel Same (fs.get? key) (gs.get? key)

theorem sizeOf_lt_of_get? {fs : Table Wire} {key : String} {w : Wire}
    (found : fs.get? key = some w) : sizeOf w < sizeOf fs := by
  induction fs with
  | nil => cases found
  | cons field fs ih =>
    obtain ⟨k, v⟩ := field
    rw [Table.get?_cons] at found
    simp only [List.cons.sizeOf_spec, Prod.mk.sizeOf_spec]
    split at found
    · cases found
      omega
    · have rest := ih found
      omega

def text? : Wire → Option String
  | .scalar (.str s) => some s
  | _ => none

def number? : Wire → Option Int
  | .scalar (.int n) => some n
  | _ => none

def textUnder? (fields : Table Wire) (key : String) : Option String :=
  (fields.get? key).bind text?

def numberUnder? (fields : Table Wire) (key : String) : Option Int :=
  (fields.get? key).bind number?

def part? (fields : Table Wire) (key : String) : Option { w : Wire // sizeOf w < sizeOf fields } :=
  match found : fields.get? key with
  | some w => some ⟨w, sizeOf_lt_of_get? found⟩
  | none => none

def inside? (fields : Table Wire) (key : String) :
    Option { fs : Table Wire // sizeOf fs < sizeOf fields } :=
  match part? fields key with
  | some ⟨.record fs, smaller⟩ => some ⟨fs, by simp at smaller; omega⟩
  | _ => none

def items? (fields : Table Wire) (key : String) :
    Option { ws : List Wire // sizeOf ws < sizeOf fields } :=
  match part? fields key with
  | some ⟨.list ws, smaller⟩ => some ⟨ws, by simp at smaller; omega⟩
  | _ => none

end Wire

inductive NodeKind where
  | literal | symbol | operation | function | call | assign | branch | otherwise | loop | ret
  | range | sequence
deriving DecidableEq

namespace NodeKind

def key : NodeKind → String
  | literal => "type"
  | symbol => "symbols"
  | operation => "astop"
  | function => "alias"
  | call => "call"
  | assign => "assign"
  | branch => "if"
  | otherwise => "else"
  | loop => "for"
  | ret => "return"
  | range => "range"
  | sequence => "sequence"

def all : List NodeKind :=
  [literal, symbol, operation, function, call, assign, branch, otherwise, loop, ret, range,
    sequence]

def ofFields? (fields : Table Wire) : Option NodeKind :=
  all.find? fun kind => fields.contains kind.key

end NodeKind

def Fixity.ofText? : String → Option Fixity
  | "unary" => some .unary
  | "binary" => some .binary
  | "variadic" => some .variadic
  | "unknown" => some .unknown
  | _ => none

def Formals.ofWire? : Wire → Option Formals
  | .list ws => (ws.mapM Wire.text?).map .names
  | w => w.text?.map .marker

namespace Node

def symbolName? (text : String) : Option String :=
  match text.toList with
  | '$' :: name => some (String.ofList name)
  | _ => none

/-- A constant must be sent under its own kind. -/
def literalOf? (fields : Table Wire) : Option Node :=
  match fields.get? "value" with
  | some (.scalar value) =>
    if Wire.textUnder? fields "type" = some (literalKind value) then some (.literal value) else none
  | _ => none

def rangeOf? (fields : Table Wire) : Option Node := do
  let ⟨inner, _⟩ ← Wire.inside? fields "range"
  return .range (← Wire.numberUnder? inner "start") (← Wire.numberUnder? inner "stop")
    (← Wire.numberUnder? inner "step")

open Wire in
mutual

/-- The node that a structure stands for, in either position: only symbols are sent as bare
texts. -/
def ofWire? : Wire → Option Node
  | .scalar value => ((Wire.scalar value).text?.bind symbolName?).map .symbol
  | .list _ => none
  | .record fields =>
    match NodeKind.ofFields? fields with
    | none => none
    | some .literal => literalOf? fields
    | some .symbol => ((textUnder? fields "symbols").bind symbolName?).map .symbol
    | some .operation => operationOf? fields
    | some .function => functionOf? fields
    | some .call => callOf? fields
    | some .assign => assignOf? fields
    | some .branch => branchOf? fields
    | some .otherwise => otherwiseOf? fields
    | some .loop => loopOf? fields
    | some .ret => retOf? fields
    | some .range => rangeOf? fields
    | some .sequence => do
      let ⟨values, _⟩ ← items? fields "sequence"
      return .sequence (← ofWires? values)
termination_by w => sizeOf w

def ofWires? : List Wire → Option (List Node)
  | [] => some []
  | w :: ws => do return (← ofWire? w) :: (← ofWires? ws)
termination_by ws => sizeOf ws

def operationOf? (fields : Table Wire) : Option Node := do
  let ⟨inner, _⟩ ← inside? fields "astop"
  let op ← textUnder? inner "operator"
  let fixity ← (textUnder? inner "fixity").bind Fixity.ofText?
  let ⟨operands, _⟩ ← items? inner "operands"
  return .operation op fixity (← ofWires? operands)
termination_by sizeOf fields

def functionOf? (fields : Table Wire) : Option Node := do
  let name ← textUnder? fields "alias"
  let formals ← (fields.get? "free_variables").bind Formals.ofWire?
  let ⟨body, _⟩ ← items? fields "body"
  return .function name formals (← ofWires? body)
termination_by sizeOf fields

/-- A call without a definition lacks the key. -/
def callOf? (fields : Table Wire) : Option Node := do
  let ⟨inner, _⟩ ← inside? fields "call"
  let callee ← textUnder? inner "alias"
  let ⟨operands, _⟩ ← items? inner "operands"
  let operands ← ofWires? operands
  match part? inner "definition" with
  | none => return .call callee operands none
  | some ⟨definition, _⟩ => return .call callee operands (some (← ofWire? definition))
termination_by sizeOf fields

def assignOf? (fields : Table Wire) : Option Node := do
  let ⟨inner, _⟩ ← inside? fields "assign"
  let name ← textUnder? inner "symbol"
  let ⟨value, _⟩ ← part? inner "value"
  return .assign name (← ofWire? value)
termination_by sizeOf fields

/-- A condition without another branch lacks the key. -/
def branchOf? (fields : Table Wire) : Option Node := do
  let ⟨inner, _⟩ ← inside? fields "if"
  let ⟨condition, _⟩ ← part? inner "condition"
  let ⟨body, _⟩ ← items? inner "body"
  let condition ← ofWire? condition
  let body ← ofWires? body
  match inside? inner "else" with
  | none => return .branch condition body none
  | some ⟨other, _⟩ => do
    let ⟨orelse, _⟩ ← items? other "body"
    return .branch condition body (some (← ofWires? orelse))
termination_by sizeOf fields

def otherwiseOf? (fields : Table Wire) : Option Node := do
  let ⟨inner, _⟩ ← inside? fields "else"
  let ⟨body, _⟩ ← items? inner "body"
  return .otherwise (← ofWires? body)
termination_by sizeOf fields

def loopOf? (fields : Table Wire) : Option Node := do
  let ⟨inner, _⟩ ← inside? fields "for"
  let counter ← textUnder? inner "variable"
  let ⟨iterator, _⟩ ← part? inner "iterator"
  let ⟨body, _⟩ ← items? inner "body"
  return .loop counter (← ofWire? iterator) (← ofWires? body)
termination_by sizeOf fields

def retOf? (fields : Table Wire) : Option Node := do
  let ⟨value, _⟩ ← part? fields "return"
  match value with
  | .scalar .none => return .ret none
  | _ => return .ret (some (← ofWire? value))
termination_by sizeOf fields

end

end Node

namespace Wire

theorem Same.refl : ∀ w : Wire, Same w w
  | .scalar value => .scalar value
  | .list ws => .list (List.forall₂_same.2 fun w _ => Same.refl w)
  | .record fs => by
    refine .record fun key => ?_
    cases found : Table.get? fs key with
    | none => exact .none
    | some w =>
      have smaller := sizeOf_lt_of_get? found
      exact .some (Same.refl w)

theorem Same.single {key : String} {v v' : Wire} (same : Same v v') :
    Same (.record [(key, v)]) (.record [(key, v')]) := by
  refine .record fun other => ?_
  rw [Table.get?_cons, Table.get?_cons]
  split
  · exact .some same
  · exact .none

/-- Two fields may stand in either order. -/
theorem Same.swap {key other : String} {v v' w w' : Wire} (distinct : key ≠ other)
    (first : Same v v') (second : Same w w') :
    Same (.record [(key, v), (other, w)]) (.record [(other, w'), (key, v')]) := by
  refine .record fun asked => ?_
  simp only [Table.get?_cons]
  by_cases here : asked = key
  · subst here
    rw [if_pos rfl, if_neg distinct, if_pos rfl]
    exact .some first
  · rw [if_neg here, if_neg here]
    split
    · exact .some second
    · exact .none

variable {fs gs : Table Wire} {ws : List Wire} {w : Wire}

theorem Same.eq_scalar {value : Scalar} (same : Same (.scalar value) w) : w = .scalar value := by
  cases same
  rfl

theorem Same.eq_list (same : Same (.list ws) w) :
    ∃ ws', w = .list ws' ∧ List.Forall₂ Same ws ws' := by
  cases same with
  | list items => exact ⟨_, rfl, items⟩

theorem Same.eq_record (same : Same (.record fs) w) :
    ∃ gs, w = .record gs ∧ SameFields fs gs := by
  cases same with
  | record fields => exact ⟨_, rfl, fields⟩

theorem part?_of_get? {key : String} (found : fs.get? key = some w) :
    ∃ h, part? fs key = some ⟨w, h⟩ := by
  refine ⟨sizeOf_lt_of_get? found, ?_⟩
  unfold part?
  split
  · rename_i other found'
    rw [found] at found'
    cases found'
    rfl
  · rename_i missing
    rw [found] at missing
    cases missing

theorem part?_of_missing {key : String} (missing : fs.get? key = none) : part? fs key = none := by
  unfold part?
  split
  · rename_i found
    rw [missing] at found
    cases found
  · rfl

theorem inside?_of_get? {key : String} (found : fs.get? key = some (.record gs)) :
    ∃ h, inside? fs key = some ⟨gs, h⟩ := by
  obtain ⟨smaller, part⟩ := part?_of_get? found
  unfold inside?
  rw [part]
  exact ⟨_, rfl⟩

theorem items?_of_get? {key : String} (found : fs.get? key = some (.list ws)) :
    ∃ h, items? fs key = some ⟨ws, h⟩ := by
  obtain ⟨smaller, part⟩ := part?_of_get? found
  unfold items?
  rw [part]
  exact ⟨_, rfl⟩

namespace SameFields

theorem found (same : SameFields fs gs) (key : String) (found : fs.get? key = some w) :
    ∃ w', gs.get? key = some w' ∧ Same w w' := by
  have pair := same key
  rw [found] at pair
  cases held : gs.get? key with
  | none =>
    rw [held] at pair
    cases pair
  | some w' =>
    rw [held] at pair
    cases pair with
    | some both => exact ⟨w', rfl, both⟩

theorem missing (same : SameFields fs gs) (key : String) (missing : fs.get? key = none) :
    gs.get? key = none := by
  have pair := same key
  rw [missing] at pair
  cases held : gs.get? key with
  | none => rfl
  | some w' =>
    rw [held] at pair
    cases pair

theorem scalar {value : Scalar} (same : SameFields fs gs) (key : String)
    (held : fs.get? key = some (.scalar value)) : gs.get? key = some (.scalar value) := by
  obtain ⟨w', found, both⟩ := same.found key held
  rw [found, both.eq_scalar]

theorem text {s : String} (same : SameFields fs gs) (key : String)
    (held : fs.get? key = some (.text s)) :
    textUnder? gs key = some s := by
  unfold textUnder?
  rw [same.scalar key held]
  rfl

theorem number {n : Int} (same : SameFields fs gs) (key : String)
    (held : fs.get? key = some (.number n)) :
    numberUnder? gs key = some n := by
  unfold numberUnder?
  rw [same.scalar key held]
  rfl

theorem part (same : SameFields fs gs) (key : String) (held : fs.get? key = some w) :
    ∃ w' h, part? gs key = some ⟨w', h⟩ ∧ Same w w' := by
  obtain ⟨w', found, both⟩ := same.found key held
  obtain ⟨h, part⟩ := part?_of_get? found
  exact ⟨w', h, part, both⟩

theorem inside {inner : Table Wire} (same : SameFields fs gs) (key : String)
    (held : fs.get? key = some (.record inner)) :
    ∃ inner' h, inside? gs key = some ⟨inner', h⟩ ∧ SameFields inner inner' := by
  obtain ⟨w', found, both⟩ := same.found key held
  obtain ⟨inner', rfl, fields⟩ := both.eq_record
  obtain ⟨h, inside⟩ := inside?_of_get? found
  exact ⟨inner', h, inside, fields⟩

theorem items (same : SameFields fs gs) (key : String) (held : fs.get? key = some (.list ws)) :
    ∃ ws' h, items? gs key = some ⟨ws', h⟩ ∧ List.Forall₂ Same ws ws' := by
  obtain ⟨w', found, both⟩ := same.found key held
  obtain ⟨ws', rfl, pairs⟩ := both.eq_list
  obtain ⟨h, items⟩ := items?_of_get? found
  exact ⟨ws', h, items, pairs⟩

theorem contains_eq (same : SameFields fs gs) (key : String) :
    gs.contains key = fs.contains key := by
  unfold Table.contains
  cases held : fs.get? key with
  | none => rw [same.missing key held]
  | some w =>
    obtain ⟨w', found, _⟩ := same.found key held
    rw [found]
    rfl

/-- Which kind of node a record stands for does not depend on the order of its keys. -/
theorem kind_eq (same : SameFields fs gs) : NodeKind.ofFields? gs = NodeKind.ofFields? fs := by
  unfold NodeKind.ofFields?
  congr 1
  funext kind
  exact same.contains_eq kind.key

end SameFields

end Wire

end Cascade
