import Cascade.Proofs.Node.JsonText

set_option autoImplicit false

namespace Cascade

namespace Json

section Characters

def isPlain (c : Char) : Bool :=
  c == '\n' || 0x20 ≤ c.toNat && c.toNat < 0x7F

theorem isPlain_hexDigits (width n : Nat) : ∀ c ∈ Text.hexDigits width n, isPlain c := by
  have digits : ∀ n < 16, isPlain (Text.hexDigit n) := by decide
  induction width generalizing n with
  | zero => nofun
  | succ width ih =>
    refine List.forall_mem_append.2 ⟨ih _, List.forall_mem_singleton.2 (digits _ ?_)⟩
    exact Nat.mod_lt _ (by decide)

theorem isPlain_jsonUnit (n : Nat) : ∀ c ∈ Wire.jsonUnit n, isPlain c :=
  List.forall_mem_cons.2 ⟨rfl, List.forall_mem_cons.2 ⟨rfl, isPlain_hexDigits 4 n⟩⟩

theorem isPlain_jsonChar (c : Char) : ∀ d ∈ Wire.jsonChar c, isPlain d := by
  unfold Wire.jsonChar
  dsimp only
  split
  · rename_i special
    rw [Bool.or_eq_true, beq_iff_eq, beq_iff_eq] at special
    rcases special with rfl | rfl
    · exact List.all_eq_true.1 rfl
    · exact List.all_eq_true.1 rfl
  split
  · exact List.all_eq_true.1 rfl
  split
  · exact List.all_eq_true.1 rfl
  split
  · exact List.all_eq_true.1 rfl
  split
  · exact List.all_eq_true.1 rfl
  split
  · exact List.all_eq_true.1 rfl
  split
  · rename_i printable
    refine List.forall_mem_singleton.2 ?_
    unfold isPlain
    rw [printable, Bool.or_true]
  split
  · exact isPlain_jsonUnit _
  · exact List.forall_mem_append.2 ⟨isPlain_jsonUnit _, isPlain_jsonUnit _⟩

theorem isPlain_jsonString (s : String) : ∀ c ∈ Wire.jsonString s, isPlain c := by
  have inside : ∀ c ∈ s.toList.flatMap Wire.jsonChar, isPlain c := by
    intro d member
    obtain ⟨c, _, written⟩ := List.mem_flatMap.1 member
    exact isPlain_jsonChar c d written
  exact List.forall_mem_cons.2 ⟨rfl, List.forall_mem_append.2 ⟨inside, List.all_eq_true.1 rfl⟩⟩

theorem isPlain_of_numeral {cs : List Char} {value : Scalar}
    (read : Numeral.read? cs = some value) : ∀ c ∈ cs, isPlain c := by
  have marks : ∀ c ∈ Numeral.marks, isPlain c := List.all_eq_true.1 rfl
  exact fun c member => marks c (Numeral.mem_marks_of_read? read c member)

theorem isPlain_jsonScalar (value : Scalar) : ∀ c ∈ Wire.jsonScalar value, isPlain c := by
  cases value with
  | none | imaginary | bytes | ellipsis =>
    exact List.all_eq_true.1 rfl
  | bool b => cases b <;> exact List.all_eq_true.1 rfl
  | int n => exact isPlain_of_numeral (Numeral.read?_int n)
  | float x =>
    cases x with
    | finite d =>
      have read : Numeral.read? (String.ofList d.text).toList = some (.float (.finite d)) := by
        rw [String.toList_ofList, Numeral.read?_text]
      exact isPlain_of_numeral read
    | nan => exact List.all_eq_true.1 rfl
    | infinite negative => cases negative <;> exact List.all_eq_true.1 rfl
  | str s => exact isPlain_jsonString s

theorem isPlain_jsonBreak (indent : Option Nat) (level : Nat) :
    ∀ c ∈ Wire.jsonBreak indent level, isPlain c := by
  cases indent with
  | none => nofun
  | some width =>
    refine List.forall_mem_cons.2 ⟨rfl, fun c member => ?_⟩
    rw [List.eq_of_mem_replicate member]
    rfl

theorem isPlain_jsonSeparator (indent : Option Nat) (level : Nat) :
    ∀ c ∈ Wire.jsonSeparator indent level, isPlain c := by
  cases indent with
  | none => exact List.forall_mem_cons.2 ⟨rfl, List.forall_mem_singleton.2 rfl⟩
  | some width => exact List.forall_mem_cons.2 ⟨rfl, isPlain_jsonBreak _ _⟩

mutual

theorem isPlain_jsonChars (indent : Option Nat) : ∀ (level : Nat) (w : Wire),
    ∀ c ∈ w.jsonChars indent level, isPlain c
  | level, .scalar value => isPlain_jsonScalar value
  | level, .list [] => by
    rw [Wire.jsonChars]
    exact List.forall_mem_cons.2 ⟨rfl, List.forall_mem_singleton.2 rfl⟩
  | level, .list (w :: ws) => by
    rw [Wire.jsonChars]
    simp only [List.forall_mem_append, List.forall_mem_cons]
    exact ⟨⟨⟨⟨⟨rfl, isPlain_jsonBreak _ _⟩, isPlain_jsonChars indent _ w⟩,
      isPlain_jsonItems indent _ ws⟩, isPlain_jsonBreak _ _⟩, rfl, nofun⟩
  | level, .record [] => by
    rw [Wire.jsonChars]
    exact List.forall_mem_cons.2 ⟨rfl, List.forall_mem_singleton.2 rfl⟩
  | level, .record ((key, w) :: fields) => by
    rw [Wire.jsonChars]
    simp only [List.forall_mem_append, List.forall_mem_cons]
    exact ⟨⟨⟨⟨⟨⟨rfl, isPlain_jsonBreak _ _⟩, isPlain_jsonString key⟩, rfl, rfl,
      isPlain_jsonChars indent _ w⟩, isPlain_jsonFields indent _ fields⟩, isPlain_jsonBreak _ _⟩,
      rfl, nofun⟩

theorem isPlain_jsonItems (indent : Option Nat) : ∀ (level : Nat) (ws : List Wire),
    ∀ c ∈ Wire.jsonItems indent level ws, isPlain c
  | level, [] => by
    rw [Wire.jsonItems]
    nofun
  | level, w :: ws => by
    rw [Wire.jsonItems]
    simp only [List.forall_mem_append]
    exact ⟨⟨isPlain_jsonSeparator _ _, isPlain_jsonChars indent _ w⟩, isPlain_jsonItems indent _ ws⟩

theorem isPlain_jsonFields (indent : Option Nat) : ∀ (level : Nat) (fields : List (String × Wire)),
    ∀ c ∈ Wire.jsonFields indent level fields, isPlain c
  | level, [] => by
    rw [Wire.jsonFields]
    nofun
  | level, (key, w) :: fields => by
    rw [Wire.jsonFields]
    simp only [List.forall_mem_append, List.forall_mem_cons]
    exact ⟨⟨⟨isPlain_jsonSeparator _ _, isPlain_jsonString key⟩, rfl, rfl,
      isPlain_jsonChars indent _ w⟩, isPlain_jsonFields indent _ fields⟩

end

end Characters

end Json

def Scalar.isShort : Scalar → Bool
  | .int value => Text.isShort value
  | _ => true

namespace Wire

theorem scalarFault?_eq_none {value : Scalar} : scalarFault? value = none ↔ value.hasJson := by
  cases value with
  | float x => cases x <;> simp [scalarFault?, Scalar.hasJson, Double.isFinite]
  | _ => simp [scalarFault?, Scalar.hasJson]

theorem payloadFault?_of_hasJson {value : Scalar} (spelled : value.hasJson) :
    payloadFault? value = if value.isShort then none else some .tooManyDigits := by
  cases value with
  | int n => rfl
  | _ => exact scalarFault?_eq_none.2 spelled

theorem findSome?_payloadFault? {values : List Scalar} (written : Scalar.Written values) :
    values.findSome? payloadFault? =
      if values.all Scalar.isShort then none else some .tooManyDigits := by
  induction values with
  | nil => rfl
  | cons value values ih =>
    obtain ⟨head, tail⟩ := List.forall_mem_cons.1 written
    rw [List.findSome?_cons, payloadFault?_of_hasJson head, List.all_cons]
    cases value.isShort with
    | true => exact ih tail
    | false => rfl

end Wire

namespace Node

open Scalar (Written hasJson written_append)

mutual

def constants : Node → List Scalar
  | literal value => [value]
  | symbol _ | range .. => []
  | operation _ _ operands => constantsList operands
  | function _ _ body => constantsList body
  | call _ operands definition => constantsList operands ++ constantsOption definition
  | assign _ value => constants value
  | branch condition body orelse =>
    constants condition ++ constantsList body ++ constantsElse orelse
  | otherwise body => constantsList body
  | loop _ iterator body => constants iterator ++ constantsList body
  | ret value => constantsOption value
  | sequence values => constantsList values

def constantsList : List Node → List Scalar
  | [] => []
  | n :: ns => constants n ++ constantsList ns

def constantsOption : Option Node → List Scalar
  | none => []
  | some n => constants n

def constantsElse : Option (List Node) → List Scalar
  | none => []
  | some ns => constantsList ns

end

theorem written_texts (texts : List String) :
    Written (Wire.scalarsList (texts.map Wire.text)) := by
  induction texts with
  | nil => nofun
  | cons text texts ih => exact List.forall_mem_cons.2 ⟨rfl, ih⟩

theorem written_formals (formals : Formals) : Written formals.wire.scalars := by
  cases formals with
  | marker text => exact List.forall_mem_singleton.2 rfl
  | names list => exact written_texts list

@[simp] theorem written_nil : Written [] := nofun

@[simp] theorem written_text (s : String) : Written (Wire.text s).scalars :=
  List.forall_mem_singleton.2 rfl

@[simp] theorem written_number (n : Int) : Written (Wire.number n).scalars :=
  List.forall_mem_singleton.2 rfl

mutual

/-- Only the constants of a program can keep it from having a text. -/
theorem written_wireAt : ∀ (n : Node) (position : Position),
    Written (n.wireAt position).scalars ↔ Written n.constants
  | literal value, position => by
    simp [wireAt, constants, Wire.scalars, Wire.scalarsFields, written_append]
  | symbol name, .statement => by
    simp [wireAt, constants, Wire.scalars, Wire.scalarsFields]
  | symbol name, .operand => by
    simp [wireAt, constants]
  | operation op fixity operands, position => by
    simp [wireAt, constants, Wire.scalars, Wire.scalarsFields, written_append,
      written_wiresAt operands]
  | function name formals body, position => by
    simp [wireAt, constants, Wire.scalars, Wire.scalarsFields, written_append, written_formals,
      written_wiresAt body]
  | call callee operands none, position => by
    simp [wireAt, constants, Wire.scalars, Wire.scalarsFields, written_append,
      written_wiresAt operands, definitionField, constantsOption]
  | call callee operands (some definition), position => by
    simp [wireAt, constants, Wire.scalars, Wire.scalarsFields, written_append,
      written_wiresAt operands, definitionField, constantsOption, written_wireAt definition]
  | assign name value, position => by
    simp [wireAt, constants, Wire.scalars, Wire.scalarsFields, written_append, written_wireAt value]
  | branch condition body none, position => by
    simp [wireAt, constants, Wire.scalars, Wire.scalarsFields, written_append,
      written_wireAt condition, written_wiresAt body, elseField, constantsElse]
  | branch condition body (some orelse), position => by
    simp [wireAt, constants, Wire.scalars, Wire.scalarsFields, written_append,
      written_wireAt condition, written_wiresAt body, elseField, constantsElse,
      written_wiresAt orelse]
  | otherwise body, position => by
    simp [wireAt, constants, Wire.scalars, Wire.scalarsFields, written_wiresAt body]
  | loop counter iterator body, position => by
    simp [wireAt, constants, Wire.scalars, Wire.scalarsFields, written_append,
      written_wireAt iterator, written_wiresAt body]
  | ret none, position => by
    simp [wireAt, constants, Wire.scalars, Wire.scalarsFields, valueWire, constantsOption, Written,
      hasJson]
  | ret (some value), position => by
    simp [wireAt, constants, Wire.scalars, Wire.scalarsFields, valueWire, constantsOption,
      written_wireAt value]
  | range start stop step, position => by
    simp [wireAt, constants, Wire.scalars, Wire.scalarsFields, written_append]
  | sequence values, position => by
    simp [wireAt, constants, Wire.scalars, Wire.scalarsFields, written_wiresAt values]

theorem written_wiresAt : ∀ (ns : List Node) (position : Position),
    Written (Wire.scalarsList (wiresAt position ns)) ↔ Written (constantsList ns)
  | [], position => by
    simp [wiresAt, Wire.scalarsList, constantsList]
  | n :: ns, position => by
    simp [wiresAt, Wire.scalarsList, constantsList, written_append, written_wireAt n,
      written_wiresAt ns]

end

theorem json?_eq_ok {n : Node} {indent : Option Int} {text : String} :
    n.json? indent = .ok text ↔ Written n.constants ∧
      text = String.ofList (n.wire.jsonChars (indent.map Int.toNat) 0) := by
  have faultless : n.wire.scalars.findSome? Wire.scalarFault? = none ↔ Written n.constants := by
    rw [List.findSome?_eq_none_iff, ← written_wireAt n .statement]
    exact forall₂_congr fun value _ => Wire.scalarFault?_eq_none
  unfold json? Wire.json? Wire.textUnless
  cases fault : n.wire.scalars.findSome? Wire.scalarFault? with
  | none =>
    have written := faultless.1 fault
    constructor
    · intro same
      exact ⟨written, (Except.ok.inj same).symm⟩
    · rintro ⟨_, rfl⟩
      rfl
  | some reason =>
    refine ⟨nofun, fun both => ?_⟩
    rw [faultless.2 both.1] at fault
    cases fault

theorem payload?_of_written {n : Node} (written : Written n.constants)
    (indent : Option Int) :
    n.payload? indent =
      if indent.all Wire.isIndent then
        if n.wire.scalars.all Scalar.isShort then n.json? indent else .error .tooManyDigits
      else .error .indentOverflow := by
  have spelled : Written n.wire.scalars := (written_wireAt n .statement).2 written
  have text : n.json? indent = .ok _ := json?_eq_ok.2 ⟨written, rfl⟩
  unfold payload? Wire.payload? Wire.textUnless
  rw [Wire.findSome?_payloadFault? spelled, text]
  cases n.wire.scalars.all Scalar.isShort <;> rfl

end Node

end Cascade
