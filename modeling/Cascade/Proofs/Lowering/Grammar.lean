import Cascade.Proofs.Lowering.Entries
import Cascade.Proofs.Node.JsonRoundTrip

set_option autoImplicit false

namespace Cascade

def Formals.Proper : Formals → Prop
  | .names list => list ≠ []
  | .marker text => text = "none"

namespace Node

open Scalar (Written written_append)

inductive Role where
  | value | statement | iterator | definition

/-- The engine's programs.  An alternative body is no node of its own. -/
inductive Fits : Role → Node → Prop where
  | literal {value : Scalar} (primitive : value.isPrimitive) (spelled : value.hasJson) :
      Fits .value (.literal value)
  | symbol {name : String} : Fits .value (.symbol name)
  | operation {op : String} {fixity : Fixity} {operands : List Node}
      (classified : fixity = Operator.classify op (some (operands.length : Int)))
      (known : fixity ≠ .unknown) (admitted : fixity.admits operands.length)
      (each : ∀ n ∈ operands, Fits .value n) : Fits .value (.operation op fixity operands)
  | call {callee : String} {operands : List Node} (each : ∀ n ∈ operands, Fits .value n) :
      Fits .value (.call callee operands none)
  | definingCall {callee : String} {operands : List Node} {formals : Formals} {body : List Node}
      (each : ∀ n ∈ operands, Fits .value n)
      (definition : Fits .definition (.function callee formals body)) :
      Fits .value (.call callee operands (some (.function callee formals body)))
  | expression {n : Node} (value : Fits .value n) : Fits .statement n
  | assign {name : String} {n : Node} (value : Fits .value n) : Fits .statement (.assign name n)
  | branch {condition : Node} {body : List Node} (test : Fits .value condition)
      (each : ∀ n ∈ body, Fits .statement n) : Fits .statement (.branch condition body none)
  | branchElse {condition : Node} {body orelse : List Node} (test : Fits .value condition)
      (each : ∀ n ∈ body, Fits .statement n) (others : ∀ n ∈ orelse, Fits .statement n) :
      Fits .statement (.branch condition body (some orelse))
  | loop {counter : String} {iterator : Node} {body : List Node}
      (header : Fits .iterator iterator) (each : ∀ n ∈ body, Fits .statement n) :
      Fits .statement (.loop counter iterator body)
  | ret : Fits .statement (.ret none)
  | retValue {n : Node} (value : Fits .value n) : Fits .statement (.ret (some n))
  | range {start stop step : Int} (moves : step ≠ 0) : Fits .iterator (.range start stop step)
  | sequence {values : List Node} (literals : ∀ n ∈ values, n.isLiteral)
      (each : ∀ n ∈ values, Fits .value n) : Fits .iterator (.sequence values)
  | function {name : String} {formals : Formals} {body : List Node} (arguments : formals.Proper)
      (each : ∀ n ∈ body, Fits .statement n) : Fits .definition (.function name formals body)

def FitAll (role : Role) (ns : List Node) : Prop :=
  ∀ n ∈ ns, Fits role n

theorem fitAll_singleton {role : Role} {n : Node} : FitAll role [n] ↔ Fits role n :=
  List.forall_mem_singleton

theorem FitAll.written {ns : List Node} (each : ∀ n ∈ ns, Written n.constants) :
    Written (constantsList ns) := by
  induction ns with
  | nil => nofun
  | cons n ns ih =>
    obtain ⟨head, tail⟩ := List.forall_mem_cons.1 each
    rw [constantsList]
    exact written_append.2 ⟨head, ih tail⟩

/-- The constants of a program that obeys the grammar have texts. -/
theorem Fits.written {role : Role} {n : Node} (fits : Fits role n) : Written n.constants := by
  induction fits with
  | literal _ spelled =>
    rw [constants]
    exact List.forall_mem_singleton.2 spelled
  | symbol | ret | range =>
    simp only [constants, constantsOption]
    nofun
  | operation _ _ _ _ each | sequence _ _ each | function _ _ each =>
    rw [constants]
    exact FitAll.written each
  | call _ each =>
    rw [constants, constantsOption, List.append_nil]
    exact FitAll.written each
  | definingCall _ _ each definition =>
    rw [constants, constantsOption]
    exact written_append.2 ⟨FitAll.written each, definition⟩
  | expression _ value => exact value
  | assign _ value =>
    rw [constants]
    exact value
  | retValue _ value =>
    rw [constants, constantsOption]
    exact value
  | branch _ _ test each =>
    rw [constants, constantsElse, List.append_nil]
    exact written_append.2 ⟨test, FitAll.written each⟩
  | branchElse _ _ _ test each others =>
    rw [constants, constantsElse]
    exact written_append.2 ⟨written_append.2 ⟨test, FitAll.written each⟩, FitAll.written others⟩
  | loop _ _ header each =>
    rw [constants]
    exact written_append.2 ⟨header, FitAll.written each⟩

end Node

namespace Lowering

open Source Node

theorem fits_of_literal? {value : Scalar} {n : Node} (primitive : value.isPrimitive)
    (found : Node.literal? value = .ok n) : Fits .value n := by
  obtain rfl := Node.literal?_eq_ok found
  refine .literal primitive ?_
  cases value with
  | float x =>
    simp only [Node.literal?] at found
    split at found
    · assumption
    · cases found
  | bool | int | str => rfl
  | none | imaginary | bytes | ellipsis => cases primitive

theorem fits_of_constantNode? {value : Scalar} {n : Node} (found : constantNode? value = .ok n) :
    Fits .value n := by
  unfold constantNode? at found
  split at found
  · rename_i primitive
    exact fits_of_literal? primitive found
  · cases found

theorem isPrimitive_of_primitive? {value : Value} {constant : Scalar}
    (found : value.primitive? = some constant) : constant.isPrimitive := by
  cases value with
  | scalar other =>
    simp only [Value.primitive?] at found
    split at found
    · rename_i primitive
      exact Option.some.inj found ▸ primitive
    · cases found
  | _ => cases found

theorem fits_of_nameNode? {fs : Frames} {names : Namespace} {id : String} {n : Node}
    (found : nameNode? fs names id = .ok n) : Fits .value n := by
  unfold nameNode? at found
  split at found
  · cases found
  split at found
  · cases found
    exact .symbol
  split at found
  · rename_i value known
    obtain ⟨_, _, primitive⟩ := Option.bind_eq_some_iff.1 known
    exact fits_of_literal? (isPrimitive_of_primitive? primitive) found
  · cases found
    exact .symbol

theorem isPrimitive_negate? {value negated : Scalar} (sign : value.negate? = some negated) :
    negated.isPrimitive := by
  cases value with
  | int | float =>
    cases sign
    rfl
  | _ => cases sign

theorem isPrimitive_of_primitives? {items : List Value} {constants : List Scalar}
    (found : items.mapM Value.primitive? = some constants) : ∀ c ∈ constants, c.isPrimitive := by
  induction items generalizing constants with
  | nil =>
    cases found
    nofun
  | cons item items ih =>
    rw [List.mapM_cons] at found
    obtain ⟨first, head, found⟩ := Option.bind_eq_some_iff.1 found
    obtain ⟨rest, tail, found⟩ := Option.bind_eq_some_iff.1 found
    cases found
    exact List.forall_mem_cons.2 ⟨isPrimitive_of_primitive? head, ih tail⟩

theorem isPrimitive_of_staticValues? {fs : Frames} {names : Namespace} {id : String}
    {values : List Scalar} (static : staticValues? fs names id = some values) :
    ∀ value ∈ values, value.isPrimitive := by
  unfold staticValues? at static
  split at static
  · cases static
  · obtain ⟨whole, _, items⟩ := Option.bind_eq_some_iff.1 static
    cases whole with
    | list items | tuple items => exact isPrimitive_of_primitives? items
    | _ => cases items

theorem fits_of_literals? {values : List Scalar} {ns : List Node}
    (primitive : ∀ value ∈ values, value.isPrimitive) (found : literals? values = .ok ns) :
    FitAll .value ns := by
  induction values generalizing ns with
  | nil =>
    cases found
    nofun
  | cons value values ih =>
    obtain ⟨head, tail⟩ := List.forall_mem_cons.1 primitive
    unfold literals? at found
    cases first : Node.literal? value with
    | error fault =>
      rw [first] at found
      cases found
    | ok n =>
      cases rest : literals? values with
      | error fault =>
        rw [first, rest] at found
        cases found
      | ok more =>
        rw [first, rest] at found
        cases found
        exact List.forall_mem_cons.2 ⟨fits_of_literal? head first, ih tail rest⟩

theorem isLiteral_of_literals? {values : List Scalar} {ns : List Node}
    (found : literals? values = .ok ns) : ∀ n ∈ ns, n.isLiteral := by
  rw [literals?_eq_ok found]
  intro n member
  obtain ⟨value, _, rfl⟩ := List.mem_map.1 member
  rfl

theorem proper_ofNames (names : List String) : (Formals.ofNames names).Proper := by
  cases names with
  | nil => rfl
  | cons name rest => exact List.cons_ne_nil _ _

theorem fits_binary {token : String} {a b : Node}
    (known : Operator.isBinary token ∧ Operator.ambiguousTokens.contains token = false)
    (left : Fits .value a) (right : Fits .value b) :
    Fits .value (.operation token .binary [a, b]) := by
  refine .operation ?_ nofun rfl (List.forall_mem_cons.2 ⟨left, List.forall_mem_singleton.2 right⟩)
  unfold Operator.classify
  rw [known.2, if_neg Bool.false_ne_true, if_pos known.1]

theorem fits_joined {token : String} {first : Node} {rest : List Node}
    (known : Operator.isBinary token ∧ Operator.ambiguousTokens.contains token = false)
    (head : Fits .value first) (tail : FitAll .value rest) :
    Fits .value (joined token first rest) := by
  induction rest generalizing first with
  | nil => exact head
  | cons n rest ih =>
    obtain ⟨next, others⟩ := List.forall_mem_cons.1 tail
    exact ih (fits_binary known head next) others

def Job.role : Job → Role
  | .expr _ | .exprs _ | .chain _ _ => .value
  | .iterator _ => .iterator
  | .statement _ | .block _ => .statement
  | .function _ _ => .definition

/-- Every construction of a lowering keeps to the grammar. -/
theorem Lowered.fits {host : Host} {names : Namespace} {job : Job} {s t : State} {ns : List Node}
    (h : Lowered host names job s ns t) : FitAll job.role ns := by
  induction h with
  | name found => exact fitAll_singleton.2 (fits_of_nameNode? found)
  | constant found => exact fitAll_singleton.2 (fits_of_constantNode? found)
  | plus _ ih => exact ih
  | negative sign found =>
    exact fitAll_singleton.2 (fits_of_literal? (isPrimitive_negate? sign) found)
  | minus _ _ ih =>
    exact fitAll_singleton.2 (fits_binary ⟨rfl, rfl⟩ (.literal rfl rfl) (fitAll_singleton.1 ih))
  | negation _ _ ih => exact fitAll_singleton.2 (.operation rfl nofun rfl ih)
  | binary known _ _ left right =>
    exact fitAll_singleton.2 (fits_binary (binaryToken_isBinary known) (fitAll_singleton.1 left)
      (fitAll_singleton.1 right))
  | junction _ _ head tail =>
    exact fitAll_singleton.2 (fits_joined (boolToken_isBinary _) (fitAll_singleton.1 head) tail)
  | compare _ ih =>
    obtain ⟨head, tail⟩ := List.forall_mem_cons.1 ih
    exact fitAll_singleton.2 (fits_joined ⟨rfl, rfl⟩ head tail)
  | operator _ _ _ admitted ih =>
    refine fitAll_singleton.2 (.operation rfl ?_ admitted ih)
    intro unknown
    rw [unknown] at admitted
    cases admitted
  | lambda _ _ _ _ steps operands | closureDefinition _ _ _ _ _ _ _ operands steps =>
    exact fitAll_singleton.2 (.definingCall operands (.function (proper_ofNames _) steps))
  | closureReference _ _ _ _ ih | functionReference _ _ _ _ _ _ ih =>
    exact fitAll_singleton.2 (.call ih)
  | functionDefinition _ _ _ _ _ _ _ operands definition =>
    exact fitAll_singleton.2 (.definingCall operands (fitAll_singleton.1 definition))
  | nil | chainNil | declaration | assignLambda | nested | pass | dropped | blockNil => nofun
  | cons _ _ head tail => exact List.forall_mem_cons.2 ⟨fitAll_singleton.1 head, tail⟩
  | chainCons known _ _ _ left right more =>
    exact List.forall_mem_cons.2 ⟨fits_binary (compareToken_isBinary known)
      (fitAll_singleton.1 left) (fitAll_singleton.1 right), more⟩
  | range _ moves => exact fitAll_singleton.2 (.range moves)
  | display _ _ literal ih => exact fitAll_singleton.2 (.sequence (List.all_eq_true.1 literal) ih)
  | constants static found =>
    exact fitAll_singleton.2 (.sequence (isLiteral_of_literals? found)
      (fits_of_literals? (isPrimitive_of_staticValues? static) found))
  | branch _ _ test body => exact fitAll_singleton.2 (.branch (fitAll_singleton.1 test) body)
  | branchElse _ _ _ test body orelse =>
    exact fitAll_singleton.2 (.branchElse (fitAll_singleton.1 test) body orelse)
  | loop _ _ header body => exact fitAll_singleton.2 (.loop (fitAll_singleton.1 header) body)
  | ret => exact fitAll_singleton.2 .ret
  | retValue _ ih => exact fitAll_singleton.2 (.retValue (fitAll_singleton.1 ih))
  | augAssign known _ ih =>
    exact fitAll_singleton.2 (.assign (fits_binary (binaryToken_isBinary known) .symbol
      (fitAll_singleton.1 ih)))
  | annotated _ ih => exact ih
  | assign _ ih => exact fitAll_singleton.2 (.assign (fitAll_singleton.1 ih))
  | expression _ ih => exact fitAll_singleton.2 (.expression (fitAll_singleton.1 ih))
  | blockCons _ _ head tail => exact List.forall_mem_append.2 ⟨head, tail⟩
  | function _ _ _ _ ih => exact fitAll_singleton.2 (.function (proper_ofNames _) ih)

end Lowering

namespace Host

open Lowering Node Source

theorem fits_of_lower {h : Host} {value : Value} {name : Option String} {maxDepth : Option Int}
    {d : Definition} (lowered : h.lower value name maxDepth = .ok d) : Fits .definition d.node := by
  obtain ⟨e, s, _, run⟩ := lower_eq_ok.1 lowered
  exact fitAll_singleton.1 (run_sound run).fits

/-- A lowered program obeys the grammar of the engine, and has a text in every layout.  The text is
sent exactly if the indent and the integers of the program keep to their bounds. -/
theorem lower_fits_grammar {h : Host} {value : Value} {name : Option String}
    {maxDepth : Option Int} {d : Definition} (lowered : h.lower value name maxDepth = .ok d) :
    Fits .definition d.node ∧ ∀ indent, ∃ text, d.node.json? indent = .ok text ∧
      d.node.payload? indent =
        if indent.all Wire.isIndent then
          if d.node.wire.scalars.all Scalar.isShort then .ok text else .error .tooManyDigits
        else .error .indentOverflow := by
  have fits := fits_of_lower lowered
  refine ⟨fits, fun indent => ⟨_, json?_eq_ok.2 ⟨fits.written, rfl⟩, ?_⟩⟩
  rw [payload?_of_written fits.written, json?_eq_ok.2 ⟨fits.written, rfl⟩]

/-- A function without arguments: a loop over constants of the program, an operator that takes one
operand or more, a negative constant, and a lambda expression called where it stands. -/
def survey : Host :=
  let read (id : String) : Expr := .name id .load
  ofFunctions [("weights", .tuple [.scalar (.int 1), .scalar (.bool true), .scalar (.str "x")])]
    [("survey", [],
      [.forLoop (.name "w" .store) (read "weights")
        [.assign [.name "last" .store] (.call (read "round") [read "w"] [])] [],
      .ret (some (.call (.lambda [⟨.positional, "v", none, none⟩]
          (.call (read "round") [read "v", .unary .minus (.constant (.int 2))] []))
        [read "last"] []))])]

theorem survey_fits_grammar :
    ∃ d, survey.lower (.function "survey") none none = .ok d ∧ d.formals = .marker "none" ∧
      Fits .definition d.node ∧ ∃ text, d.node.payload? (some 2) = .ok text := by
  obtain ⟨d, lowered, read⟩ := exists_of_toOption
    (show (survey.lower (.function "survey") none none).toOption.map
        (fun d => (d.formals, d.node.wire.scalars.all Scalar.isShort)) =
      some (.marker "none", true) by decide +kernel)
  obtain ⟨formals, short⟩ := Prod.mk.inj read
  obtain ⟨fits, sent⟩ := lower_fits_grammar lowered
  obtain ⟨text, _, payload⟩ := sent (some 2)
  rw [short] at payload
  exact ⟨d, lowered, formals, fits, text, payload⟩

/-- A function that returns the sum of its argument and a constant of the module. -/
def addend (constant : Int) : Host :=
  ofFunctions [("ADDEND", .scalar (.int constant))]
    [("increase", ["x"], [.ret (some (.binary .add (.name "x" .load) (.name "ADDEND" .load)))])]

/-- The program is lowered whatever the constant is, but one of many digits is not sent. -/
theorem addend_payload_refused :
    ∃ d, (addend Text.firstLong).lower (.function "increase") none none = .ok d ∧
      d.node.payload? none = .error .tooManyDigits ∧
      d.node.payload? (some (-0x8000000000000001)) = .error .indentOverflow := by
  obtain ⟨d, lowered, long⟩ := exists_of_toOption
    (show ((addend Text.firstLong).lower (.function "increase") none none).toOption.map
        (·.node.wire.scalars.all Scalar.isShort) = some false by decide +kernel)
  have payload := payload?_of_written (fits_of_lower lowered).written
  rw [long] at payload
  exact ⟨d, lowered, payload none, payload (some (-0x8000000000000001))⟩

end Host

end Cascade
