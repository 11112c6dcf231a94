import Cascade.Proofs.Node.WireReader

set_option autoImplicit false

namespace Cascade

theorem Fixity.ofText?_text (fixity : Fixity) : Fixity.ofText? fixity.text = some fixity := by
  cases fixity <;> rfl

theorem Formals.ofWire?_of_same {formals : Formals} {w : Wire} (same : formals.wire.Same w) :
    Formals.ofWire? w = some formals := by
  cases formals with
  | marker text =>
    rw [Wire.Same.eq_scalar same]
    rfl
  | names list =>
    obtain ⟨ws, rfl, pairs⟩ := Wire.Same.eq_list same
    have texts : ws.mapM Wire.text? = some list := by
      clear same
      induction list generalizing ws with
      | nil =>
        cases pairs
        rfl
      | cons name list ih =>
        cases pairs with
        | cons head tail =>
          obtain rfl := head.eq_scalar
          rw [List.mapM_cons, ih _ tail]
          rfl
    change (ws.mapM Wire.text?).map Formals.names = _
    rw [texts]
    rfl

namespace Node

open Wire

theorem symbolName?_symbolText (name : String) : symbolName? (symbolText name) = some name := by
  simp [symbolName?, symbolText]

def ReadAs (position : Position) (ns : List Node) : Prop :=
  ∀ {ws : List Wire}, List.Forall₂ Same (wiresAt position ns) ws → ofWires? ws = some ns

def ReadsAs (position : Position) (n : Node) : Prop :=
  ∀ {w : Wire}, (n.wireAt position).Same w → ofWire? w = some n

section Kinds

variable {gs : Table Wire}

theorem literalOf?_eq {value : Scalar}
    (same : SameFields [("type", .text (literalKind value)), ("value", .scalar value)] gs) :
    literalOf? gs = some (literal value) := by
  have held := same.scalar "value" rfl
  have type := same.text "type" rfl
  unfold literalOf?
  rw [held]
  exact if_pos type

theorem operationOf?_eq {op : String} {fixity : Fixity} {operands : List Node}
    (same : SameFields [("astop", .record [("operator", .text op), ("fixity", .text fixity.text),
      ("operands", .list (wiresAt .operand operands))])] gs)
    (reads : ReadAs .operand operands) :
    operationOf? gs = some (operation op fixity operands) := by
  obtain ⟨inner, _, inside, parts⟩ := same.inside "astop" rfl
  obtain ⟨ws, _, items, pairs⟩ := parts.items "operands" rfl
  have token := parts.text "operator" rfl
  have spelled := parts.text "fixity" rfl
  rw [operationOf?, inside]
  simp only [Option.bind_eq_bind, Option.bind_some, token, spelled, Fixity.ofText?_text, items,
    reads pairs]
  rfl

theorem functionOf?_eq {name : String} {formals : Formals} {body : List Node}
    (same : SameFields [("alias", .text name), ("free_variables", formals.wire),
      ("body", .list (wiresAt .statement body))] gs)
    (reads : ReadAs .statement body) : functionOf? gs = some (function name formals body) := by
  obtain ⟨ws, _, items, pairs⟩ := same.items "body" rfl
  obtain ⟨arguments, held, both⟩ := same.found "free_variables" rfl
  have named := same.text "alias" rfl
  rw [functionOf?, named]
  simp only [Option.bind_eq_bind, Option.bind_some, held, Formals.ofWire?_of_same both, items,
    reads pairs]
  rfl

theorem callOf?_eq {callee : String} {operands : List Node} {definition : Option Node}
    (same : SameFields [("call", .record (("alias", .text callee) ::
      ("operands", .list (wiresAt .operand operands)) :: definitionField definition))] gs)
    (reads : ReadAs .operand operands) (defines : ∀ n ∈ definition, ReadsAs .statement n) :
    callOf? gs = some (call callee operands definition) := by
  obtain ⟨inner, _, inside, parts⟩ := same.inside "call" rfl
  obtain ⟨ws, _, items, pairs⟩ := parts.items "operands" rfl
  have named := parts.text "alias" rfl
  rw [callOf?, inside]
  simp only [Option.bind_eq_bind, Option.bind_some, named, items, reads pairs]
  cases definition with
  | none =>
    rw [part?_of_missing (parts.missing "definition" rfl)]
    rfl
  | some n =>
    obtain ⟨w, _, part, both⟩ := parts.part "definition" rfl
    rw [part]
    simp only [defines n rfl both, Option.bind_some]
    rfl

theorem assignOf?_eq {name : String} {value : Node}
    (same : SameFields [("assign", .record [("symbol", .text name),
      ("value", value.wireAt .operand)])] gs)
    (reads : ReadsAs .operand value) : assignOf? gs = some (assign name value) := by
  obtain ⟨inner, _, inside, parts⟩ := same.inside "assign" rfl
  obtain ⟨w, _, part, both⟩ := parts.part "value" rfl
  have named := parts.text "symbol" rfl
  rw [assignOf?, inside]
  simp only [Option.bind_eq_bind, Option.bind_some, named, part, reads both]
  rfl

theorem branchOf?_eq {condition : Node} {body : List Node} {orelse : Option (List Node)}
    (same : SameFields [("if", .record (("condition", condition.wireAt .operand) ::
      ("body", .list (wiresAt .statement body)) :: elseField orelse))] gs)
    (tests : ReadsAs .operand condition) (reads : ReadAs .statement body)
    (others : ∀ ns ∈ orelse, ReadAs .statement ns) :
    branchOf? gs = some (branch condition body orelse) := by
  obtain ⟨inner, _, inside, parts⟩ := same.inside "if" rfl
  obtain ⟨w, _, part, both⟩ := parts.part "condition" rfl
  obtain ⟨ws, _, items, pairs⟩ := parts.items "body" rfl
  rw [branchOf?, inside]
  simp only [Option.bind_eq_bind, Option.bind_some, part, items, tests both, reads pairs]
  cases orelse with
  | none =>
    have missing := part?_of_missing (parts.missing "else" rfl)
    unfold inside?
    rw [missing]
    rfl
  | some ns =>
    obtain ⟨other, _, elsewhere, rest⟩ := parts.inside "else" rfl
    obtain ⟨vs, _, more, again⟩ := rest.items "body" rfl
    rw [elsewhere]
    simp only [more, Option.bind_some, others ns rfl again]
    rfl

theorem otherwiseOf?_eq {body : List Node}
    (same : SameFields [("else", .record [("body", .list (wiresAt .statement body))])] gs)
    (reads : ReadAs .statement body) : otherwiseOf? gs = some (otherwise body) := by
  obtain ⟨inner, _, inside, parts⟩ := same.inside "else" rfl
  obtain ⟨ws, _, items, pairs⟩ := parts.items "body" rfl
  rw [otherwiseOf?, inside]
  simp only [Option.bind_eq_bind, Option.bind_some, items, reads pairs]
  rfl

theorem loopOf?_eq {counter : String} {iterator : Node} {body : List Node}
    (same : SameFields [("for", .record [("variable", .text counter),
      ("iterator", iterator.wireAt .statement), ("body", .list (wiresAt .statement body))])] gs)
    (header : ReadsAs .statement iterator) (reads : ReadAs .statement body) :
    loopOf? gs = some (loop counter iterator body) := by
  obtain ⟨inner, _, inside, parts⟩ := same.inside "for" rfl
  obtain ⟨w, _, part, both⟩ := parts.part "iterator" rfl
  obtain ⟨ws, _, items, pairs⟩ := parts.items "body" rfl
  have named := parts.text "variable" rfl
  rw [loopOf?, inside]
  simp only [Option.bind_eq_bind, Option.bind_some, named, part, items, header both, reads pairs]
  rfl

theorem rangeOf?_eq {start stop step : Int}
    (same : SameFields [("range", .record [("start", .number start), ("stop", .number stop),
      ("step", .number step)])] gs) : rangeOf? gs = some (range start stop step) := by
  obtain ⟨inner, _, inside, parts⟩ := same.inside "range" rfl
  have first := parts.number "start" rfl
  have last := parts.number "stop" rfl
  have stride := parts.number "step" rfl
  rw [rangeOf?, inside]
  simp only [Option.bind_eq_bind, Option.bind_some, first, last, stride]
  rfl

/-- No node is sent as an empty value. -/
theorem ne_none_of_same {n : Node} {w : Wire} (same : (n.wireAt .operand).Same w) :
    w ≠ .scalar .none := by
  rintro rfl
  cases n with
  | symbol name =>
    have text := Same.eq_scalar same
    cases text
  | _ =>
    obtain ⟨gs, empty, _⟩ := same.eq_record
    cases empty

theorem retOf?_eq {value : Option Node} (same : SameFields [("return", valueWire value)] gs)
    (reads : ∀ n ∈ value, ReadsAs .operand n) : retOf? gs = some (ret value) := by
  obtain ⟨w, _, part, both⟩ := same.part "return" rfl
  rw [retOf?, part]
  simp only [Option.bind_eq_bind, Option.bind_some]
  cases value with
  | none =>
    obtain rfl := Same.eq_scalar both
    rfl
  | some n =>
    split
    · exact absurd rfl (ne_none_of_same both)
    · rw [reads n rfl both]
      rfl

end Kinds

mutual

theorem ofWire?_of_same : ∀ (n : Node) (position : Position), ReadsAs position n
  | literal value, position, w, same => by
    obtain ⟨gs, rfl, fields⟩ := same.eq_record
    rw [ofWire?, fields.kind_eq]
    exact literalOf?_eq fields
  | symbol name, .statement, w, same => by
    obtain ⟨gs, rfl, fields⟩ := same.eq_record
    have text := fields.text "symbols" rfl
    rw [ofWire?, fields.kind_eq]
    change ((textUnder? gs "symbols").bind symbolName?).map symbol = _
    rw [text, Option.bind_some, symbolName?_symbolText]
    rfl
  | symbol name, .operand, w, same => by
    obtain rfl := Same.eq_scalar same
    rw [ofWire?]
    change (symbolName? (symbolText name)).map symbol = _
    rw [symbolName?_symbolText]
    rfl
  | operation op fixity operands, position, w, same => by
    obtain ⟨gs, rfl, fields⟩ := same.eq_record
    rw [ofWire?, fields.kind_eq]
    exact operationOf?_eq fields (ofWires?_of_same operands .operand)
  | function name formals body, position, w, same => by
    obtain ⟨gs, rfl, fields⟩ := same.eq_record
    rw [ofWire?, fields.kind_eq]
    exact functionOf?_eq fields (ofWires?_of_same body .statement)
  | call callee operands none, position, w, same => by
    obtain ⟨gs, rfl, fields⟩ := same.eq_record
    rw [ofWire?, fields.kind_eq]
    exact callOf?_eq fields (ofWires?_of_same operands .operand) nofun
  | call callee operands (some definition), position, w, same => by
    obtain ⟨gs, rfl, fields⟩ := same.eq_record
    rw [ofWire?, fields.kind_eq]
    refine callOf?_eq fields (ofWires?_of_same operands .operand) ?_
    rintro n ⟨⟩
    exact ofWire?_of_same definition .statement
  | assign name value, position, w, same => by
    obtain ⟨gs, rfl, fields⟩ := same.eq_record
    rw [ofWire?, fields.kind_eq]
    exact assignOf?_eq fields (ofWire?_of_same value .operand)
  | branch condition body none, position, w, same => by
    obtain ⟨gs, rfl, fields⟩ := same.eq_record
    rw [ofWire?, fields.kind_eq]
    exact branchOf?_eq fields (ofWire?_of_same condition .operand)
      (ofWires?_of_same body .statement) nofun
  | branch condition body (some orelse), position, w, same => by
    obtain ⟨gs, rfl, fields⟩ := same.eq_record
    rw [ofWire?, fields.kind_eq]
    refine branchOf?_eq fields (ofWire?_of_same condition .operand)
      (ofWires?_of_same body .statement) ?_
    rintro ns ⟨⟩
    exact ofWires?_of_same orelse .statement
  | otherwise body, position, w, same => by
    obtain ⟨gs, rfl, fields⟩ := same.eq_record
    rw [ofWire?, fields.kind_eq]
    exact otherwiseOf?_eq fields (ofWires?_of_same body .statement)
  | loop counter iterator body, position, w, same => by
    obtain ⟨gs, rfl, fields⟩ := same.eq_record
    rw [ofWire?, fields.kind_eq]
    exact loopOf?_eq fields (ofWire?_of_same iterator .statement)
      (ofWires?_of_same body .statement)
  | ret none, position, w, same => by
    obtain ⟨gs, rfl, fields⟩ := same.eq_record
    rw [ofWire?, fields.kind_eq]
    exact retOf?_eq fields nofun
  | ret (some value), position, w, same => by
    obtain ⟨gs, rfl, fields⟩ := same.eq_record
    rw [ofWire?, fields.kind_eq]
    refine retOf?_eq fields ?_
    rintro n ⟨⟩
    exact ofWire?_of_same value .operand
  | range start stop step, position, w, same => by
    obtain ⟨gs, rfl, fields⟩ := same.eq_record
    rw [ofWire?, fields.kind_eq]
    exact rangeOf?_eq fields
  | sequence values, position, w, same => by
    obtain ⟨gs, rfl, fields⟩ := same.eq_record
    obtain ⟨ws, _, items, pairs⟩ := fields.items "sequence" rfl
    rw [ofWire?, fields.kind_eq]
    change (do
      let ⟨ws, _⟩ ← items? gs "sequence"
      return sequence (← ofWires? ws) : Option Node) = _
    rw [items]
    simp only [Option.bind_eq_bind, Option.bind_some, ofWires?_of_same values .statement pairs]
    rfl

theorem ofWires?_of_same : ∀ (ns : List Node) (position : Position), ReadAs position ns
  | [], position, ws, pairs => by
    cases pairs
    rw [ofWires?]
  | n :: ns, position, ws, pairs => by
    cases pairs with
    | cons head tail =>
      rw [ofWires?, ofWire?_of_same n position head, ofWires?_of_same ns position tail]
      rfl

end

/-- One reader gets every node back from its structure, in either position, whatever the order of
the keys.  Two nodes with the same structure are therefore the same. -/
theorem wire_loses_nothing :
    (∀ (n : Node) (position : Position), ofWire? (n.wireAt position) = some n) ∧
      (∀ (n : Node) (position : Position) (w : Wire),
        (n.wireAt position).Same w → ofWire? w = some n) ∧
      ∀ (m n : Node) (here there : Position), (m.wireAt here).Same (n.wireAt there) → m = n := by
  have back : ∀ (n : Node) (position : Position), ofWire? (n.wireAt position) = some n :=
    fun n position => ofWire?_of_same n position (Same.refl _)
  refine ⟨back, fun n position w same => ofWire?_of_same n position same, ?_⟩
  intro m n here there same
  have read : ofWire? (n.wireAt there) = some m := ofWire?_of_same m here same
  rw [back n there] at read
  exact (Option.some.inj read).symm

theorem wire_loses_nothing_swapped :
    let whole : Node := branch (symbol "x") [ret (some (literal (.bool true)))] none
    let sent : Wire := .record [("if", .record [
      ("body", .list [.record [("return",
        .record [("value", .scalar (.bool true)), ("type", .text "boolean")])]]),
      ("condition", .text "$x")])]
    (whole.wireAt .statement).Same sent ∧ ofWire? sent = some whole := by
  intro whole sent
  have constant : ((literal (.bool true)).wireAt .operand).Same
      (.record [("value", .scalar (.bool true)), ("type", .text "boolean")]) :=
    .swap (by decide) (.refl _) (.refl _)
  have same : (whole.wireAt .statement).Same sent :=
    .single (.swap (by decide) (.refl _) (.list (.cons (.single constant) .nil)))
  exact ⟨same, wire_loses_nothing.2.1 whole .statement sent same⟩

end Node

end Cascade
