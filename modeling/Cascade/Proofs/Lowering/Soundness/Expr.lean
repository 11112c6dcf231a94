import Cascade.Proofs.Lowering.Derivation
import Cascade.Program

set_option autoImplicit false

namespace Cascade.Lowering

open Source

structure Sound (host : Host) (below : Descent) : Prop where
  expr : ∀ {names e s n t}, below.expr names e s = .ok n t →
    Lowered host names (.expr e) s [n] t
  statement : ∀ {names st s n t}, below.statement names st s = .ok n t →
    Lowered host names (.statement st) s n.toList t
  body : ∀ {names ss s ns t}, below.body names ss s = .ok ns t →
    Lowered host names (.block ss) s ns t
  function : ∀ {names id requested s d t}, s.aliases.get? id = none →
    below.function id requested s = .ok d t →
    Lowered host names (.function id requested) s [d.node] t

section Steps

variable {host : Host} {below : Descent} {names : Namespace} {s t : State}

theorem operation_eq_ok {token : String} {operands : List Node} {n : Node} :
    operation token operands s = .ok n t ↔
      (fixityFor token operands).admits operands.length = true ∧
        .operation token (fixityFor token operands) operands = n ∧ s = t := by
  unfold operation fixityFor
  cases Operator.classify token (some (operands.length : Int)) with
  | unknown => simp [Fixity.admits]
  | unary | binary | variadic =>
    simp only [ofExcept_eq_ok, Node.operation?]
    split <;> simp_all

theorem operation_binary_eq_ok {token : String} {a b n : Node}
    (known : Operator.isBinary token = true)
    (clear : Operator.ambiguousTokens.contains token = false) :
    operation token [a, b] s = .ok n t ↔ .operation token .binary [a, b] = n ∧ s = t := by
  have fixity : fixityFor token [a, b] = .binary := by
    simp only [fixityFor, Operator.classify, known, clear, Bool.false_eq_true, if_false, if_true]
  rw [operation_eq_ok, fixity]
  simp [Fixity.admits]

theorem joinOperands_eq_ok {token : String} {first n : Node} {rest : List Node}
    (known : Operator.isBinary token = true)
    (clear : Operator.ambiguousTokens.contains token = false) :
    joinOperands token first rest s = .ok n t ↔ joined token first rest = n ∧ s = t := by
  induction rest generalizing first with
  | nil => simp [joinOperands, joined]
  | cons m ms ih =>
    simp only [joinOperands, bind_eq_ok, operation_binary_eq_ok known clear]
    constructor
    · rintro ⟨_, _, ⟨rfl, rfl⟩, h⟩
      exact ih.1 h
    · intro h
      exact ⟨_, _, ⟨rfl, rfl⟩, ih.2 h⟩

theorem binaryToken_isBinary {op : BinaryOp} {token : String}
    (h : Operator.binaryToken? op = some token) :
    Operator.isBinary token = true ∧ Operator.ambiguousTokens.contains token = false := by
  cases op <;> simp only [Operator.binaryToken?, Option.some.injEq, reduceCtorEq] at h <;>
    subst h <;> decide

theorem compareToken_isBinary {op : CompareOp} {token : String}
    (h : Operator.compareToken? op = some token) :
    Operator.isBinary token = true ∧ Operator.ambiguousTokens.contains token = false := by
  cases op <;> simp only [Operator.compareToken?, Option.some.injEq, reduceCtorEq] at h <;>
    subst h <;> decide

theorem boolToken_isBinary (op : BoolOp) :
    Operator.isBinary (Operator.boolToken op) = true ∧
      Operator.ambiguousTokens.contains (Operator.boolToken op) = false := by
  cases op <;> decide

theorem exprs_sound (sound : Sound host below) {es : List Expr} {ns : List Node}
    (h : exprs below names es s = .ok ns t) : Lowered host names (.exprs es) s ns t := by
  induction es generalizing s ns with
  | nil =>
    simp only [exprs, pure_eq_ok] at h
    obtain ⟨rfl, rfl⟩ := h
    exact .nil
  | cons e es ih =>
    simp only [exprs, bind_eq_ok, pure_eq_ok] at h
    obtain ⟨n, v, head, ms, w, tail, rfl, rfl⟩ := h
    exact .cons (sound.expr head) (ih tail)

theorem unary_sound (sound : Sound host below) {op : UnaryOp} {e : Expr} {n : Node}
    (h : unary below names op e s = .ok n t) :
    Lowered host names (.expr (.unary op e)) s [n] t := by
  have negation (logical : op = .negation ∨ op = .invert)
      (h : (do operation "!" [← below.expr names e] : Lower Node) s = .ok n t) :
      Lowered host names (.expr (.unary op e)) s [n] t := by
    rw [bind_eq_ok] at h
    obtain ⟨m, v, operand, h⟩ := h
    obtain ⟨_, rfl, rfl⟩ := operation_eq_ok.1 h
    exact .negation logical (sound.expr operand)
  cases op with
  | plus => exact .plus (sound.expr h)
  | minus =>
    simp only [unary] at h
    cases sign : negated? e with
    | some value =>
      rw [sign] at h
      obtain ⟨found, rfl⟩ := ofExcept_eq_ok.1 h
      cases e with
      | constant c => exact .negative sign found
      | _ => simp [negated?] at sign
    | none =>
      rw [sign] at h
      simp only [bind_eq_ok] at h
      obtain ⟨m, v, operand, h⟩ := h
      obtain ⟨rfl, rfl⟩ := (operation_binary_eq_ok (by decide) (by decide)).1 h
      exact .minus sign (sound.expr operand)
  | negation => exact negation (.inl rfl) h
  | invert => exact negation (.inr rfl) h

theorem binary_sound (sound : Sound host below) {op : BinaryOp} {left right : Expr} {n : Node}
    (h : binary below names op left right s = .ok n t) :
    Lowered host names (.expr (.binary op left right)) s [n] t := by
  unfold binary at h
  cases known : Operator.binaryToken? op with
  | none =>
    rw [known] at h
    exact absurd h throwQuoting_ne_ok
  | some token =>
    simp only [known, bind_eq_ok] at h
    obtain ⟨a, v, first, b, w, second, h⟩ := h
    obtain ⟨isBinary, clear⟩ := binaryToken_isBinary known
    obtain ⟨rfl, rfl⟩ := (operation_binary_eq_ok isBinary clear).1 h
    exact .binary known (sound.expr first) (sound.expr second)

theorem junction_sound (sound : Sound host below) {op : BoolOp} {first : Expr} {rest : List Expr}
    {n : Node} (h : junction below names op first rest s = .ok n t) :
    Lowered host names (.expr (.junction op first rest)) s [n] t := by
  simp only [junction, bind_eq_ok] at h
  obtain ⟨a, v, head, bs, w, tail, h⟩ := h
  obtain ⟨isBinary, clear⟩ := boolToken_isBinary op
  obtain ⟨rfl, rfl⟩ := (joinOperands_eq_ok isBinary clear).1 h
  exact .junction (sound.expr head) (exprs_sound sound tail)

theorem comparisons_sound (sound : Sound host below) {whole left : Expr}
    {links : List (Comparison Expr)} {ns : List Node}
    (h : comparisons below names whole left links s = .ok ns t) :
    Lowered host names (.chain left links) s ns t := by
  induction links generalizing left s ns with
  | nil =>
    simp only [comparisons, pure_eq_ok] at h
    obtain ⟨rfl, rfl⟩ := h
    exact .chainNil
  | cons link rest ih =>
    obtain ⟨op, right⟩ := link
    simp only [comparisons] at h
    cases known : Operator.compareToken? op with
    | none =>
      rw [known] at h
      exact absurd h throwQuoting_ne_ok
    | some token =>
      simp only [known, bind_eq_ok, pure_eq_ok] at h
      obtain ⟨a, v, first, b, w, second, n, x, made, ms, y, more, rfl, rfl⟩ := h
      obtain ⟨isBinary, clear⟩ := compareToken_isBinary known
      obtain ⟨rfl, rfl⟩ := (operation_binary_eq_ok isBinary clear).1 made
      exact .chainCons known (sound.expr first) (sound.expr second) (ih more)

theorem compare_sound (sound : Sound host below) {left right : Expr} {op : CompareOp}
    {rest : List (Comparison Expr)} {n : Node}
    (h : compare below names left op right rest s = .ok n t) :
    Lowered host names (.expr (.compare left op right rest)) s [n] t := by
  simp only [compare, bind_eq_ok] at h
  obtain ⟨ns, v, links, h⟩ := h
  cases ns with
  | nil => exact absurd h throwQuoting_ne_ok
  | cons m ms =>
    obtain ⟨rfl, rfl⟩ := (joinOperands_eq_ok (by decide) (by decide)).1 h
    exact .compare (comparisons_sound sound links)

theorem closure_eq_ok {entry : Entry} {routine : Routine} {place : Nat} {d : Definition} :
    closure below names entry routine place s = .ok d t ↔
      routine.decorated = false ∧ ∃ formals steps u, routine.formals? entry.name = .ok formals ∧
        below.body names routine.statements (s.opened entry place (frameOf routine formals)) =
          .ok steps u ∧
        ⟨entry.name, Formals.ofNames formals, steps⟩ = d ∧ u.closed s.frames place = t := by
  cases hd : routine.decorated with
  | true => simp [closure, hd]
  | false =>
    simp only [closure, hd, bind_eq_ok, register_eq_ok, Bool.false_eq_true, if_false,
      ofExcept_eq_ok, inChildFrame_eq_ok, pure_eq_ok, true_and]
    constructor
    · rintro ⟨_, _, rfl, formals, _, ⟨accepted, rfl⟩, steps, _, ⟨u, inner, rfl⟩, rfl, rfl⟩
      exact ⟨formals, steps, u, accepted, inner, rfl, rfl⟩
    · rintro ⟨formals, steps, u, accepted, inner, rfl, rfl⟩
      exact ⟨(), _, rfl, formals, _, ⟨accepted, rfl⟩, steps, _, ⟨u, inner, rfl⟩, rfl, rfl⟩

theorem callLambda_sound (sound : Sound host below) {params : List (Parameter Expr)} {body : Expr}
    {args : List Expr} {n : Node} (plain : args.any Expr.isStarred = false)
    (h : callLambda below names params body args s = .ok n t) :
    Lowered host names (.expr (.call (.lambda params body) args [])) s [n] t := by
  simp only [callLambda, bind_eq_ok, nameLambda_eq_ok, closure_eq_ok, pure_eq_ok] at h
  obtain ⟨_, _, ⟨rfl, rfl⟩, _, _, ⟨_, formals, steps, u, accepted, inner, rfl, rfl⟩, operands, _,
    outer, rfl, rfl⟩ := h
  exact .lambda plain accepted (sound.body inner) (exprs_sound sound outer)

theorem callClosure_sound (sound : Sound host below) {id : String} {use : Use} {place : Nat}
    {args : List Expr} {n : Node} (plain : args.any Expr.isStarred = false)
    (owned : s.frames.owner? id = some place)
    (h : callClosure below names id place args s = .ok n t) :
    Lowered host names (.expr (.call (.name id use) args [])) s [n] t := by
  simp only [callClosure, bind_eq_ok, frames_eq_ok] at h
  obtain ⟨operands, u, outer, _, _, ⟨rfl, rfl⟩, h⟩ := h
  -- A reference is made unless the closure is still to be lowered.
  have reference (h : (pure (.call id operands none) : Lower Node) u = .ok n t)
      (started : ∀ routine, u.frames.closure? place id ≠ some ⟨routine, .pending⟩) :
      Lowered host names (.expr (.call (.name id use) args [])) s [n] t := by
    obtain ⟨rfl, rfl⟩ := pure_eq_ok.1 h
    exact .closureReference plain owned (exprs_sound sound outer) started
  cases found : u.frames.closure? place id with
  | none =>
    rw [found] at h
    exact reference h (by simp [found])
  | some c =>
    obtain ⟨routine, status⟩ := c
    cases status with
    | active | lowered =>
      rw [found] at h
      exact reference h (by simp [found])
    | pending =>
      simp only [found, bind_eq_ok, lowerOnce_eq_ok, closure_eq_ok, pure_eq_ok] at h
      obtain ⟨_, _, ⟨_, ⟨undecorated, formals, steps, v, accepted, inner, rfl, rfl⟩, rfl⟩, rfl,
        rfl⟩ := h
      exact .closureDefinition plain owned (exprs_sound sound outer) found undecorated accepted
        (sound.body inner)

theorem callValue_sound (sound : Sound host below) {callee : Expr} {args : List Expr} {n : Node}
    (plain : args.any Expr.isStarred = false)
    (unnamed : (calleeToken? s.frames names callee).filter Operator.isKnown = none)
    (unowned : ∀ word use, callee = .name word use → s.frames.owner? word = none)
    (h : callValue host below names callee args s = .ok n t) :
    Lowered host names (.expr (.call callee args [])) s [n] t := by
  simp only [callValue, bind_eq_ok, frames_eq_ok] at h
  obtain ⟨_, _, ⟨rfl, rfl⟩, h⟩ := h
  cases called : calledBy? host s.frames names callee with
  | none =>
    rw [called] at h
    exact absurd h throwQuoting_ne_ok
  | some target =>
    obtain ⟨id, requested⟩ := target
    simp only [called, callFunction, bind_eq_ok, get_eq_ok] at h
    obtain ⟨operands, u, outer, _, _, ⟨rfl, rfl⟩, h⟩ := h
    cases recorded : u.aliases.get? id with
    | some name =>
      simp only [recorded, bind_eq_ok, record_eq_ok, pure_eq_ok] at h
      obtain ⟨_, _, rfl, rfl, rfl⟩ := h
      exact .functionReference plain unnamed unowned called (exprs_sound sound outer) recorded
    | none =>
      simp only [recorded, bind_eq_ok, pure_eq_ok] at h
      obtain ⟨d, _, definition, rfl, rfl⟩ := h
      exact .functionDefinition plain unnamed unowned called (exprs_sound sound outer) recorded
        (sound.function recorded definition)

theorem call_sound (sound : Sound host below) {callee : Expr} {args : List Expr}
    {keywords : List (Keyword Expr)} {n : Node}
    (h : call host below names callee args keywords s = .ok n t) :
    Lowered host names (.expr (.call callee args keywords)) s [n] t := by
  unfold call at h
  by_cases flexible : (!keywords.isEmpty || args.any Expr.isStarred) = true
  · rw [if_pos flexible] at h
    exact absurd h throwQuoting_ne_ok
  · rw [if_neg flexible] at h
    simp only [Bool.or_eq_true, Bool.not_eq_true', not_or, Bool.not_eq_false, Bool.not_eq_true,
      List.isEmpty_iff] at flexible
    obtain ⟨rfl, plain⟩ := flexible
    simp only [bind_eq_ok, frames_eq_ok] at h
    obtain ⟨_, _, ⟨rfl, rfl⟩, h⟩ := h
    cases known : (calleeToken? s.frames names callee).filter Operator.isKnown with
    | some token =>
      simp only [known, bind_eq_ok, operation_eq_ok] at h
      obtain ⟨operands, u, outer, admitted, rfl, rfl⟩ := h
      exact .operator plain known (exprs_sound sound outer) admitted
    | none =>
      rw [known] at h
      cases callee with
      | lambda params body => exact callLambda_sound sound plain h
      | name id use =>
        cases owned : s.frames.owner? id with
        | some place =>
          simp only [owned] at h
          exact callClosure_sound sound plain owned h
        | none =>
          simp only [owned] at h
          refine callValue_sound sound plain known ?_ h
          rintro word use' ⟨⟩
          exact owned
      | _ =>
        refine callValue_sound sound plain known ?_ h
        rintro word use' ⟨⟩

theorem expr_sound (sound : Sound host below) {e : Expr} {n : Node}
    (h : expr host below names e s = .ok n t) : Lowered host names (.expr e) s [n] t := by
  cases e with
  | binary op left right => exact binary_sound sound h
  | unary op operand => exact unary_sound sound h
  | junction op first rest => exact junction_sound sound h
  | compare left op right rest => exact compare_sound sound h
  | call callee args keywords => exact call_sound sound h
  | name id use =>
    simp only [expr, bind_eq_ok, frames_eq_ok, ofExcept_eq_ok] at h
    obtain ⟨_, _, ⟨rfl, rfl⟩, found, rfl⟩ := h
    exact .name found
  | constant value =>
    obtain ⟨found, rfl⟩ := ofExcept_eq_ok.1 h
    exact .constant found
  | named => exact absurd h refuse_ne_ok
  | _ => exact absurd h throwQuoting_ne_ok

end Steps

end Cascade.Lowering
