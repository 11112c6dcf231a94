import Cascade.Proofs.Lowering.Coupling.Basic
import Cascade.Proofs.Lowering.Faults
import Cascade.Proofs.Lowering.Parts
import Cascade.Proofs.Lowering.Soundness

set_option autoImplicit false

namespace Cascade.Lowering

open Source

theorem Likeness.joined (L : Likeness) {w : L.Stage} {token : String} {n o : Node}
    {ns os : List Node} (first : L.Similar w n o) (rest : List.Forall₂ (L.Similar w) ns os) :
    L.Similar w (Lowering.joined token n ns) (Lowering.joined token o os) := by
  induction rest generalizing n o with
  | nil => exact first
  | cons head _ ih => exact ih (L.operation (.cons first (.cons head .nil)))

section Operands

variable {C : Coupling} {below below' : Descent} {names names' : Namespace} {w : C.Stage}
  {s s' : State} {held : List Definition}

theorem ofExcept_coupled {α : Type} [Outcome α] {x : Except Fault α} (here : C.At w s s')
    (alike : ∀ {a}, x = .ok a → C.Like w a a) (own : ∀ {cause}, x = .error cause →
      C.Alike cause cause) :
    C.Ends [] w (ofExcept x s) (ofExcept x s') := by
  cases x with
  | ok a => exact C.pure here (alike rfl) (List.nil_subset _)
  | error cause => exact C.fault here (own rfl)

theorem operation_coupled {token : String} {ns os : List Node} (here : C.At w s s')
    (operands : List.Forall₂ (C.Similar w) ns os) (kept : held ⊆ Node.functionsList ns)
    (own : ∀ {cause}, operation token ns s = .error cause s → C.Alike cause cause) :
    C.Ends held w (operation token ns s) (operation token os s') := by
  unfold operation at own ⊢
  rw [← operands.length_eq]
  cases fixity : Operator.classify token (some (ns.length : Int)) with
  | unknown =>
    rw [fixity] at own
    exact C.fault here (own rfl)
  | unary | binary | variadic =>
    rw [fixity] at own
    unfold Node.operation? at own ⊢
    rw [← operands.length_eq]
    dsimp only at own ⊢
    split
    · exact C.pure here (C.operation operands) kept
    next unfit =>
      rw [if_neg unfit] at own
      exact C.fault here (own rfl)

theorem pair_coupled {token : String} {a b a' b' : Node} (here : C.At w s s')
    (known : Operator.isBinary token = true ∧ Operator.ambiguousTokens.contains token = false)
    (first : C.Similar w a a') (second : C.Similar w b b')
    (kept : held ⊆ a.functions ++ b.functions) :
    C.Ends held w (operation token [a, b] s) (operation token [a', b'] s') := by
  rw [(operation_binary_eq_ok known.1 known.2).2 ⟨rfl, rfl⟩,
    (operation_binary_eq_ok known.1 known.2).2 ⟨rfl, rfl⟩]
  exact C.pure here (C.operation (.cons first (.cons second .nil))) (by simpa using kept)

theorem joinOperands_coupled {token : String} {n o : Node} {ns os : List Node} (here : C.At w s s')
    (known : Operator.isBinary token = true ∧ Operator.ambiguousTokens.contains token = false)
    (first : C.Similar w n o) (rest : List.Forall₂ (C.Similar w) ns os)
    (kept : held ⊆ n.functions ++ Node.functionsList ns) :
    C.Ends held w (joinOperands token n ns s) (joinOperands token o os s') := by
  rw [(joinOperands_eq_ok known.1 known.2).2 ⟨rfl, rfl⟩,
    (joinOperands_eq_ok known.1 known.2).2 ⟨rfl, rfl⟩]
  rw [← functions_joined token] at kept
  exact C.pure here (C.joined first rest) kept

theorem exprs_nil_coupled (here : C.At w s s') :
    C.Ends [] w (exprs below names [] s) (exprs below' names' [] s') :=
  C.pure here .nil (List.nil_subset _)

theorem exprs_cons_coupled {e e' : Expr} {es es' : List Expr}
    (head : C.Ends [] w (below.expr names e s) (below'.expr names' e' s'))
    (tail : ∀ {n t t' v}, below.expr names e s = .ok n t → C.Later w v → C.At v t t' →
      C.Ends [] v (exprs below names es t) (exprs below' names' es' t')) :
    C.Ends [] w (exprs below names (e :: es) s) (exprs below' names' (e' :: es') s') := by
  unfold exprs
  refine C.bind head fun ran later here first => ?_
  refine C.bind (tail ran later here) fun _ later here rest => ?_
  exact C.pure here (.cons (C.similar_later later first) rest) (by simp)

theorem unary_coupled {op : UnaryOp} {e e' : Expr} (here : C.At w s s')
    (sign : op = .minus → negated? e' = negated? e)
    (operand : (op = .minus → negated? e = none) →
      C.Ends [] w (below.expr names e s) (below'.expr names' e' s'))
    (own : ∀ {cause}, cause.isSimple = true → C.Alike cause cause) :
    C.Ends [] w (unary below names op e s) (unary below' names' op e' s') := by
  have negation (operand : C.Ends [] w (below.expr names e s) (below'.expr names' e' s')) :
      C.Ends [] w ((do operation "!" [← below.expr names e] : Lower Node) s)
        ((do operation "!" [← below'.expr names' e'] : Lower Node) s') := by
    refine C.bind operand fun _ _ here first => ?_
    rw [operation_eq_ok.2 ⟨rfl, rfl, rfl⟩, operation_eq_ok.2 ⟨rfl, rfl, rfl⟩]
    exact C.pure here (C.operation (.cons first .nil)) (by simp)
  unfold unary
  cases op with
  | plus => exact operand nofun
  | minus =>
    rw [sign rfl]
    cases found : negated? e with
    | some value =>
      refine ofExcept_coupled here (fun found => ?_) fun failed => own (simple_literal failed)
      rw [Node.literal?_eq_ok found]
      exact C.literal value
    | none =>
      refine C.bind (operand fun _ => found) fun _ _ here first => ?_
      exact pair_coupled here (by decide) (C.literal _) first (by simp)
  | negation | invert => exact negation (operand nofun)

theorem binary_coupled {op : BinaryOp} {left left' right right' : Expr} (here : C.At w s s')
    (first : ∀ {token}, Operator.binaryToken? op = some token →
      C.Ends [] w (below.expr names left s) (below'.expr names' left' s'))
    (second : ∀ {token a t t' v}, Operator.binaryToken? op = some token →
      below.expr names left s = .ok a t → C.Later w v → C.At v t t' →
      C.Ends [] v (below.expr names right t) (below'.expr names' right' t'))
    (own : Operator.binaryToken? op = none →
      C.Alike (quotingFault [.binary op left right]
          (.unknownOperator (Expr.binary op left right).text))
        (quotingFault [.binary op left' right']
          (.unknownOperator (Expr.binary op left' right').text))) :
    C.Ends [] w (binary below names op left right s) (binary below' names' op left' right' s') := by
  unfold binary
  cases known : Operator.binaryToken? op with
  | none => exact C.fault here (own known)
  | some token =>
    refine C.bind (first known) fun ran later here a => ?_
    refine C.bind (second known ran later here) fun _ later here b => ?_
    exact pair_coupled here (binaryToken_isBinary known) (C.similar_later later a) b (by simp)

theorem junction_coupled {op : BoolOp} {first first' : Expr} {rest rest' : List Expr}
    (head : C.Ends [] w (below.expr names first s) (below'.expr names' first' s'))
    (tail : ∀ {n t t' v}, below.expr names first s = .ok n t → C.Later w v → C.At v t t' →
      C.Ends [] v (exprs below names rest t) (exprs below' names' rest' t')) :
    C.Ends [] w (junction below names op first rest s)
      (junction below' names' op first' rest' s') := by
  unfold junction
  refine C.bind head fun ran later here a => ?_
  refine C.bind (tail ran later here) fun _ later here bs => ?_
  exact joinOperands_coupled here (boolToken_isBinary op) (C.similar_later later a) bs (by simp)

theorem comparisons_cons_coupled {whole whole' left left' right right' : Expr} {op : CompareOp}
    {links links' : List (Comparison Expr)} (here : C.At w s s')
    (first : ∀ {token}, Operator.compareToken? op = some token →
      C.Ends [] w (below.expr names left s) (below'.expr names' left' s'))
    (second : ∀ {token a t t' v}, Operator.compareToken? op = some token →
      below.expr names left s = .ok a t → C.Later w v → C.At v t t' →
      C.Ends [] v (below.expr names right t) (below'.expr names' right' t'))
    (rest : ∀ {token a t b u u' v}, Operator.compareToken? op = some token →
      below.expr names left s = .ok a t → below.expr names right t = .ok b u → C.Later w v →
      C.At v u u' → C.Ends [] v (comparisons below names whole right links u)
        (comparisons below' names' whole' right' links' u'))
    (own : Operator.compareToken? op = none →
      C.Alike (quotingFault [whole] (.unknownOperator whole.text))
        (quotingFault [whole'] (.unknownOperator whole'.text))) :
    C.Ends [] w (comparisons below names whole left (⟨op, right⟩ :: links) s)
      (comparisons below' names' whole' left' (⟨op, right'⟩ :: links') s') := by
  unfold comparisons
  cases known : Operator.compareToken? op with
  | none => exact C.fault here (own known)
  | some token =>
    have isBinary := compareToken_isBinary known
    refine C.bind (first known) fun ran later here a => ?_
    refine C.bind (second known ran later here) fun ran' later' here b => ?_
    refine C.bind (pair_coupled here isBinary (C.similar_later later' a) b (List.nil_subset _))
      fun made later'' here n => ?_
    obtain ⟨rfl, rfl⟩ := (operation_binary_eq_ok isBinary.1 isBinary.2).1 made
    refine C.bind (rest known ran ran' (C.later_trans (C.later_trans later later') later'') here)
      fun _ later here ns => ?_
    exact C.pure here (.cons (C.similar_later later n) ns) (by simp)

theorem comparisons_ne_nil {whole left : Expr} {link : Comparison Expr}
    {links : List (Comparison Expr)} {t : State} :
    comparisons below names whole left (link :: links) s ≠ .ok [] t := by
  obtain ⟨op, right⟩ := link
  intro ran
  unfold comparisons at ran
  cases known : Operator.compareToken? op with
  | none =>
    rw [known] at ran
    exact throwQuoting_ne_ok ran
  | some token =>
    rw [known] at ran
    simp only [bind_eq_ok, pure_eq_ok] at ran
    obtain ⟨_, _, _, _, _, _, _, _, _, _, _, _, empty, _⟩ := ran
    cases empty

theorem compare_coupled {left left' right right' : Expr} {op : CompareOp}
    {rest rest' : List (Comparison Expr)}
    (links : C.Ends [] w
      (comparisons below names (.compare left op right rest) left (⟨op, right⟩ :: rest) s)
      (comparisons below' names' (.compare left' op right' rest') left' (⟨op, right'⟩ :: rest')
        s')) :
    C.Ends [] w (compare below names left op right rest s)
      (compare below' names' left' op right' rest' s') := by
  unfold compare
  refine C.bind links fun ran _ here chain => ?_
  cases chain with
  | nil => exact absurd ran comparisons_ne_nil
  | cons head tail => exact joinOperands_coupled here (by decide) head tail (by simp)

end Operands

end Cascade.Lowering
