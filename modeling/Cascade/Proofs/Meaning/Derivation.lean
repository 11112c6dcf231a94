import Cascade.Proofs.Meaning.Evaluation

set_option autoImplicit false

namespace Cascade.Meaning

open Source Lowering

def InFragment (c : Context) : Job → Prop
  | .expr e => plain c e = true
  | .exprs es => plainList c es = true
  | .chain left links => plain c left = true ∧ plainLinks c links = true
  | .iterator e => header c e = true
  | .statement st => regular c st = true ∧ assigned st ⊆ c.locals
  | .block ss => regularList c ss = true ∧ assignedList ss ⊆ c.locals
  | .function .. => False

theorem plain_unary {c : Context} {op : UnaryOp} {e : Expr} :
    plain c (.unary op e) = true ↔ op ≠ .invert ∧ plain c e = true := by
  rw [plain, decide_eq_true_iff]

def Means (c : Context) : Job → List Node → Prop
  | .expr e, [n] => Discards n ∧ ∀ σ, Engine.value σ n = Rules.reference.value (c.read σ) e
  | .exprs es, ns => ∀ σ, Engine.values σ ns = Rules.reference.values (c.read σ) es
  | .chain left links, ns => (∀ n ∈ ns, Discards n) ∧ ∀ σ, Engine.values σ ns =
      Rules.reference.links (c.read σ) (Rules.reference.value (c.read σ) left) links
  | .iterator e, [n] => ∀ σ, Engine.elements σ n = Rules.reference.elements c σ e
  | .statement st, ns => ∀ σ, Engine.execs ns σ = Rules.reference.step c st σ
  | .block ss, ns => ∀ σ, Engine.execs ns σ = Rules.reference.block c ss σ
  | _, _ => False

variable {c : Context} {s t : State}

theorem means_name {id : String} {use : Use} {n : Node} (settled : Settled c s)
    (inside : plain c (.name id use) = true) (found : nameNode? s.frames c.names id = .ok n) :
    Means c (.expr (.name id use)) [n] := by
  simp only [plain, decide_eq_true_eq] at inside
  unfold nameNode? at found
  rw [settled.owner?_eq_none] at found
  by_cases own : id ∈ c.locals
  · simp only [Option.isSome_none, Bool.false_eq_true, if_false, (settled.isBound_iff id).2 own,
      if_true] at found
    cases found
    exact ⟨fun _ => rfl, fun σ => (Context.read_of_mem own).symm⟩
  · have free : ¬ s.frames.isBound id = true := fun bound => own ((settled.isBound_iff id).1 bound)
    have constant := inside.2.resolve_left own
    simp only [Option.isSome_none, Bool.false_eq_true, if_false, free] at found
    cases held : c.names.get? id with
    | none => simp [held, Context.valueOf, Except.isOk, Except.toBool] at constant
    | some value =>
      cases value with
      | scalar literal =>
        have primitive : literal.isPrimitive = true := by
          rw [held] at constant
          cases literal <;> first | rfl | cases constant
        simp only [held, Option.bind_some, Value.primitive?, primitive, if_true] at found
        rw [Node.literal?_eq_ok found]
        refine ⟨fun _ => rfl, fun σ => ?_⟩
        change Datum.ofScalar literal = c.read σ id
        rw [Context.read_of_notMem own, held]
        rfl
      | _ =>
        rw [held] at constant
        cases constant

section Expressions

variable {e left right first : Expr} {es rest : List Expr} {a b n : Node} {ns : List Node}

theorem means_plus (h : Means c (.expr e) [n]) : Means c (.expr (.unary .plus e)) [n] := by
  refine ⟨h.1, fun σ => ?_⟩
  rw [h.2]
  change _ = (do Rules.reference.unary .plus (← Rules.reference.value (c.read σ) e))
  cases Rules.reference.value (c.read σ) e <;> rfl

theorem means_negative {value negated : Scalar} (inside : plain c (.constant value) = true)
    (sign : value.negate? = some negated) (found : Node.literal? negated = .ok n) :
    Means c (.expr (.unary .minus (.constant value))) [n] := by
  rw [Node.literal?_eq_ok found]
  refine ⟨fun _ => rfl, fun σ => ?_⟩
  cases value with
  | int k =>
    cases sign
    rfl
  | float x => cases inside
  | _ => cases sign

theorem means_minus (h : Means c (.expr e) [n]) :
    Means c (.expr (.unary .minus e)) [.operation "-" .binary [.literal (.int 0), n]] := by
  refine ⟨fun _ => rfl, fun σ => ?_⟩
  rw [Engine.value_binary, h.2]
  change (do Engine.apply "-" [.int 0, ← Rules.reference.value (c.read σ) e]) = _
  simp only [apply_minus]
  rfl

theorem means_negation (h : Means c (.expr e) [n]) :
    Means c (.expr (.unary .negation e)) [.operation "!" .unary [n]] := by
  refine ⟨fun _ => rfl, fun σ => ?_⟩
  rw [Engine.value_unary, h.2]
  simp only [apply_negation]
  rfl

theorem means_binary {op : BinaryOp} {token : String} (known : Operator.binaryToken? op = some token)
    (h₁ : Means c (.expr left) [a]) (h₂ : Means c (.expr right) [b]) :
    Means c (.expr (.binary op left right)) [.operation token .binary [a, b]] := by
  refine ⟨fun _ => rfl, fun σ => ?_⟩
  rw [Engine.value_binary, h₁.2, h₂.2]
  simp only [apply_binary known]
  rfl

theorem means_junction {op : BoolOp} (h₁ : Means c (.expr first) [a])
    (h₂ : Means c (.exprs rest) ns) :
    Means c (.expr (.junction op first rest)) [joined (Operator.boolToken op) a ns] := by
  refine ⟨discards_joined h₁.1 ns, fun σ => ?_⟩
  rw [value_junction, h₁.2, h₂]
  rfl

theorem means_compare {op : CompareOp} {links : List (Comparison Expr)}
    (h : Means c (.chain left (⟨op, right⟩ :: links)) (n :: ns)) :
    Means c (.expr (.compare left op right links)) [joined "&" n ns] := by
  refine ⟨discards_joined (h.1 n List.mem_cons_self) ns, fun σ => ?_⟩
  obtain ⟨head, tail⟩ := List.cons.inj (h.2 σ)
  have whole := value_junction σ .conj n ns
  rw [head, tail] at whole
  exact whole

theorem means_cons (h₁ : Means c (.expr e) [n]) (h₂ : Means c (.exprs es) ns) :
    Means c (.exprs (e :: es)) (n :: ns) := by
  intro σ
  exact congrArg₂ List.cons (h₁.2 σ) (h₂ σ)

theorem means_chainCons {op : CompareOp} {token : String} {links : List (Comparison Expr)}
    (known : Operator.compareToken? op = some token) (h₁ : Means c (.expr left) [a])
    (h₂ : Means c (.expr right) [b]) (h₃ : Means c (.chain right links) ns) :
    Means c (.chain left (⟨op, right⟩ :: links)) (.operation token .binary [a, b] :: ns) := by
  refine ⟨?_, fun σ => ?_⟩
  · intro n member
    rcases List.mem_cons.1 member with rfl | member
    · exact fun _ => rfl
    · exact h₃.1 n member
  · refine congrArg₂ List.cons ?_ (h₃.2 σ)
    rw [Engine.value_binary, h₁.2, h₂.2]
    simp only [apply_compare known]
    rfl

end Expressions

section Statements

variable {e test : Expr} {body orelse : List Stmt} {n : Node} {yes no steps : List Node}

theorem means_branch (h₁ : Means c (.expr test) [n]) (h₂ : Means c (.block body) yes) :
    Means c (.statement (.branch test body [])) [.branch n yes none] := by
  intro σ
  have taken : Engine.execs yes σ = Rules.reference.block c body σ := h₂ σ
  rw [Engine.execs_singleton]
  change (do if (← Engine.value σ n).holds then Engine.execs yes σ else .ok (.running σ)) = _
  rw [h₁.2, taken]
  rfl

theorem means_branchElse (h₁ : Means c (.expr test) [n]) (h₂ : Means c (.block body) yes)
    (h₃ : Means c (.block orelse) no) :
    Means c (.statement (.branch test body orelse)) [.branch n yes (some no)] := by
  intro σ
  have taken : Engine.execs yes σ = Rules.reference.block c body σ := h₂ σ
  have other : Engine.execs no σ = Rules.reference.block c orelse σ := h₃ σ
  rw [Engine.execs_singleton]
  change (do if (← Engine.value σ n).holds then Engine.execs yes σ else Engine.execs no σ) = _
  rw [h₁.2, taken, other]
  rfl

theorem means_loop {id : String} {use : Use} {source : Expr} {values : Node}
    (h₁ : Means c (.iterator source) [values]) (h₂ : Means c (.block body) steps) :
    Means c (.statement (.forLoop (.name id use) source body [])) [.loop id values steps] := by
  intro σ
  have elements : Engine.elements σ values = Rules.reference.elements c σ source := h₁ σ
  have inner : Engine.execs steps = Rules.reference.block c body := funext h₂
  rw [Engine.execs_singleton]
  change (do each id (Engine.execs steps) (← Engine.elements σ values) σ) = _
  rw [elements, inner]
  exact (andThen_idle _).symm

theorem means_retValue (h : Means c (.expr e) [n]) :
    Means c (.statement (.ret (some e))) [.ret (some n)] := by
  intro σ
  rw [Engine.execs_singleton]
  change (do return Progress.returned (some (← Engine.value σ n)) σ) = _
  rw [h.2]
  rfl

theorem means_assign {id : String} {use : Use} (h : Means c (.expr e) [n]) :
    Means c (.statement (.assign [.name id use] e)) [.assign id n] := by
  intro σ
  rw [Engine.execs_singleton]
  change (do return Progress.running (σ.set id (← Engine.value σ n))) = _
  rw [h.2]
  rfl

theorem means_augAssign {id : String} {use : Use} {op : BinaryOp} {token : String}
    (own : id ∈ c.locals) (known : Operator.binaryToken? op = some token)
    (h : Means c (.expr e) [n]) :
    Means c (.statement (.augAssign (.name id use) op e))
      [.assign id (.operation token .binary [.symbol id, n])] := by
  intro σ
  have old : Engine.value σ (.symbol id) = Rules.reference.value (c.read σ) (.name id use) :=
    (Context.read_of_mem own).symm
  rw [Engine.execs_singleton]
  change (do return Progress.running (σ.set id
    (← Engine.value σ (.operation token .binary [.symbol id, n])))) = _
  rw [Engine.value_binary, h.2, old]
  simp only [apply_binary known]
  rfl

theorem means_expression (h : Means c (.expr e) [n]) : Means c (.statement (.expr e)) [n] := by
  intro σ
  rw [Engine.execs_singleton, h.1, h.2]
  rfl

theorem means_blockCons {st : Stmt} {ss : List Stmt} {ns ms : List Node}
    (h₁ : Means c (.statement st) ns) (h₂ : Means c (.block ss) ms) :
    Means c (.block (st :: ss)) (ns ++ ms) := by
  intro σ
  have first : Engine.execs ns σ = Rules.reference.step c st σ := h₁ σ
  have rest : Engine.execs ms = Rules.reference.block c ss := funext h₂
  rw [Engine.execs_append, first, rest]
  rfl

end Statements

/-- Every derivation in the fragment keeps the frames settled and the meaning as it is. -/
theorem lowered_means {host : Host} {names : Namespace} {job : Job} {ns : List Node}
    (h : Lowered host names job s ns t) (same : names = c.names) (inside : InFragment c job)
    (settled : Settled c s) : Settled c t ∧ Means c job ns := by
  induction h with
  | name found =>
    subst same
    exact ⟨settled, means_name settled inside found⟩
  | constant found =>
    rw [constantNode?_eq_ok found]
    exact ⟨settled, fun _ => rfl, fun _ => rfl⟩
  | negative sign found => exact ⟨settled, means_negative (plain_unary.1 inside).2 sign found⟩
  | plus _ ih => exact (ih same (plain_unary.1 inside).2 settled).imp id means_plus
  | minus _ _ ih => exact (ih same (plain_unary.1 inside).2 settled).imp id means_minus
  | negation logical _ ih =>
    obtain ⟨admitted, operand⟩ := plain_unary.1 inside
    cases logical.resolve_right admitted
    exact (ih same operand settled).imp id means_negation
  | binary known _ _ ih₁ ih₂ =>
    simp only [InFragment, plain, Bool.and_eq_true] at inside
    obtain ⟨settled, left⟩ := ih₁ same inside.1 settled
    exact (ih₂ same inside.2 settled).imp id (means_binary known left)
  | junction _ _ ih₁ ih₂ =>
    simp only [InFragment, plain, Bool.and_eq_true] at inside
    obtain ⟨settled, head⟩ := ih₁ same inside.1 settled
    exact (ih₂ same inside.2 settled).imp id (means_junction head)
  | compare _ ih =>
    simp only [InFragment, plain, Bool.and_eq_true] at inside
    refine (ih same ⟨inside.1, ?_⟩ settled).imp id means_compare
    simpa only [plainLinks, Bool.and_eq_true] using inside.2
  | operator | lambda | closureReference | closureDefinition | functionReference
  | functionDefinition => cases inside
  | nil => exact ⟨settled, fun _ => rfl⟩
  | cons _ _ ih₁ ih₂ =>
    simp only [InFragment, plainList, Bool.and_eq_true] at inside
    obtain ⟨settled, head⟩ := ih₁ same inside.1 settled
    exact (ih₂ same inside.2 settled).imp id (means_cons head)
  | chainNil => exact ⟨settled, fun _ member => (List.not_mem_nil member).elim, fun _ => rfl⟩
  | chainCons known _ _ _ ih₁ ih₂ ih₃ =>
    simp only [InFragment, plainLinks, Bool.and_eq_true] at inside
    obtain ⟨settled, left⟩ := ih₁ same inside.1 settled
    obtain ⟨settled, right⟩ := ih₂ same inside.2.1 settled
    exact (ih₃ same inside.2 settled).imp id (means_chainCons known left right)
  | range static moves =>
    subst same
    exact ⟨settled, fun σ => (elements_of_staticRange? settled σ static moves).symm⟩
  | display shape _ _ ih =>
    rcases shape with rfl | rfl
    all_goals
      obtain ⟨settled, values⟩ := ih same inside settled
      exact ⟨settled, fun σ => congrArg gather (values σ)⟩
  | constants static found =>
    subst same
    rw [literals?_eq_ok found]
    refine ⟨settled, fun σ => ?_⟩
    rw [elements_of_staticValues? settled σ static, ← Engine.values_literals σ]
    rfl
  | branch _ _ ih₁ ih₂ =>
    simp only [InFragment, regular, assigned, Bool.and_eq_true, List.append_subset] at inside
    obtain ⟨settled, test⟩ := ih₁ same inside.1.1 settled
    exact (ih₂ same ⟨inside.1.2.1, inside.2.1⟩ settled).imp id (means_branch test)
  | branchElse _ _ _ ih₁ ih₂ ih₃ =>
    simp only [InFragment, regular, assigned, Bool.and_eq_true, List.append_subset] at inside
    obtain ⟨settled, test⟩ := ih₁ same inside.1.1 settled
    obtain ⟨settled, yes⟩ := ih₂ same ⟨inside.1.2.1, inside.2.1⟩ settled
    exact (ih₃ same ⟨inside.1.2.2, inside.2.2⟩ settled).imp id (means_branchElse test yes)
  | loop _ _ ih₁ ih₂ =>
    -- The variable is bound between the header and the body, and it is one of the function anyway.
    simp only [InFragment, regular, assigned, targetNames, Bool.and_eq_true, List.append_subset,
      List.cons_subset] at inside
    obtain ⟨settled, header⟩ := ih₁ same inside.1.2.1 settled
    have bound := settled.bind inside.2.1.1
    exact (ih₂ same ⟨inside.1.2.2.1, inside.2.2.1⟩ bound).imp id (means_loop header)
  | ret | declaration | pass | blockNil => exact ⟨settled, fun _ => rfl⟩
  | retValue _ ih => exact (ih same inside.1 settled).imp id means_retValue
  | augAssign known _ ih =>
    simp only [InFragment, regular, assigned, targetNames, Bool.and_eq_true,
      List.cons_subset] at inside
    obtain ⟨settled, value⟩ := ih same inside.1.2 settled
    exact ⟨settled.bind inside.2.1, means_augAssign inside.2.1 known value⟩
  | annotated _ ih =>
    simp only [InFragment, regular, assigned, Bool.and_eq_true] at inside
    have plain : InFragment c (.statement (.assign [_] _)) :=
      ⟨Bool.and_eq_true_iff.2 ⟨inside.1.1, inside.1.2.2.1⟩, inside.2⟩
    exact ih same plain settled
  | assign _ ih =>
    simp only [InFragment, regular, assigned, targetNames, Bool.and_eq_true,
      List.cons_subset] at inside
    obtain ⟨settled, value⟩ := ih same inside.1.2 settled
    exact ⟨settled.bind inside.2.1, means_assign value⟩
  | assignLambda =>
    simp only [InFragment, regular, Bool.and_eq_true] at inside
    cases inside.1.2
  | nested | dropped => cases inside.1
  | expression _ ih => exact (ih same inside.1 settled).imp id means_expression
  | blockCons _ _ ih₁ ih₂ =>
    simp only [InFragment, regularList, assignedList, Bool.and_eq_true, List.append_subset] at inside
    obtain ⟨settled, first⟩ := ih₁ same ⟨inside.1.1, inside.2.1⟩ settled
    exact (ih₂ same ⟨inside.1.2, inside.2.2⟩ settled).imp id (means_blockCons first)
  | function => cases inside

end Cascade.Meaning
