import Cascade.Proofs.Meaning.Source

set_option autoImplicit false

namespace Cascade.Meaning

open Source

/-- What the first outcome gives, the second gives too, unless it stops at a plus sign. -/
def Agrees {α : Type} (x y : Outcome α) : Prop :=
  ∀ v, x = .ok v → y = .ok v ∨ y = .error .plusOnTruth

namespace Agrees

variable {α β : Type} {x y : Outcome α} {f g : α → Outcome β}

theorem refl (x : Outcome α) : Agrees x x :=
  fun _ h => .inl h

theorem of_undefined : Agrees (.error .undefined) y := by
  intro v h
  cases h

theorem bind (h : Agrees x y) (next : ∀ v, Agrees (f v) (g v)) : Agrees (x >>= f) (y >>= g) := by
  intro b result
  cases x with
  | error cause => cases result
  | ok v =>
    rcases h v rfl with rfl | rfl
    · exact next v b result
    · exact .inr rfl

theorem andThen {x y : Outcome Progress} {f g : Store → Outcome Progress} (h : Agrees x y)
    (next : ∀ σ, Agrees (f σ) (g σ)) : Agrees (andThen x f) (andThen y g) := by
  refine h.bind fun progress => ?_
  cases progress with
  | running σ => exact next σ
  | returned v σ => exact refl _

theorem each {id : String} {f g : Store → Outcome Progress} (body : ∀ σ, Agrees (f σ) (g σ))
    (vs : List Datum) (σ : Store) : Agrees (each id f vs σ) (each id g vs σ) := by
  induction vs generalizing σ with
  | nil => exact refl _
  | cons v vs ih => exact (body _).andThen ih

theorem gather {xs ys : List (Outcome Datum)} (h : List.Forall₂ Agrees xs ys) :
    Agrees (gather xs) (gather ys) := by
  induction h with
  | nil => exact refl _
  | cons first _ ih => exact first.bind fun v => ih.bind fun vs => refl _

end Agrees

namespace Rules

theorem unary_agrees (op : UnaryOp) (v : Datum) :
    Agrees (reference.unary op v) (language.unary op v) := by
  cases op <;> cases v <;> first | exact .refl _ | exact .of_undefined | exact fun _ _ => .inr rfl

theorem binary_agrees (op : BinaryOp) (a b : Datum) :
    Agrees (reference.binary op a b) (language.binary op a b) := by
  cases a <;> cases b <;> cases op <;> first | exact .refl _ | exact .of_undefined

theorem compare_agrees (op : CompareOp) (a b : Datum) :
    Agrees (reference.compare op a b) (language.compare op a b) := by
  cases a with
  | int a =>
    cases b with
    | int b => exact .refl _
    | truth b => cases op <;> exact .of_undefined
  | truth a =>
    cases b with
    | int b => cases op <;> exact .of_undefined
    | truth b =>
      cases op <;> first | exact .of_undefined | (cases a <;> cases b <;> exact .refl _)

theorem either_assoc (op : BoolOp) (a b c : Outcome Datum) :
    either op (either op a b) c = either op a (either op b c) := by
  cases a with
  | error cause => rfl
  | ok v =>
    by_cases decides : v.holds = decisive op
    · simp [either, decides]
    · simp [either, decides]

theorem eitherOf_either (op : BoolOp) (a b : Outcome Datum) (rest : List (Outcome Datum)) :
    eitherOf op (either op a b) rest = either op a (eitherOf op b rest) := by
  cases rest with
  | nil => rfl
  | cons c rest => exact either_assoc op a b (eitherOf op c rest)

theorem both_eq_ok {op : BoolOp} {v u w : Datum} (h : both op v u = .ok w) :
    w = if v.holds = decisive op then v else u := by
  cases v with
  | int n => cases op <;> cases h
  | truth a =>
    cases u with
    | int n => cases op <;> cases h
    | truth b => cases op <;> cases h <;> cases a <;> rfl

theorem both_agrees (op : BoolOp) {a a' b b' : Outcome Datum} (first : Agrees a a')
    (second : Agrees b b') : Agrees (do both op (← a) (← b)) (either op a' b') := by
  refine first.bind fun v => ?_
  intro w result
  cases b with
  | error cause => cases result
  | ok u =>
    rw [both_eq_ok result]
    split
    · exact .inl rfl
    · exact second u rfl

/-- Operands joined from the left give what the first deciding operand gives. -/
theorem junction_agrees (op : BoolOp) {first first' : Outcome Datum}
    {rest rest' : List (Outcome Datum)} (head : Agrees first first')
    (tail : List.Forall₂ Agrees rest rest') :
    Agrees (reference.junction op first rest) (language.junction op first' rest') := by
  -- The engine joins from the left: each step moves one operand into the first.
  induction tail generalizing first first' with
  | nil => exact head
  | cons next _ ih =>
    have joined := ih (both_agrees op head next)
    change Agrees _ (eitherOf op (either op _ _) _) at joined
    rw [eitherOf_either] at joined
    exact joined

variable (read : String → Outcome Datum)

theorem link_agrees (op : CompareOp) {a a' b b' : Outcome Datum} (left : Agrees a a')
    (right : Agrees b b') : Agrees (reference.link op a b) (language.link op a' b') :=
  left.bind fun v => right.bind fun w => compare_agrees op v w

mutual

theorem value_agrees : ∀ e, Agrees (reference.value read e) (language.value read e)
  | .name _ _ | .constant _ => .refl _
  | .unary op e => (value_agrees e).bind fun v => unary_agrees op v
  | .binary op a b => (value_agrees a).bind fun v => (value_agrees b).bind fun w =>
      binary_agrees op v w
  | .junction op first rest => junction_agrees op (value_agrees first) (values_agree rest)
  | .compare left op right rest =>
    junction_agrees .conj (link_agrees op (value_agrees left) (value_agrees right))
      (links_agree (value_agrees right) rest)
  | .call .. | .member .. | .subscript .. | .slice .. | .conditional .. | .lambda .. | .tuple _
  | .list _ | .set _ | .dict _ | .comprehension .. | .dictComprehension .. | .named .. | .yield _
  | .yieldFrom _ | .await _ | .fstring _ | .formatted .. | .starred _ => .of_undefined

theorem values_agree : ∀ es, List.Forall₂ Agrees (reference.values read es) (language.values read es)
  | [] => .nil
  | e :: es => .cons (value_agrees e) (values_agree es)

theorem links_agree {left left' : Outcome Datum} (h : Agrees left left') : ∀ links,
    List.Forall₂ Agrees (reference.links read left links) (language.links read left' links)
  | [] => .nil
  | ⟨op, right⟩ :: rest =>
    .cons (link_agrees op h (value_agrees right)) (links_agree (value_agrees right) rest)

end

variable (c : Context)

theorem elements_agree (σ : Store) (e : Expr) :
    Agrees (reference.elements c σ e) (language.elements c σ e) := by
  have shown (es : List Expr) : Agrees (gather (reference.values (c.read σ) es))
      (gather (language.values (c.read σ) es)) := .gather (values_agree _ es)
  unfold elements
  split
  · split
    · exact (shown _).bind fun _ => .refl _
    · exact .of_undefined
  · exact shown _
  · exact shown _
  · exact .refl _
  · exact .of_undefined

theorem assignTo_agrees (targets : List Expr) {v w : Outcome Datum} (h : Agrees v w) (σ : Store) :
    Agrees (assignTo targets v σ) (assignTo targets w σ) := by
  unfold assignTo
  split
  · exact h.bind fun _ => .refl _
  · exact .of_undefined

theorem loopOver_agrees (target : Expr) {f g : Store → Outcome Progress}
    (body : ∀ σ, Agrees (f σ) (g σ)) {vs ws : Outcome (List Datum)} (h : Agrees vs ws) (σ : Store) :
    Agrees (loopOver target f vs σ) (loopOver target g ws σ) := by
  unfold loopOver
  split
  · exact h.bind fun vs => .each body vs σ
  · exact .of_undefined

mutual

theorem step_agrees : ∀ s σ, Agrees (reference.step c s σ) (language.step c s σ)
  | .assign targets e, σ => assignTo_agrees targets (value_agrees _ e) σ
  | .annAssign target _ (some e) _, σ => assignTo_agrees [target] (value_agrees _ e) σ
  | .augAssign target op e, σ =>
    assignTo_agrees [target] ((value_agrees _ target).bind fun v => (value_agrees _ e).bind fun w =>
      binary_agrees op v w) σ
  | .branch test body orelse, σ => (value_agrees _ test).bind fun v => by
    split
    · exact block_agrees body σ
    · exact block_agrees orelse σ
  | .forLoop target iterator body orelse, σ =>
    (loopOver_agrees target (block_agrees body) (elements_agree c σ iterator) σ).andThen
      (block_agrees orelse)
  | .ret (some e), σ => (value_agrees _ e).bind fun _ => .refl _
  | .expr e, σ => (value_agrees _ e).bind fun _ => .refl _
  | .annAssign _ _ none _, _ | .ret none, _ | .pass, _ => .refl _
  | .function .., _ | .asyncFunction .., _ | .classDef .., _ | .whileLoop .., _
  | .refused .., _ => .of_undefined

theorem block_agrees : ∀ ss σ, Agrees (reference.block c ss σ) (language.block c ss σ)
  | [], _ => .refl _
  | s :: ss, σ => (step_agrees s σ).andThen (block_agrees ss)

end

theorem body_agrees (ss : List Stmt) (σ : Store) :
    Agrees (reference.body c ss σ) (language.body c ss σ) := by
  induction ss generalizing σ with
  | nil => exact .refl _
  | cons s ss ih =>
    unfold body
    split
    · rename_i e
      split
      · exact (value_agrees _ e).bind fun _ => .refl _
      · exact (step_agrees c (.expr e) σ).andThen ih
    · exact (step_agrees c s σ).andThen ih

theorem run_agrees (routine : Routine) (σ : Store) :
    Agrees (reference.run c routine σ) (language.run c routine σ) := by
  unfold run
  split
  · exact (value_agrees _ _).bind fun _ => .refl _
  · exact .refl _
  · split
    · exact body_agrees c _ σ
    · exact body_agrees c _ σ

end Rules

end Cascade.Meaning
