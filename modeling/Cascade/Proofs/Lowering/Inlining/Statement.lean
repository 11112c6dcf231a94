import Cascade.Proofs.Lowering.Inlining.Expr

set_option autoImplicit false

namespace Cascade.Lowering

open Source

section Steps

variable {host host' : Host} {id : FunctionId} {spare : Bool} {off : List String}
  {below below' : Descent} {names : Namespace} {s s' : State}

theorem iterator_guided (guides : Guides id spare below below') {source : Expr}
    (exposed : source.exposesHeader spare off = true) (paired : Paired id off s s') :
    Guided id off (iterator below names source s) (iterator below' names (source.inline off) s') := by
  have kept (apart : off.Disjoint source.mentions)
      (plain : ∀ elements, source ≠ .list elements ∧ source ≠ .tuple elements) :
      Guided id off (iterator below names source s)
        (iterator below' names (source.inline off) s') := by
    rw [Expr.inline_of_disjoint apart]
    refine iterator_coupled (C := guiding id off) (w := ()) paired
      (staticRange?_of_sameBut paired.frames apart) ?_ ?_ fun _ => trivial
    · rintro word use rfl
      exact staticValues?_congr
        (sameAnswer_of_sameBut paired.frames (List.disjoint_singleton.1 apart))
    · intro elements shape
      exact absurd shape (not_or.2 (plain elements))
  cases source with
  | list elements | tuple elements =>
    exact displayIterator_coupled (C := guiding id off) (w := ())
      (exprs_guided guides exposed paired) trivial
  | _ => exact kept (Expr.lacks_iff.1 exposed) fun _ => ⟨nofun, nofun⟩

theorem block_guided (guides : Guides id spare below below') {ss ss' : List Stmt}
    (aligned : Stmt.Aligned spare off ss ss') (paired : Paired id off s s') :
    Guided id off (block below names ss s) (block below' names ss' s') := by
  induction aligned generalizing s s' with
  | nil => exact .ok paired
  | @cons st ss ss' exposed rest ih =>
    exact block_cons_coupled (C := guiding id off) (w := ())
      (guides.statement names st exposed paired) fun _ _ paired => ih paired
  | @asks st ss ss' room asks =>
    unfold block
    rw [bind_of_error (guides.askStatement room names st s asks)]
    exact .asked

theorem isEmpty_inlineList (ss : List Stmt) : (Stmt.inlineList off ss).isEmpty = ss.isEmpty := by
  cases ss <;> rfl

theorem branch_guided (guides : Guides id spare below below') {test : Expr}
    {body orelse : List Stmt} (exposed : (Stmt.branch test body orelse).exposes spare off = true)
    (paired : Paired id off s s') :
    Guided id off (branch below names test body orelse s)
      (branch below' names (test.inline off) (Stmt.inlineList off body)
        (Stmt.inlineList off orelse) s') := by
  simp only [Stmt.exposes, Bool.and_eq_true] at exposed
  exact branch_coupled (C := guiding id off) (w := ()) (isEmpty_inlineList orelse)
    (guides.expr names test exposed.1 paired)
    (fun _ _ paired => block_guided guides (Stmt.aligned_inlineList exposed.2.1) paired)
    fun _ _ _ paired => block_guided guides (Stmt.aligned_inlineList exposed.2.2) paired

/-- A target that is a name stays as it is, and one that is none does not become one. -/
theorem target_cases {target : Expr} (exposed : target.exposesTarget off = true) :
    (∃ word use, target = .name word use ∧ word ∉ off) ∨
      ∀ word use, target.inline off ≠ .name word use := by
  cases target with
  | name word use =>
    exact .inl ⟨word, use, rfl, List.disjoint_singleton.1 (Expr.lacks_iff.1 exposed)⟩
  | named target value =>
    rw [Expr.inline_of_disjoint (Expr.lacks_iff.1 exposed)]
    exact .inr nofun
  | _ => exact .inr nofun

theorem loop_guided (guides : Guides id spare below below') {target source : Expr}
    {body orelse : List Stmt}
    (exposed : (Stmt.forLoop target source body orelse).exposes spare off = true)
    (paired : Paired id off s s') :
    Guided id off (loop below names target source body orelse s)
      (loop below' names (target.inline off) (source.inline off) (Stmt.inlineList off body)
        (Stmt.inlineList off orelse) s') := by
  simp only [Stmt.exposes, Bool.and_eq_true] at exposed
  rcases target_cases exposed.1 with ⟨word, use, rfl, _⟩ | nameless
  · exact loop_coupled (C := guiding id off) (w := ()) paired (isEmpty_inlineList orelse)
      (fun _ _ => iterator_guided guides exposed.2.1 paired)
      (fun _ _ _ _ paired => block_guided guides (Stmt.aligned_inlineList exposed.2.2) paired)
      fun _ => trivial
  · cases orelse with
    | cons => exact .failed
    | nil =>
      generalize target.inline off = target' at nameless
      cases target' with
      | name word use => exact absurd rfl (nameless word use)
      | _ => exact .failed

theorem assignName_guided (guides : Guides id spare below below') {word : String} {use : Use}
    {value : Expr} (exposed : value.exposesBound spare off = true) (paired : Paired id off s s') :
    Guided id off (assign below names [.name word use] value s)
      (assign below' names [.name word use] (value.inline off) s') := by
  cases value with
  | lambda params body =>
    have apart := Expr.lacks_iff.1 exposed
    rw [Expr.inline_of_disjoint apart]
    refine Guided.closureBound paired ?_
    rw [Routine.mentions_ofLambda]
    exact List.disjoint_of_subset_right (Expr.mentions_body_subset params body) apart
  | named => exact .asked
  | _ =>
    exact assignName_coupled (C := guiding id off) (w := ()) use rfl rfl
      (guides.expr names _ exposed paired)

theorem assign_guided (guides : Guides id spare below below') {targets : List Expr} {value : Expr}
    (exposed : (Stmt.assign targets value).exposes spare off = true)
    (paired : Paired id off s s') :
    Guided id off (assign below names targets value s)
      (assign below' names (Expr.inlineList off targets) (value.inline off) s') := by
  rw [Stmt.exposes, Bool.and_eq_true, List.all_eq_true] at exposed
  match targets with
  | [] => exact .failed
  | [target] =>
    rcases target_cases (exposed.1 target List.mem_cons_self) with ⟨word, use, rfl, _⟩ | nameless
    · exact assignName_guided guides exposed.2 paired
    · unfold Expr.inlineList
      generalize target.inline off = target' at nameless
      cases target' with
      | name word use => exact absurd rfl (nameless word use)
      | _ => exact .failed
  | target :: next :: rest =>
    unfold Expr.inlineList Expr.inlineList
    generalize target.inline off = target'
    cases target' <;> exact .failed

theorem augAssign_guided (guides : Guides id spare below below') {target value : Expr}
    {op : BinaryOp} (exposed : (Stmt.augAssign target op value).exposes spare off = true)
    (paired : Paired id off s s') :
    Guided id off (augAssign below names target op value s)
      (augAssign below' names (target.inline off) op (value.inline off) s') := by
  rw [Stmt.exposes, Bool.and_eq_true] at exposed
  rcases target_cases exposed.1 with ⟨word, use, rfl, _⟩ | nameless
  · exact augAssign_coupled (C := guiding id off) (w := ()) paired
      (fun _ _ => guides.expr names value exposed.2 paired) (fun _ _ => trivial) fun _ => trivial
  · generalize target.inline off = target' at nameless
    cases target' with
    | name word use => exact absurd rfl (nameless word use)
    | _ => exact .failed

theorem exprStatement_guided (guides : Guides id spare below below') {value : Expr}
    (exposed : value.exposesAlone spare off = true) (paired : Paired id off s s') :
    Guided id off (exprStatement below names value s)
      (exprStatement below' names (value.inline off) s') := by
  obtain ⟨bound, alone⟩ := Bool.and_eq_true_iff.1 exposed
  unfold Expr.exposesBound at bound
  cases plain : value.isLambda with
  | true =>
    rw [plain, cond_true] at bound
    rw [Expr.inline_of_disjoint (Expr.lacks_iff.1 bound)]
    unfold exprStatement
    rw [if_pos plain, if_pos plain]
    cases value.textFault? with
    | none => exact .ok (paired.recorded _)
    | some cause => exact .failed
  | false =>
    rw [plain, cond_false] at bound
    unfold exprStatement
    cases becomes : (value.inline off).isLambda with
    | false =>
      rw [if_neg (Bool.eq_false_iff.1 plain), if_neg Bool.false_ne_true]
      exact some_coupled (C := guiding id off) (w := ()) (guides.expr names value bound paired)
    | true =>
      obtain ⟨target, inner, rfl⟩ := Expr.named_of_isLambda_inline plain becomes
      rw [becomes, plain] at alone
      have room : spare = true := (Bool.or_eq_true_iff.1 alone).resolve_right Bool.false_ne_true
      rw [if_neg (Bool.eq_false_iff.1 plain),
        bind_of_error (guides.askExpr room names target inner s)]
      exact .asked

theorem statement_guided (guides : Guides id spare below below') {st : Stmt}
    (exposed : st.exposes spare off = true) (paired : Paired id off s s') :
    Guided id off (statement below names st s) (statement below' names (st.inline off) s') := by
  cases st with
  | branch test body orelse =>
    exact some_coupled (C := guiding id off) (w := ()) (branch_guided guides exposed paired)
  | forLoop target source body orelse =>
    exact some_coupled (C := guiding id off) (w := ()) (loop_guided guides exposed paired)
  | ret value =>
    cases value with
    | none => exact .ok paired
    | some e =>
      exact ret_coupled (C := guiding id off) (w := ()) (guides.expr names e exposed paired)
  | augAssign target op value =>
    exact some_coupled (C := guiding id off) (w := ()) (augAssign_guided guides exposed paired)
  | annAssign target note value =>
    cases value with
    | none => exact .ok paired
    | some e =>
      simp only [Stmt.exposes, Bool.and_eq_true] at exposed
      have assigned : (Stmt.assign [target] e).exposes spare off = true := by
        simp only [Stmt.exposes, List.all_cons, List.all_nil, Bool.and_true, Bool.and_eq_true]
        exact ⟨exposed.1, exposed.2.2⟩
      exact assign_guided guides assigned paired
  | assign targets value => exact assign_guided guides exposed paired
  | function name params body decorators returns =>
    have apart := Stmt.lacks_iff.1 exposed
    rw [Stmt.inline_of_disjoint _ apart]
    refine Guided.closureBound paired (List.disjoint_of_subset_right ?_
      (List.disjoint_append_right.1 apart).2)
    exact Routine.mentions_ofFunction_subset params body decorators
  | pass => exact .ok paired
  | expr value => exact exprStatement_guided guides exposed paired
  | _ => exact .failed

/-- From where a function is begun on, a routine may take the place of another one. -/
theorem function_guided (guides : Guides id spare below below') (inner : List String)
    {other : FunctionId} {requested : String}
    (called : (host'.world.function other).qualname = (host.world.function other).qualname)
    (seen : host'.world.namespaceOf (host'.world.function other) =
      host.world.namespaceOf (host.world.function other))
    (found : ∀ {there}, (host'.world.function other).locate? = .ok there →
      ∃ here, (host.world.function other).locate? = .ok here ∧
        here.routine.Inlined spare inner there.routine)
    (same : s'.aliases = s.aliases)
    (paired : Paired id off (s.marked other requested) (s'.marked other requested)) :
    Guided id off (function host below other requested s)
      (function host' below' other requested s') := by
  have granted : s'.aliasFor other requested = s.aliasFor other requested := by
    unfold State.aliasFor
    rw [same]
  have begun := (paired.registered (.function other (s.aliasFor other requested))).recorded
    (.lowering (s.aliasFor other requested) (host.world.function other).qualname)
  unfold function
  rw [markFunction_bind, markFunction_bind, register_bind, register_bind, record_bind, record_bind,
    granted, called, seen]
  cases located' : (host'.world.function other).locate? with
  | error cause => exact .failed
  | ok there =>
    obtain ⟨here, located, inlined⟩ := found located'
    rw [located]
    change Guided id off ((ofExcept (here.routine.formals? _) >>= _) _)
      ((ofExcept (there.routine.formals? _) >>= _) _)
    rw [inlined.formals?_eq]
    cases here.routine.formals? (s.aliasFor other requested) with
    | error cause => exact .failed
    | ok formals =>
      change Guided id off ((inFreshFrame _ _ >>= _) _) ((inFreshFrame _ _ >>= _) _)
      refine .bind (.inFrames begun ?_ (block_guided guides inlined.statements) ?_)
        fun _ paired => .ok paired
      · exact .cons (.ofNames (inlined.localNames formals)) .nil
      · exact fun _ => begun.frames

end Steps

section Descent

variable {id : FunctionId} {host host' : Host}

theorem guides_descent (replaces : Replaces id host host') {spare : Bool} (limit limit' : Int)
    {extra : Nat} (room : spare = true → 2 ≤ extra) (levels : Nat) :
    Guides id spare (descent host limit' (levels + extra)) (descent host' limit levels) := by
  have askExpr (levels : Nat) (given : spare = true) (names target value s) :
      (descent host limit' (levels + extra)).expr names (.named target value) s =
        .error (.unsupported .assignmentExpression) s := by
    obtain ⟨more, rfl⟩ := Nat.exists_eq_add_of_le' (room given)
    rfl
  -- A statement takes a level before the assignment expression in it does, hence the two to spare.
  have askStatement (levels : Nat) (given : spare = true) (names st s) (asks : Stmt.Asks st) :
      (descent host limit' (levels + extra)).statement names st s =
        .error (.unsupported .assignmentExpression) s := by
    obtain ⟨more, rfl⟩ := Nat.exists_eq_add_of_le' (room given)
    cases asks <;> rfl
  induction levels with
  | zero =>
    exact ⟨fun _ _ _ _ => .failed, fun _ _ _ _ => .failed, fun _ _ _ => .failed,
      fun _ _ _ _ => .failed, askExpr 0, askStatement 0⟩
  | succ levels guides =>
    have askExpr := askExpr (levels + 1)
    have askStatement := askStatement (levels + 1)
    rw [Nat.add_right_comm] at askExpr askStatement ⊢
    refine ⟨?_, ?_, ?_, ?_, askExpr, askStatement⟩
    · exact fun names e exposed paired => expr_guided replaces guides exposed paired
    · exact fun names st exposed paired => statement_guided guides exposed paired
    · exact fun names aligned paired => block_guided guides aligned paired
    · intro off s s' other requested ne paired
      have record := replaces.function other ne
      refine function_guided guides [] (by rw [record]) (replaces.namespaceOf other) ?_
        paired.aliases_eq (paired.marked other requested)
      intro there located
      rw [record] at located
      exact ⟨there, located, Routine.inlined_self (List.disjoint_nil_left _)⟩

end Descent

end Cascade.Lowering
