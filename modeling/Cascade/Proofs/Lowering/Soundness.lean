import Cascade.Proofs.Lowering.Soundness.Expr

set_option autoImplicit false

/-!
# Every successful run has a derivation

Each function of the lowering is taken apart once, given that what lies one level further down has
derivations (`Sound`).  `descent_sound` closes the recursion by induction on the levels, and
`Host.run_sound` is the form that whole programs use.
-/
namespace Cascade.Lowering

open Source

section Steps

variable {host : Host} {below : Descent} {names : Namespace} {s t : State}

theorem displayIterator_sound (sound : Sound host below) {e : Expr} {elements : List Expr}
    {n : Node} (shape : e = .list elements ∨ e = .tuple elements)
    (h : displayIterator below names e elements s = .ok n t) :
    Lowered host names (.iterator e) s [n] t := by
  simp only [displayIterator, bind_eq_ok] at h
  obtain ⟨ns, u, values, h⟩ := h
  by_cases literal : ns.all Node.isLiteral = true
  · rw [if_pos literal] at h
    obtain ⟨rfl, rfl⟩ := pure_eq_ok.1 h
    exact .display shape (exprs_sound sound values) literal
  · rw [if_neg literal] at h
    exact absurd h throwQuoting_ne_ok

theorem iterator_sound (sound : Sound host below) {e : Expr} {n : Node}
    (h : iterator below names e s = .ok n t) : Lowered host names (.iterator e) s [n] t := by
  simp only [iterator, bind_eq_ok, frames_eq_ok] at h
  obtain ⟨_, _, ⟨rfl, rfl⟩, h⟩ := h
  cases static : staticRange? s.frames names e with
  | some bounds =>
    obtain ⟨start, stop, step⟩ := bounds
    simp only [static] at h
    by_cases moves : step = 0
    · rw [if_pos moves] at h
      exact absurd h refuse_ne_ok
    · rw [if_neg moves] at h
      obtain ⟨rfl, rfl⟩ := pure_eq_ok.1 h
      exact .range static moves
  | none =>
    rw [static] at h
    cases e with
    | list elements => exact displayIterator_sound sound (.inl rfl) h
    | tuple elements => exact displayIterator_sound sound (.inr rfl) h
    | name id use =>
      cases held : staticValues? s.frames names id with
      | none =>
        simp only [held] at h
        exact absurd h throwQuoting_ne_ok
      | some values =>
        simp only [held, bind_eq_ok, ofExcept_eq_ok, pure_eq_ok] at h
        obtain ⟨ns, _, ⟨found, rfl⟩, rfl, rfl⟩ := h
        exact .constants held found
    | _ => exact absurd h throwQuoting_ne_ok

theorem block_sound (sound : Sound host below) {ss : List Stmt} {ns : List Node}
    (h : block below names ss s = .ok ns t) : Lowered host names (.block ss) s ns t := by
  induction ss generalizing s ns with
  | nil =>
    simp only [block, pure_eq_ok] at h
    obtain ⟨rfl, rfl⟩ := h
    exact .blockNil
  | cons st ss ih =>
    simp only [block, bind_eq_ok, pure_eq_ok] at h
    obtain ⟨n, u, head, ms, v, tail, rfl, rfl⟩ := h
    exact .blockCons (sound.statement head) (ih tail)

theorem branch_sound (sound : Sound host below) {test : Expr} {body orelse : List Stmt} {n : Node}
    (h : branch below names test body orelse s = .ok n t) :
    Lowered host names (.statement (.branch test body orelse)) s [n] t := by
  simp only [branch, bind_eq_ok, pure_eq_ok] at h
  obtain ⟨c, u, condition, yes, v, positive, no, w, negative, rfl, rfl⟩ := h
  cases orelse with
  | nil =>
    simp only [elseBlock, pure_eq_ok] at negative
    obtain ⟨rfl, rfl⟩ := negative
    exact .branch (sound.expr condition) (block_sound sound positive)
  | cons other others =>
    simp only [elseBlock, bind_eq_ok, pure_eq_ok] at negative
    obtain ⟨ms, x, negative, rfl, rfl⟩ := negative
    exact .branchElse (sound.expr condition) (block_sound sound positive)
      (block_sound sound negative)

theorem loop_sound (sound : Sound host below) {target source : Expr} {body orelse : List Stmt}
    {n : Node} (h : loop below names target source body orelse s = .ok n t) :
    Lowered host names (.statement (.forLoop target source body orelse)) s [n] t := by
  unfold loop at h
  cases orelse with
  | cons other others => exact absurd h refuse_ne_ok
  | nil =>
    simp only [List.isEmpty_nil, Bool.not_true, Bool.false_eq_true, if_false] at h
    cases target with
    | name id use =>
      simp only [bind_eq_ok, bindVariable_eq_ok, pure_eq_ok] at h
      obtain ⟨values, u, header, _, _, rfl, steps, v, inner, rfl, rfl⟩ := h
      exact .loop (iterator_sound sound header) (block_sound sound inner)
    | _ => exact absurd h throwQuoting_ne_ok

theorem assign_sound (sound : Sound host below) {targets : List Expr} {value : Expr}
    {n : Option Node} (h : assign below names targets value s = .ok n t) :
    Lowered host names (.statement (.assign targets value)) s n.toList t := by
  unfold assign at h
  split at h
  · rename_i id use
    -- Every value but a lambda expression is lowered before its name is bound.
    have plain (h : (do
          let n ← below.expr names value
          bindVariable id
          return some (.assign id n) : Lower (Option Node)) s = .ok n t) :
        Lowered host names (.statement (.assign [.name id use] value)) s n.toList t := by
      simp only [bind_eq_ok, bindVariable_eq_ok, pure_eq_ok] at h
      obtain ⟨m, u, made, _, _, rfl, rfl, rfl⟩ := h
      exact .assign (sound.expr made)
    cases value with
    | lambda params body =>
      simp only [bind_eq_ok, bindClosure_eq_ok, pure_eq_ok] at h
      obtain ⟨_, _, rfl, rfl, rfl⟩ := h
      exact .assignLambda
    | named => exact absurd h refuse_ne_ok
    | _ => exact plain h
  · exact absurd h refuse_ne_ok

theorem augAssign_sound (sound : Sound host below) {target value : Expr} {op : BinaryOp} {n : Node}
    (h : augAssign below names target op value s = .ok n t) :
    Lowered host names (.statement (.augAssign target op value)) s [n] t := by
  cases target with
  | name id use =>
    simp only [augAssign] at h
    cases known : Operator.binaryToken? op with
    | none =>
      rw [known] at h
      exact absurd h throwQuoting_ne_ok
    | some token =>
      simp only [known, bind_eq_ok, bindVariable_eq_ok, pure_eq_ok] at h
      obtain ⟨m, u, made, r, v, result, _, _, rfl, rfl, rfl⟩ := h
      obtain ⟨isBinary, clear⟩ := binaryToken_isBinary known
      obtain ⟨rfl, rfl⟩ := (operation_binary_eq_ok isBinary clear).1 result
      exact .augAssign known (sound.expr made)
  | _ => exact absurd h refuse_ne_ok

theorem exprStatement_sound (sound : Sound host below) {value : Expr} {n : Option Node}
    (h : exprStatement below names value s = .ok n t) :
    Lowered host names (.statement (.expr value)) s n.toList t := by
  unfold exprStatement at h
  by_cases lambda : value.isLambda = true
  · rw [if_pos lambda] at h
    cases value with
    | lambda params body =>
      cases fault : (Expr.lambda params body).textFault? with
      | none =>
        simp only [fault, bind_eq_ok, record_eq_ok, pure_eq_ok] at h
        obtain ⟨_, _, rfl, rfl, rfl⟩ := h
        exact .dropped
      | some cause =>
        rw [fault] at h
        exact absurd h throw_ne_ok
    | _ => cases lambda
  · rw [if_neg lambda] at h
    simp only [bind_eq_ok, pure_eq_ok] at h
    obtain ⟨m, u, made, rfl, rfl⟩ := h
    exact .expression (sound.expr made)

theorem statement_sound (sound : Sound host below) {st : Stmt} {n : Option Node}
    (h : statement below names st s = .ok n t) :
    Lowered host names (.statement st) s n.toList t := by
  cases st with
  | branch test body orelse =>
    simp only [statement, bind_eq_ok, pure_eq_ok] at h
    obtain ⟨m, u, made, rfl, rfl⟩ := h
    exact branch_sound sound made
  | forLoop target source body orelse =>
    simp only [statement, bind_eq_ok, pure_eq_ok] at h
    obtain ⟨m, u, made, rfl, rfl⟩ := h
    exact loop_sound sound made
  | ret value =>
    cases value with
    | none =>
      simp only [statement, pure_eq_ok] at h
      obtain ⟨rfl, rfl⟩ := h
      exact .ret
    | some e =>
      simp only [statement, bind_eq_ok, pure_eq_ok] at h
      obtain ⟨m, u, made, rfl, rfl⟩ := h
      exact .retValue (sound.expr made)
  | augAssign target op value =>
    simp only [statement, bind_eq_ok, pure_eq_ok] at h
    obtain ⟨m, u, made, rfl, rfl⟩ := h
    exact augAssign_sound sound made
  | annAssign target annotation value bare =>
    cases value with
    | none =>
      simp only [statement, pure_eq_ok] at h
      obtain ⟨rfl, rfl⟩ := h
      exact .declaration
    | some e => exact .annotated (assign_sound sound h)
  | assign targets value => exact assign_sound sound h
  | function id params body decorators returns =>
    simp only [statement, bind_eq_ok, bindClosure_eq_ok, pure_eq_ok] at h
    obtain ⟨_, _, rfl, rfl, rfl⟩ := h
    exact .nested
  | pass =>
    simp only [statement, pure_eq_ok] at h
    obtain ⟨rfl, rfl⟩ := h
    exact .pass
  | expr value => exact exprStatement_sound sound h
  | _ => exact absurd h refuse_ne_ok

theorem function_sound (sound : Sound host below) {id : FunctionId} {requested : String}
    {d : Definition} (new : s.aliases.get? id = none)
    (h : function host below id requested s = .ok d t) :
    Lowered host names (.function id requested) s [d.node] t := by
  simp only [function, bind_eq_ok, markFunction_eq_ok, register_eq_ok, record_eq_ok,
    ofExcept_eq_ok, inFreshFrame_eq_ok, pure_eq_ok] at h
  obtain ⟨_, _, ⟨rfl, rfl⟩, _, _, rfl, _, _, rfl, located, _, ⟨found, rfl⟩, formals, _,
    ⟨accepted, rfl⟩, body, _, ⟨u, inner, rfl⟩, rfl, rfl⟩ := h
  exact .function new found accepted (block_sound sound inner)

end Steps

/-- Every success at any number of levels has a derivation. -/
theorem descent_sound (host : Host) (limit : Int) (levels : Nat) :
    Sound host (descent host limit levels) := by
  induction levels with
  | zero =>
    refine ⟨?_, ?_, ?_, ?_⟩
    · intro names e s n t h
      exact absurd h throw_ne_ok
    · intro names st s n t h
      exact absurd h throw_ne_ok
    · intro names ss s ns t h
      exact absurd h throw_ne_ok
    · intro names id requested s d t _ h
      exact absurd h throw_ne_ok
  | succ levels ih =>
    exact ⟨expr_sound ih, statement_sound ih, block_sound ih, function_sound ih⟩

end Cascade.Lowering

namespace Cascade.Host

open Lowering

/-- The run of an entry point begins with nothing recorded, so it is a derivation of its function. -/
theorem run_sound {h : Host} {e : EntryPoint} {d : Definition} {s : State}
    (run : h.run e = .ok d s) :
    Lowered h [] (.function e.id e.name) (.start []) [d.node] s :=
  function_sound (descent_sound h e.limit _) rfl run

theorem lower_eq_ok {h : Host} {value : Value} {name : Option String} {maxDepth : Option Int}
    {d : Definition} :
    h.lower value name maxDepth = .ok d ↔
      ∃ e s, h.entry? value name maxDepth = .ok e ∧ h.run e = .ok d s := by
  unfold lower lowerTraced
  cases entry : h.entry? value name maxDepth with
  | error cause => simp
  | ok e =>
    cases run : h.run e with
    | error cause s => simp [run]
    | ok definition s =>
      simp only [run, Except.ok.injEq]
      constructor
      · rintro rfl
        exact ⟨e, s, rfl, run⟩
      · rintro ⟨e', s', rfl, run'⟩
        rw [run] at run'
        cases run'
        rfl

end Cascade.Host
