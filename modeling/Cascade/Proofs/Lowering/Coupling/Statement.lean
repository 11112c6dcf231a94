import Cascade.Proofs.Lowering.Coupling.Operand
import Cascade.Proofs.Lowering.Faults

set_option autoImplicit false

namespace Cascade.Lowering

open Source

variable {C : Coupling} {below below' : Descent} {names names' : Namespace} {w : C.Stage}
  {s s' : State}

theorem Likeness.literals (L : Likeness) {w : L.Stage} (values : List Scalar) :
    List.Forall₂ (L.Similar w) (values.map .literal) (values.map .literal) :=
  List.forall₂_same.2 fun n inside => by
    obtain ⟨value, _, rfl⟩ := List.mem_map.1 inside
    exact L.literal value

theorem all_isLiteral_eq {ns os : List Node} (alike : List.Forall₂ (C.Similar w) ns os) :
    os.all Node.isLiteral = ns.all Node.isLiteral := by
  induction alike with
  | nil => rfl
  | cons head _ ih => rw [List.all_cons, List.all_cons, C.isLiteral_eq head, ih]

theorem displayIterator_coupled {source source' : Expr} {elements elements' : List Expr}
    (values : C.Ends [] w (exprs below names elements s) (exprs below' names' elements' s'))
    (own : C.Alike (quotingFault [source] (.unsupported (.loopIterator source.text)))
      (quotingFault [source'] (.unsupported (.loopIterator source'.text)))) :
    C.Ends [] w (displayIterator below names source elements s)
      (displayIterator below' names' source' elements' s') := by
  unfold displayIterator
  refine C.bind values fun _ _ here values => ?_
  rw [all_isLiteral_eq values]
  split
  · exact C.pure here (C.sequence values) (by simp)
  · exact C.fault here own

theorem iterator_coupled {source : Expr} (here : C.At w s s')
    (range : staticRange? s'.frames names' source = staticRange? s.frames names source)
    (values : ∀ {id use}, source = .name id use →
      staticValues? s'.frames names' id = staticValues? s.frames names id)
    (display : ∀ {elements}, source = .list elements ∨ source = .tuple elements →
      C.Ends [] w (displayIterator below names source elements s)
        (displayIterator below' names' source elements s'))
    (own : ∀ {cause}, cause.isSimple = true → C.Alike cause cause) :
    C.Ends [] w (iterator below names source s) (iterator below' names' source s') := by
  have refused : C.Ends [] w (refuseIterator (α := Node) source s)
      (refuseIterator source s') :=
    C.fault here (own (simple_quotingFault rfl))
  unfold iterator
  rw [frames_bind, frames_bind, range]
  cases staticRange? s.frames names source with
  | some bounds =>
    obtain ⟨start, stop, step⟩ := bounds
    dsimp only
    split
    · exact C.fault here (own rfl)
    · exact C.pure here (C.range start stop step) (List.nil_subset _)
  | none =>
    cases source with
    | list elements => exact display (.inl rfl)
    | tuple elements => exact display (.inr rfl)
    | name id use =>
      dsimp only
      rw [values rfl]
      cases staticValues? s.frames names id with
      | none => exact refused
      | some constants =>
        refine C.bind (ofExcept_coupled here (fun found => ?_) fun failed => ?_)
          fun _ _ here literals => C.pure here (C.sequence literals) (by simp)
        · rw [literals?_eq_ok found]
          exact C.literals constants
        · exact own (simple_literals failed)
    | _ => exact refused

theorem block_nil_coupled (here : C.At w s s') :
    C.Ends [] w (block below names [] s) (block below' names' [] s') :=
  C.pure here .nil (List.nil_subset _)

theorem block_cons_coupled {st st' : Stmt} {ss ss' : List Stmt}
    (head : C.Ends [] w (below.statement names st s) (below'.statement names' st' s'))
    (tail : ∀ {n t t' v}, below.statement names st s = .ok n t → C.Later w v → C.At v t t' →
      C.Ends [] v (block below names ss t) (block below' names' ss' t')) :
    C.Ends [] w (block below names (st :: ss) s) (block below' names' (st' :: ss') s') := by
  unfold block
  refine C.bind head fun ran later here first => ?_
  refine C.bind (tail ran later here) fun _ later here rest => ?_
  cases first with
  | none => exact C.pure here rest (by simp)
  | some first => exact C.pure here (.cons (C.similar_later later first) rest) (by simp)

theorem elseBlock_coupled {ss ss' : List Stmt} (here : C.At w s s')
    (same : ss'.isEmpty = ss.isEmpty)
    (inner : C.Ends [] w (block below names ss s) (block below' names' ss' s')) :
    C.Ends [] w (elseBlock below names ss s) (elseBlock below' names' ss' s') := by
  cases ss with
  | nil =>
    cases ss' with
    | nil => exact C.pure here .none (List.nil_subset _)
    | cons => cases same
  | cons =>
    cases ss' with
    | nil => cases same
    | cons => exact C.bind inner fun _ _ here body => C.pure here (.some body) (by simp)

theorem branch_coupled {test test' : Expr} {body body' orelse orelse' : List Stmt}
    (same : orelse'.isEmpty = orelse.isEmpty)
    (condition : C.Ends [] w (below.expr names test s) (below'.expr names' test' s'))
    (positive : ∀ {n t t' v}, below.expr names test s = .ok n t → C.Later w v → C.At v t t' →
      C.Ends [] v (block below names body t) (block below' names' body' t'))
    (negative : ∀ {n t ns u u' v}, below.expr names test s = .ok n t →
      block below names body t = .ok ns u → C.Later w v → C.At v u u' →
      C.Ends [] v (block below names orelse u) (block below' names' orelse' u')) :
    C.Ends [] w (branch below names test body orelse s)
      (branch below' names' test' body' orelse' s') := by
  unfold branch
  refine C.bind condition fun ran later here n => ?_
  refine C.bind (positive ran later here) fun ran' later' here yes => ?_
  refine C.bind
    (elseBlock_coupled here same (negative ran ran' (C.later_trans later later') here))
    fun {no _ _ _ _} _ later'' here alike => ?_
  refine C.pure here (C.branch (C.similar_later (C.later_trans later' later'') n)
    (C.all_later later'' yes) alike) ?_
  cases no <;> simp

theorem loop_coupled {target source source' : Expr} {body body' orelse orelse' : List Stmt}
    (here : C.At w s s') (same : orelse'.isEmpty = orelse.isEmpty)
    (header : ∀ {id use}, orelse = [] → target = .name id use →
      C.Ends [] w (iterator below names source s) (iterator below' names' source' s'))
    (steps : ∀ {id use n} {t t' : State} {v}, orelse = [] → target = .name id use →
      iterator below names source s = .ok n t → C.Later w v →
      C.At v (t.withFrames (t.frames.bind id)) (t'.withFrames (t'.frames.bind id)) →
      C.Ends [] v (block below names body (t.withFrames (t.frames.bind id)))
        (block below' names' body' (t'.withFrames (t'.frames.bind id))))
    (own : ∀ {cause}, cause.isSimple = true → C.Alike cause cause) :
    C.Ends [] w (loop below names target source body orelse s)
      (loop below' names' target source' body' orelse' s') := by
  unfold loop
  rw [same]
  cases orelse with
  | cons => exact C.fault here (own rfl)
  | nil =>
    cases target with
    | name id use =>
      refine C.bind (header rfl rfl) fun ran later here values => ?_
      rw [bindVariable_bind, bindVariable_bind]
      refine C.step here (.bound id) fun later' here => ?_
      refine C.bind (steps rfl rfl ran (C.later_trans later later') here)
        fun _ later'' here body => ?_
      exact C.pure here (C.loop (C.similar_later (C.later_trans later' later'') values) body)
        (by simp)
    | _ => exact C.fault here (own (simple_quotingFault rfl))

theorem assignName_coupled {id : String} (use : Use) {value value' : Expr}
    (assignable : isAssignable value = true) (assignable' : isAssignable value' = true)
    (inner : C.Ends [] w (below.expr names value s) (below'.expr names' value' s')) :
    C.Ends [] w (assign below names [.name id use] value s)
      (assign below' names' [.name id use] value' s') := by
  have assigned (below : Descent) (names : Namespace) (value : Expr)
      (assignable : isAssignable value = true) :
      assign below names [.name id use] value = (do
        let n ← below.expr names value
        bindVariable id
        return some (.assign id n)) := by
    cases value with
    | lambda => cases assignable
    | named => cases assignable
    | _ => rfl
  rw [assigned below names value assignable, assigned below' names' value' assignable']
  refine C.bind inner fun _ _ here n => ?_
  rw [bindVariable_bind, bindVariable_bind]
  refine C.step here (.bound id) fun later here => ?_
  exact C.pure here (.some (C.assign (C.similar_later later n))) (by simp)

theorem augAssign_coupled {target value value' : Expr} {op : BinaryOp} (here : C.At w s s')
    (inner : ∀ {id use token}, target = .name id use → Operator.binaryToken? op = some token →
      C.Ends [] w (below.expr names value s) (below'.expr names' value' s'))
    (unknown : ∀ {id use}, target = .name id use → Operator.binaryToken? op = none →
      C.Alike (quotingFault [target, value] (.unknownOperator (augAssignText target op value)))
        (quotingFault [target, value'] (.unknownOperator (augAssignText target op value'))))
    (own : ∀ {cause}, cause.isSimple = true → C.Alike cause cause) :
    C.Ends [] w (augAssign below names target op value s)
      (augAssign below' names' target op value' s') := by
  unfold augAssign
  cases target with
  | name id use =>
    cases known : Operator.binaryToken? op with
    | none => exact C.fault here (unknown rfl known)
    | some token =>
      refine C.bind (inner rfl known) fun _ _ here n => ?_
      refine C.bind (pair_coupled here (binaryToken_isBinary known) (C.symbol id) n
        (List.nil_subset _)) fun made later here result => ?_
      rw [bindVariable_bind, bindVariable_bind]
      refine C.step here (.bound id) fun later here => ?_
      obtain ⟨rfl, rfl⟩ := (operation_binary_eq_ok (binaryToken_isBinary known).1
        (binaryToken_isBinary known).2).1 made
      exact C.pure here (C.assign (C.similar_later later result)) (by simp)
  | _ => exact C.fault here (own rfl)

theorem some_coupled {x y : Lower Node} (h : C.Ends [] w (x s) (y s')) :
    C.Ends [] w ((do return some (← x) : Lower (Option Node)) s)
      ((do return some (← y) : Lower (Option Node)) s') :=
  C.bind h fun _ _ here n => C.pure here (.some n) (by simp)

theorem ret_coupled {e e' : Expr}
    (value : C.Ends [] w (below.expr names e s) (below'.expr names' e' s')) :
    C.Ends [] w (statement below names (.ret (some e)) s)
      (statement below' names' (.ret (some e')) s') :=
  C.bind value fun _ _ here n => C.pure here (.some (C.ret (.some n))) (by simp)

end Cascade.Lowering
