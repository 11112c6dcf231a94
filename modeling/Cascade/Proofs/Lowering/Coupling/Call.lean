import Cascade.Proofs.Lowering.Coupling.Operand

set_option autoImplicit false

namespace Cascade.Lowering

open Source

/-- Two routines under names of theirs: they have the same formal arguments, or are both refused. -/
structure RoutinePair (C : Coupling) (x y : String) (r r' : Routine) : Prop where
  named : C.Named x y
  decorated : r'.decorated = r.decorated
  refused : r.decorated = true →
    C.Alike (.unsupported (.decoratedClosure x)) (.unsupported (.decoratedClosure y))
  formals : (∃ cause cause', r.formals? x = .error cause ∧ r'.formals? y = .error cause' ∧
      C.Alike cause cause') ∨
    ∃ formals, r.formals? x = .ok formals ∧ r'.formals? y = .ok formals

inductive ClosurePair (Pending : Routine → Routine → Prop) :
    Option Closure → Option Closure → Prop where
  | none : ClosurePair Pending none none
  | begun {r r' status} (begun : status ≠ .pending) :
      ClosurePair Pending (some ⟨r, status⟩) (some ⟨r', status⟩)
  | pending {r r'} (pending : Pending r r') :
      ClosurePair Pending (some ⟨r, .pending⟩) (some ⟨r', .pending⟩)

variable {C : Coupling} {host host' : Host} {below below' : Descent} {names names' : Namespace}
  {w : C.Stage} {s s' : State}

theorem RoutinePair.of_formals?_eq {x : String} {r r' : Routine}
    (decorated : r'.decorated = r.decorated) (same : r'.formals? x = r.formals? x)
    (own : ∀ {cause}, cause.isSimple = true → C.Alike cause cause) : RoutinePair C x x r r' := by
  refine ⟨C.named_refl x, decorated, fun _ => own rfl, ?_⟩
  rw [same]
  cases accepted : r.formals? x with
  | error cause => exact .inl ⟨cause, cause, rfl, rfl, own (simple_formals accepted)⟩
  | ok formals => exact .inr ⟨formals, rfl, rfl⟩

theorem closure_coupled {entry entry' : Entry} {r r' : Routine} {place : Nat}
    (here : C.At w (s.registered entry) (s'.registered entry'))
    (pair : RoutinePair C entry.name entry'.name r r')
    (inner : ∀ {formals}, r.decorated = false → r.formals? entry.name = .ok formals →
      C.Ends [] w
        (inChildFrame place (frameOf r formals) (below.body names r.statements)
          (s.registered entry))
        (inChildFrame place (frameOf r' formals) (below'.body names' r'.statements)
          (s'.registered entry'))) :
    C.Ends [] w (closure below names entry r place s)
      (closure below' names' entry' r' place s') := by
  unfold closure
  rw [register_bind, register_bind, pair.decorated]
  cases undecorated : r.decorated with
  | true => exact C.fault here (pair.refused undecorated)
  | false =>
    rcases pair.formals with ⟨cause, cause', failed, failed', alike⟩ | ⟨formals, accepted, accepted'⟩
    · rw [failed, failed']
      exact C.fault here alike
    · rw [accepted, accepted']
      change C.Ends [] w ((inChildFrame place (frameOf r formals) _ >>= _) _)
        ((inChildFrame place (frameOf r' formals) _ >>= _) _)
      refine C.bind (inner undecorated accepted) fun _ _ here body => ?_
      exact C.pure here (C.made pair.named body) (List.subset_cons_self _ _)

theorem callLambda_coupled {params params' : List (Parameter Expr)} {body body' : Expr}
    {args args' : List Expr} (here : C.At w s s')
    (pair : RoutinePair C (lambdaAlias (s.lambdas + 1)) (lambdaAlias (s'.lambdas + 1))
      (.ofLambda params body) (.ofLambda params' body'))
    (inner : ∀ {formals v},
      (Routine.ofLambda params body).formals? (lambdaAlias (s.lambdas + 1)) = .ok formals →
      C.Later w v →
      C.At v (s.lambdaNamed.registered (.lambda (lambdaAlias (s.lambdas + 1))))
        (s'.lambdaNamed.registered (.lambda (lambdaAlias (s'.lambdas + 1)))) →
      C.Ends [] v
        (inChildFrame 0 (frameOf (.ofLambda params body) formals)
          (below.body names (Routine.ofLambda params body).statements)
          (s.lambdaNamed.registered (.lambda (lambdaAlias (s.lambdas + 1)))))
        (inChildFrame 0 (frameOf (.ofLambda params' body') formals)
          (below'.body names' (Routine.ofLambda params' body').statements)
          (s'.lambdaNamed.registered (.lambda (lambdaAlias (s'.lambdas + 1))))))
    (outer : ∀ {d t t' v},
      closure below names (.lambda (lambdaAlias (s.lambdas + 1))) (.ofLambda params body) 0
        s.lambdaNamed = .ok d t →
      C.Later w v → C.At v t t' →
      C.Ends [] v (exprs below names args t) (exprs below' names' args' t')) :
    C.Ends [] w (callLambda below names params body args s)
      (callLambda below' names' params' body' args' s') := by
  unfold callLambda
  rw [nameLambda_bind, nameLambda_bind]
  -- The definition is lowered before the operands, so these begin in the state that it leaves.
  have made : C.Ends [] w
      (closure below names (.lambda (lambdaAlias (s.lambdas + 1))) (.ofLambda params body) 0
        s.lambdaNamed)
      (closure below' names' (.lambda (lambdaAlias (s'.lambdas + 1))) (.ofLambda params' body') 0
        s'.lambdaNamed) :=
    C.step here .lambda fun later here =>
      closure_coupled here pair fun _ accepted => inner accepted later here
  refine C.bind made fun ran later here definition => ?_
  refine C.bind (outer ran later here) fun _ later here operands => ?_
  exact C.pure here (C.inner pair.named (C.made_later later definition) operands) (by simp)

theorem callClosure_coupled {id : String} {place : Nat} {args args' : List Expr}
    (operands : C.Ends [] w (exprs below names args s) (exprs below' names' args' s'))
    (found : ∀ {ns t t' v}, exprs below names args s = .ok ns t → C.Later w v → C.At v t t' →
      ClosurePair
        (fun r r' => C.Ends [] v
          (lowerOnce place id (closure below names (.closure id) r place) t)
          (lowerOnce place id (closure below' names' (.closure id) r' place) t'))
        (t.frames.closure? place id) (t'.frames.closure? place id)) :
    C.Ends [] w (callClosure below names id place args s)
      (callClosure below' names' id place args' s') := by
  unfold callClosure
  refine C.bind operands fun {ns os t t' v} ran later here operands => ?_
  rw [frames_bind, frames_bind]
  have found := found ran later here
  generalize t.frames.closure? place id = c at found ⊢
  generalize t'.frames.closure? place id = c' at found ⊢
  cases found with
  | none => exact C.pure here (C.reference operands) (by simp)
  | @begun _ _ status begun =>
    cases status with
    | pending => exact absurd rfl begun
    | active | lowered => exact C.pure here (C.reference operands) (by simp)
  | pending made =>
    refine C.bind made fun _ later here definition => ?_
    exact C.pure here (C.inner (C.named_refl id) definition (C.all_later later operands)) (by simp)

theorem callFunction_coupled {id : FunctionId} {requested requested' : String}
    {args args' : List Expr}
    (operands : C.Ends [] w (exprs below names args s) (exprs below' names' args' s'))
    (recorded : ∀ {t t' v}, C.At v t t' → t'.aliases.get? id = t.aliases.get? id)
    (user : ∀ {v d e ns os}, C.Made v d e → List.Forall₂ (C.Similar v) ns os →
      C.Similar v (.call d.name ns (some d.node)) (.call e.name os (some e.node)))
    (function : ∀ {ns t t' v}, exprs below names args s = .ok ns t → t.aliases.get? id = none →
      C.Later w v → C.At v t t' →
      C.Ends [] v (below.function id requested t) (below'.function id requested' t')) :
    C.Ends [] w (callFunction below names id requested args s)
      (callFunction below' names' id requested' args' s') := by
  unfold callFunction
  refine C.bind operands fun {_ _ t _ _} ran later here operands => ?_
  -- The look-up comes after the operands, which may have recorded the function in both runs.
  rw [get_bind, get_bind, recorded here]
  cases known : t.aliases.get? id with
  | some name =>
    dsimp only
    rw [record_bind, record_bind]
    refine C.step here (.recorded (.reference name)) fun later here => ?_
    exact C.pure here (C.reference (C.all_later later operands)) (by simp)
  | none =>
    refine C.bind (function ran known later here) fun _ later here definition => ?_
    exact C.pure here (user definition (C.all_later later operands)) (by simp)

theorem callValue_coupled {callee : Expr} {args args' : List Expr} (here : C.At w s s')
    (called : (calledBy? host s.frames names callee = none ∧
        calledBy? host' s'.frames names' callee = none ∧
        C.Alike
          (quotingFault [.call callee args []]
            (.unknownOperator (Expr.call callee args []).text))
          (quotingFault [.call callee args' []]
            (.unknownOperator (Expr.call callee args' []).text))) ∨
      ∃ id requested requested', calledBy? host s.frames names callee = some (id, requested) ∧
        calledBy? host' s'.frames names' callee = some (id, requested') ∧
        C.Ends [] w (callFunction below names id requested args s)
          (callFunction below' names' id requested' args' s')) :
    C.Ends [] w (callValue host below names callee args s)
      (callValue host' below' names' callee args' s') := by
  unfold callValue
  rw [frames_bind, frames_bind]
  rcases called with ⟨missing, missing', alike⟩ | ⟨id, requested, requested', found, found', ends⟩
  · rw [missing, missing']
    exact C.fault here alike
  · rw [found, found']
    exact ends

theorem call_coupled {callee callee' : Expr} {args args' : List Expr}
    {keywords keywords' : List (Keyword Expr)} (here : C.At w s s')
    (same : (!keywords'.isEmpty || args'.any Expr.isStarred) =
      (!keywords.isEmpty || args.any Expr.isStarred))
    (callees : callee' = callee ∨ callee.isLambda = true ∧ callee'.isLambda = true)
    (token : calleeToken? s'.frames names' callee' = calleeToken? s.frames names callee)
    (owner : ∀ {id use}, callee = .name id use → s'.frames.owner? id = s.frames.owner? id)
    (flexible : (!keywords.isEmpty || args.any Expr.isStarred) = true →
      C.Alike
        (quotingFault [.call callee args keywords]
          (.unsupported (.flexibleArguments (Expr.call callee args keywords).text)))
        (quotingFault [.call callee' args' keywords']
          (.unsupported (.flexibleArguments (Expr.call callee' args' keywords').text))))
    (operator : ∀ {token}, (!keywords.isEmpty || args.any Expr.isStarred) = false →
      (calleeToken? s.frames names callee).filter Operator.isKnown = some token →
      C.Ends [] w ((do operation token (← exprs below names args) : Lower Node) s)
        ((do operation token (← exprs below' names' args') : Lower Node) s'))
    (lambda : ∀ {params body params' body'},
      (!keywords.isEmpty || args.any Expr.isStarred) = false →
      callee = .lambda params body → callee' = .lambda params' body' →
      C.Ends [] w (callLambda below names params body args s)
        (callLambda below' names' params' body' args' s'))
    (closure : ∀ {id use place}, (!keywords.isEmpty || args.any Expr.isStarred) = false →
      callee = .name id use → s.frames.owner? id = some place →
      C.Ends [] w (callClosure below names id place args s)
        (callClosure below' names' id place args' s'))
    (value : (!keywords.isEmpty || args.any Expr.isStarred) = false → callee' = callee →
      (calleeToken? s.frames names callee).filter Operator.isKnown = none →
      (∀ word use, callee = .name word use → s.frames.owner? word = none) →
      C.Ends [] w (callValue host below names callee args s)
        (callValue host' below' names' callee args' s')) :
    C.Ends [] w (call host below names callee args keywords s)
      (call host' below' names' callee' args' keywords' s') := by
  unfold call
  rw [same]
  cases rigid : !keywords.isEmpty || args.any Expr.isStarred with
  | true => exact C.fault here (flexible rigid)
  | false =>
    rw [if_neg Bool.false_ne_true, if_neg Bool.false_ne_true, frames_bind, frames_bind, token]
    cases known : (calleeToken? s.frames names callee).filter Operator.isKnown with
    | some token => exact operator rigid known
    | none =>
      -- A callee that differs between the runs is a lambda expression in both.
      rcases callees with rfl | ⟨isLambda, isLambda'⟩
      · cases callee' with
        | lambda params body => exact lambda rigid rfl rfl
        | name id use =>
          dsimp only
          rw [owner rfl]
          cases owned : s.frames.owner? id with
          | some place => exact closure rigid rfl owned
          | none =>
            refine value rigid rfl known ?_
            rintro word use' ⟨⟩
            exact owned
        | _ =>
          refine value rigid rfl known ?_
          rintro word use' ⟨⟩
      · cases callee with
        | lambda params body =>
          cases callee' with
          | lambda params' body' => exact lambda rigid rfl rfl
          | _ => cases isLambda'
        | _ => cases isLambda

end Cascade.Lowering
