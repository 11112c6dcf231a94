import Cascade.Proofs.Lowering.Coupling.Call
import Cascade.Proofs.Lowering.Coupling.Statement

set_option autoImplicit false

namespace Cascade.Lowering

open Source

inductive BindsClosure : Stmt → String → Routine → Prop where
  | function {id params body decorators returns} :
      BindsClosure (.function id params body decorators returns) id
        (.ofFunction params body decorators)
  | assign {id use params body} :
      BindsClosure (.assign [.name id use] (.lambda params body)) id (.ofLambda params body)
  | annotated {id use note params body bare} :
      BindsClosure (.annAssign (.name id use) note (some (.lambda params body)) bare) id
        (.ofLambda params body)

def State.closureBound (s : State) (id : String) (routine : Routine) : State :=
  (s.withFrames (s.frames.bindClosure id routine)).recorded (.closureBound id)

namespace Task

def LooksAlike (names names' : Namespace) (fs fs' : Frames) : Task → Prop
  | expr (.name id _) => nameNode? fs' names' id = nameNode? fs names id
  | expr (.call callee _ _) =>
    calleeToken? fs' names' callee = calleeToken? fs names callee ∧
      ∀ {id use}, callee = .name id use → fs'.owner? id = fs.owner? id
  | statement (.forLoop _ source _ _) =>
    staticRange? fs' names' source = staticRange? fs names source ∧
      ∀ {id use}, source = .name id use → staticValues? fs' names' id = staticValues? fs names id
  | _ => True

theorem LooksAlike.refl (names : Namespace) (fs : Frames) (task : Task) :
    task.LooksAlike names names fs fs := by
  unfold LooksAlike
  split
  · rfl
  · exact ⟨rfl, fun _ => rfl⟩
  · exact ⟨rfl, fun _ => rfl⟩
  · trivial

def Couples (C : Coupling) (below below' : Descent) (names names' : Namespace) (w : C.Stage)
    (s s' : State) : Task → Prop
  | expr e => C.Ends [] w (below.expr names e s) (below'.expr names' e s')
  | statement st => C.Ends [] w (below.statement names st s) (below'.statement names' st s')
  | body ss => C.Ends [] w (below.body names ss s) (below'.body names' ss s')
  | function id requested =>
    C.Ends [] w (below.function id requested s) (below'.function id requested s')

def isInPlace : Task → Bool
  | expr _ | statement _ => true
  | body _ | function .. => false

/-- What couples two lowerings of a task.  The bodies of lambda expressions and closures are lowered
in frames of their own, and called functions under names of their own. -/
structure Coupled (C : Coupling) (host host' : Host) (below below' : Descent)
    (names names' : Namespace) (w : C.Stage) (s s' : State) (task : Task) : Prop where
  parts : ∀ {part t t' v}, Enters host names task s part t → part.isInPlace = true →
    C.Later w v → C.At v t t' → part.Couples C below below' names names' v t t'
  own : ∀ {cause}, Raises names task s cause → C.Alike cause cause
  lookups : task.LooksAlike names names' s.frames s'.frames
  lambda : ∀ {params body args formals v}, task = .expr (.call (.lambda params body) args []) →
    args.any Expr.isStarred = false →
    (Routine.ofLambda params body).formals? (lambdaAlias (s.lambdas + 1)) = .ok formals →
    C.Later w v →
    C.At v (s.lambdaNamed.registered (.lambda (lambdaAlias (s.lambdas + 1))))
      (s'.lambdaNamed.registered (.lambda (lambdaAlias (s'.lambdas + 1)))) →
    C.Ends [] v
      (inChildFrame 0 (frameOf (.ofLambda params body) formals)
        (below.body names (Routine.ofLambda params body).statements)
        (s.lambdaNamed.registered (.lambda (lambdaAlias (s.lambdas + 1)))))
      (inChildFrame 0 (frameOf (.ofLambda params body) formals)
        (below'.body names' (Routine.ofLambda params body).statements)
        (s'.lambdaNamed.registered (.lambda (lambdaAlias (s'.lambdas + 1)))))
  closure : ∀ {id use args place ns t t' v}, task = .expr (.call (.name id use) args []) →
    args.any Expr.isStarred = false → s.frames.owner? id = some place →
    exprs below names args s = .ok ns t → C.Later w v → C.At v t t' →
    ClosurePair
      (fun r r' => C.Ends [] v
        (lowerOnce place id (closure below names (.closure id) r place) t)
        (lowerOnce place id (closure below' names' (.closure id) r' place) t'))
      (t.frames.closure? place id) (t'.frames.closure? place id)
  called : ∀ {callee args}, task = .expr (.call callee args []) →
    args.any Expr.isStarred = false →
    (calleeToken? s.frames names callee).filter Operator.isKnown = none →
    (∀ word use, callee = .name word use → s.frames.owner? word = none) →
    C.Ends [] w (callValue host below names callee args s)
      (callValue host' below' names' callee args s')
  bound : ∀ {st id routine}, task = .statement st → BindsClosure st id routine →
    C.Ends (α := Option Node) [] w (.ok none (s.closureBound id routine))
      (.ok none (s'.closureBound id routine))

end Task

variable {C : Coupling} {host host' : Host} {below below' : Descent} {names names' : Namespace}
  {w : C.Stage} {s s' : State}

section Lists

theorem exprs_same (sound : Sound host below) {es : List Expr} (here : C.At w s s')
    (parts : ∀ {before e after ns t t' v}, es = before ++ e :: after →
      Lowered host names (.exprs before) s ns t → C.Later w v → C.At v t t' →
      C.Ends [] v (below.expr names e t) (below'.expr names' e t')) :
    C.Ends [] w (exprs below names es s) (exprs below' names' es s') := by
  induction es generalizing w s s' with
  | nil => exact exprs_nil_coupled here
  | cons e es ih =>
    refine exprs_cons_coupled (@parts [] _ _ _ _ _ _ rfl .nil (C.later_refl w) here)
      fun ran later here => ih here fun split earlier later' here => ?_
    exact @parts (e :: _) _ _ _ _ _ _ (congrArg (e :: ·) split) (.cons (sound.expr ran) earlier)
      (C.later_trans later later') here

theorem block_same (sound : Sound host below) {ss : List Stmt} (here : C.At w s s')
    (parts : ∀ {before st after ns t t' v}, ss = before ++ st :: after →
      Lowered host names (.block before) s ns t → C.Later w v → C.At v t t' →
      C.Ends [] v (below.statement names st t) (below'.statement names' st t')) :
    C.Ends [] w (block below names ss s) (block below' names' ss s') := by
  induction ss generalizing w s s' with
  | nil => exact block_nil_coupled here
  | cons st ss ih =>
    refine block_cons_coupled (@parts [] _ _ _ _ _ _ rfl .blockNil (C.later_refl w) here)
      fun ran later here => ih here fun split earlier later' here => ?_
    exact @parts (st :: _) _ _ _ _ _ _ (congrArg (st :: ·) split)
      (.blockCons (sound.statement ran) earlier) (C.later_trans later later') here

theorem comparisons_same (sound : Sound host below) {whole left : Expr}
    {links : List (Comparison Expr)} (here : C.At w s s')
    (lefts : ∀ {before link token after ns t t' v}, links = before ++ link :: after →
      Operator.compareToken? link.op = some token → Lowered host names (.chain left before) s ns t →
      C.Later w v → C.At v t t' →
      C.Ends [] v (below.expr names (lastOperand left before) t)
        (below'.expr names' (lastOperand left before) t'))
    (rights : ∀ {before link token after ns t a u u' v}, links = before ++ link :: after →
      Operator.compareToken? link.op = some token → Lowered host names (.chain left before) s ns t →
      Lowered host names (.expr (lastOperand left before)) t [a] u → C.Later w v → C.At v u u' →
      C.Ends [] v (below.expr names link.right u) (below'.expr names' link.right u'))
    (own : ∀ {link}, link ∈ links → Operator.compareToken? link.op = none →
      C.Alike (quotingFault [whole] (.unknownOperator whole.text))
        (quotingFault [whole] (.unknownOperator whole.text))) :
    C.Ends [] w (comparisons below names whole left links s)
      (comparisons below' names' whole left links s') := by
  induction links generalizing left w s s' with
  | nil => exact C.pure here .nil (List.nil_subset _)
  | cons link rest ih =>
    obtain ⟨op, right⟩ := link
    refine comparisons_cons_coupled here ?_ ?_ ?_ fun unknown => own List.mem_cons_self unknown
    · exact fun known => @lefts [] _ _ _ _ _ _ _ rfl known .chainNil (C.later_refl w) here
    · exact fun known ran later here =>
        @rights [] _ _ _ _ _ _ _ _ _ rfl known .chainNil (sound.expr ran) later here
    · intro token a t b u u' v known ran ran' later here
      have link {before ns t} (earlier : Lowered host names (.chain right before) u ns t) :=
        Lowered.chainCons known (sound.expr ran) (sound.expr ran') earlier
      refine ih here (fun split known earlier later' here => ?_)
        (fun split known earlier first later' here => ?_)
        fun inside => own (List.mem_cons_of_mem _ inside)
      · exact @lefts (⟨op, right⟩ :: _) _ _ _ _ _ _ _ (congrArg (_ :: ·) split) known
          (link earlier) (C.later_trans later later') here
      · exact @rights (⟨op, right⟩ :: _) _ _ _ _ _ _ _ _ _ (congrArg (_ :: ·) split) known
          (link earlier) first (C.later_trans later later') here

theorem length_of_exprs {es : List Expr} {ns : List Node} {t : State}
    (lowered : exprs below names es s = .ok ns t) : ns.length = es.length := by
  induction es generalizing s ns with
  | nil =>
    simp only [exprs, pure_eq_ok] at lowered
    simp [← lowered.1]
  | cons e es ih =>
    simp only [exprs, bind_eq_ok, pure_eq_ok] at lowered
    obtain ⟨n, v, head, ms, w, tail, rfl, rfl⟩ := lowered
    simp [ih tail]

end Lists

namespace Task.Coupled

variable {task : Task}

theorem simple (coupled : task.Coupled C host host' below below' names names' w s s') {cause : Fault}
    (simple : cause.isSimple = true) : C.Alike cause cause :=
  coupled.own (.simple simple)

theorem operand {e a : Expr} {t t' : State} {v : C.Stage}
    (coupled : (Task.expr e).Coupled C host host' below below' names names' w s s')
    (entered : Operand host names e s a t) (later : C.Later w v) (here : C.At v t t') :
    C.Ends [] v (below.expr names a t) (below'.expr names' a t') :=
  coupled.parts (.operand entered) rfl later here

theorem value {st : Stmt} {e : Expr}
    (coupled : (Task.statement st).Coupled C host host' below below' names names' w s s')
    (here : C.At w s s') (evaluated : Evaluates st e) :
    C.Ends [] w (below.expr names e s) (below'.expr names' e s') :=
  coupled.parts (.value evaluated) rfl (C.later_refl w) here

theorem nested {st part : Stmt} {t t' : State} {v : C.Stage}
    (coupled : (Task.statement st).Coupled C host host' below below' names names' w s s')
    (entered : Nested host names st s part t) (later : C.Later w v) (here : C.At v t t') :
    C.Ends [] v (below.statement names part t) (below'.statement names' part t') :=
  coupled.parts (.nested entered) rfl later here

end Task.Coupled

section Exprs

variable (sound : Sound host below) (here : C.At w s s')
include sound here

theorem callOperator_same {callee : Expr} {args : List Expr} {token : String}
    (plain : args.any Expr.isStarred = false)
    (known : (calleeToken? s.frames names callee).filter Operator.isKnown = some token)
    (coupled : (Task.expr (.call callee args [])).Coupled C host host' below below' names names' w s
      s') :
    C.Ends [] w ((do operation token (← exprs below names args) : Lower Node) s)
      ((do operation token (← exprs below' names' args) : Lower Node) s') := by
  refine C.bind (exprs_same sound here fun split earlier later here => ?_)
    fun ran _ here operands => operation_coupled here operands (by simp) fun failed => ?_
  · subst split
    exact coupled.operand (.argument plain (.inl ⟨token, known⟩) earlier) later here
  · obtain ⟨named, isKnown⟩ := Option.filter_eq_some_iff.1 known
    obtain ⟨rfl, unfit⟩ := operation_eq_error isKnown failed
    rw [length_of_exprs ran] at unfit ⊢
    exact coupled.own (.arity plain named isKnown unfit)

theorem callLambda_same {params : List (Parameter Expr)} {body : Expr} {args : List Expr}
    (plain : args.any Expr.isStarred = false)
    (coupled : (Task.expr (.call (.lambda params body) args [])).Coupled C host host' below below'
      names names' w s s') :
    C.Ends [] w (callLambda below names params body args s)
      (callLambda below' names' params body args s') := by
  have named := C.lambdas here
  have pair : RoutinePair C (lambdaAlias (s.lambdas + 1)) (lambdaAlias (s'.lambdas + 1))
      (.ofLambda params body) (.ofLambda params body) := by
    refine ⟨named, rfl, nofun, ?_⟩
    cases accepted : (Routine.ofLambda params body).formals? (lambdaAlias (s.lambdas + 1)) with
    | error cause =>
      obtain ⟨cause', failed, alike⟩ := C.refused named accepted
      exact .inl ⟨cause, cause', rfl, failed, alike (coupled.simple (simple_formals accepted))⟩
    | ok formals => exact .inr ⟨formals, rfl, C.accepted named accepted⟩
  refine callLambda_coupled here pair (fun accepted => coupled.lambda rfl plain accepted)
    fun ran later here => ?_
  obtain ⟨_, formals, steps, u, accepted, inner, _, rfl⟩ := closure_eq_ok.1 ran
  refine exprs_same sound here fun split earlier later' here => ?_
  subst split
  exact coupled.operand (.lambdaArgument plain accepted (sound.body inner) earlier)
    (C.later_trans later later') here

theorem callClosure_same {id : String} {use : Use} {place : Nat} {args : List Expr}
    (plain : args.any Expr.isStarred = false) (owned : s.frames.owner? id = some place)
    (coupled : (Task.expr (.call (.name id use) args [])).Coupled C host host' below below' names
      names' w s s') :
    C.Ends [] w (callClosure below names id place args s)
      (callClosure below' names' id place args s') := by
  have callable : Callable host names s (.name id use) := .inr (.inl ⟨id, use, place, rfl, owned⟩)
  refine callClosure_coupled (exprs_same sound here fun split earlier later here => ?_)
    fun ran later here => coupled.closure rfl plain owned ran later here
  subst split
  exact coupled.operand (.argument plain callable earlier) later here

theorem callFunction_same {callee : Expr} {args : List Expr} {id : FunctionId}
    {requested requested' : String} (plain : args.any Expr.isStarred = false)
    (unnamed : (calleeToken? s.frames names callee).filter Operator.isKnown = none)
    (unowned : ∀ word use, callee = .name word use → s.frames.owner? word = none)
    (called : calledBy? host s.frames names callee = some (id, requested))
    (recorded : ∀ {t t' v}, C.At v t t' → t'.aliases.get? id = t.aliases.get? id)
    (user : ∀ {v d e ns os}, C.Made v d e → List.Forall₂ (C.Similar v) ns os →
      C.Similar v (.call d.name ns (some d.node)) (.call e.name os (some e.node)))
    (operand : ∀ {a t t' v}, Operand host names (.call callee args []) s a t → C.Later w v →
      C.At v t t' → C.Ends [] v (below.expr names a t) (below'.expr names' a t'))
    (function : ∀ {t t' v},
      Enters host names (.expr (.call callee args [])) s (.function id requested) t →
      C.Later w v → C.At v t t' →
      C.Ends [] v (below.function id requested t) (below'.function id requested' t')) :
    C.Ends [] w (callFunction below names id requested args s)
      (callFunction below' names' id requested' args s') := by
  refine callFunction_coupled (exprs_same sound here fun split earlier later here => ?_) recorded
    user fun ran new later here => ?_
  · subst split
    exact operand (.argument plain (.inr (.inr ⟨_, called⟩)) earlier) later here
  · exact function (.function plain unnamed unowned called (exprs_sound sound ran) new) later here

theorem call_same {callee : Expr} {args : List Expr} {keywords : List (Keyword Expr)}
    (coupled : (Task.expr (.call callee args keywords)).Coupled C host host' below below' names
      names' w s s') :
    C.Ends [] w (call host below names callee args keywords s)
      (call host' below' names' callee args keywords s') := by
  obtain ⟨token, owner⟩ := coupled.lookups
  have rigid (h : (!keywords.isEmpty || args.any Expr.isStarred) = false) :
      keywords = [] ∧ args.any Expr.isStarred = false := by
    simpa using h
  refine call_coupled here rfl (.inl rfl) token owner (fun _ => ?_) ?_ ?_ ?_ ?_
  · exact coupled.simple (simple_quotingFault rfl)
  · intro token h known
    obtain ⟨rfl, plain⟩ := rigid h
    exact callOperator_same sound here plain known coupled
  · rintro params body _ _ h rfl ⟨⟩
    obtain ⟨rfl, plain⟩ := rigid h
    exact callLambda_same sound here plain coupled
  · rintro id use place h rfl owned
    obtain ⟨rfl, plain⟩ := rigid h
    exact callClosure_same sound here plain owned coupled
  · intro h _ unnamed unowned
    obtain ⟨rfl, plain⟩ := rigid h
    exact coupled.called rfl plain unnamed unowned

theorem compare_same {left right : Expr} {op : CompareOp} {rest : List (Comparison Expr)}
    (coupled : (Task.expr (.compare left op right rest)).Coupled C host host' below below' names
      names' w s s') :
    C.Ends [] w (compare below names left op right rest s)
      (compare below' names' left op right rest s') := by
  refine compare_coupled (comparisons_same sound here (fun split known earlier later here => ?_)
    (fun split known earlier first later here => ?_) fun inside unknown => ?_)
  · exact coupled.operand (.compareLeft split known earlier) later here
  · exact coupled.operand (.compareRight split known earlier first) later here
  · refine coupled.own (.quoting (.expression ?_) _)
    rcases List.mem_cons.1 inside with rfl | inside
    · simp [Expr.isRefused, unknown]
    · simp only [Expr.isRefused, Bool.or_eq_true, List.any_eq_true]
      exact .inr ⟨_, inside, by simp [unknown]⟩

theorem expr_same {e : Expr}
    (coupled : (Task.expr e).Coupled C host host' below below' names names' w s s') :
    C.Ends [] w (expr host below names e s) (expr host' below' names' e s') := by
  cases e with
  | binary op left right =>
    refine binary_coupled here (fun known => ?_) (fun known ran later here => ?_) fun unknown => ?_
    · exact coupled.operand (.left known) (C.later_refl w) here
    · exact coupled.operand (.right known (sound.expr ran)) later here
    · exact coupled.own (.quoting (.expression (by simp [Expr.isRefused, unknown])) _)
  | unary op operand =>
    refine unary_coupled here (fun _ => rfl) (fun kept => ?_) coupled.simple
    exact coupled.operand (.unary kept) (C.later_refl w) here
  | junction op first rest =>
    refine junction_coupled
      (coupled.operand (@Operand.junction _ _ _ _ _ [] _ _ _ _ _ rfl .nil) (C.later_refl w) here)
      fun ran later here => exprs_same sound here fun split earlier later' here => ?_
    exact coupled.operand
      (.junction (congrArg (first :: ·) split) (.cons (sound.expr ran) earlier))
      (C.later_trans later later') here
  | compare left op right rest => exact compare_same sound here coupled
  | call callee args keywords => exact call_same sound here coupled
  | name id use =>
    change C.Ends [] w (ofExcept (nameNode? s.frames names id) s)
      (ofExcept (nameNode? s'.frames names' id) s')
    rw [show nameNode? s'.frames names' id = nameNode? s.frames names id from coupled.lookups]
    refine ofExcept_coupled here (fun found => ?_) fun failed =>
      coupled.simple (simple_nameNode failed)
    rcases nameNode?_eq_ok found with rfl | ⟨value, rfl⟩
    · exact C.symbol id
    · exact C.literal value
  | constant value =>
    refine ofExcept_coupled here (fun found => ?_) fun failed =>
      coupled.simple (simple_constantNode failed)
    rw [constantNode?_eq_ok found]
    exact C.literal value
  | named => exact C.fault here (coupled.simple rfl)
  | lambda => exact C.fault here (coupled.simple (simple_quotingFault rfl))
  | _ => exact C.fault here (coupled.own (.quoting (.expression rfl) _))

end Exprs

section Stmts

variable (sound : Sound host below) (here : C.At w s s')
include here

theorem assign_same {st : Stmt} {targets : List Expr} {value : Expr}
    (coupled : (Task.statement st).Coupled C host host' below below' names names' w s s')
    (evaluated : ∀ {id use}, targets = [.name id use] → isAssignable value = true →
      Evaluates st value)
    (bound : ∀ {id use params body}, targets = [.name id use] → value = .lambda params body →
      BindsClosure st id (.ofLambda params body)) :
    C.Ends [] w (assign below names targets value s) (assign below' names' targets value s') := by
  unfold assign
  split
  · rename_i id use
    cases value with
    | lambda params body => exact coupled.bound rfl (bound rfl rfl)
    | named => exact C.fault here (coupled.simple rfl)
    | _ => exact assignName_coupled use rfl rfl (coupled.value here (evaluated rfl rfl))
  · exact C.fault here (coupled.simple rfl)

theorem exprStatement_same {value : Expr}
    (coupled : (Task.statement (.expr value)).Coupled C host host' below below' names names' w s
      s') :
    C.Ends [] w (exprStatement below names value s) (exprStatement below' names' value s') := by
  unfold exprStatement
  cases lambda : value.isLambda with
  | true =>
    simp only [if_true]
    cases value.textFault? with
    | none => exact C.step here (.recorded _) fun _ here => C.pure here .none (List.nil_subset _)
    | some cause => exact C.fault here (coupled.simple rfl)
  | false => exact some_coupled (coupled.value here (.expression lambda))

include sound

theorem loop_same {target source : Expr} {body orelse : List Stmt}
    (coupled : (Task.statement (.forLoop target source body orelse)).Coupled C host host' below
      below' names names' w s s') :
    C.Ends [] w (loop below names target source body orelse s)
      (loop below' names' target source body orelse s') := by
  obtain ⟨range, values⟩ := coupled.lookups
  refine loop_coupled here rfl ?_ ?_ coupled.simple
  · rintro id use rfl rfl
    refine iterator_coupled here range values (fun shape => ?_) coupled.simple
    refine displayIterator_coupled (exprs_same sound here fun split earlier later here => ?_)
      (coupled.simple (simple_quotingFault rfl))
    exact coupled.parts (.display shape split earlier) rfl later here
  · rintro id use n t t' v rfl rfl ran later here
    refine block_same sound here fun split earlier later' here => ?_
    subst split
    exact coupled.nested (.loop (iterator_sound sound ran) earlier) (C.later_trans later later') here

theorem branch_same {test : Expr} {body orelse : List Stmt}
    (coupled : (Task.statement (.branch test body orelse)).Coupled C host host' below below' names
      names' w s s') :
    C.Ends [] w (branch below names test body orelse s)
      (branch below' names' test body orelse s') := by
  refine branch_coupled rfl (coupled.value here .test) ?_ ?_
  · intro n t t' v ran later here
    refine block_same sound here fun split earlier later' here => ?_
    subst split
    exact coupled.nested (.body (sound.expr ran) earlier) (C.later_trans later later') here
  · intro n t ns u u' v ran ran' later here
    refine block_same sound here fun split earlier later' here => ?_
    subst split
    exact coupled.nested (.orelse (sound.expr ran) (block_sound sound ran') earlier)
      (C.later_trans later later') here

theorem statement_same {st : Stmt}
    (coupled : (Task.statement st).Coupled C host host' below below' names names' w s s') :
    C.Ends [] w (statement below names st s) (statement below' names' st s') := by
  cases st with
  | branch test body orelse => exact some_coupled (branch_same sound here coupled)
  | forLoop target source body orelse => exact some_coupled (loop_same sound here coupled)
  | ret value =>
    cases value with
    | none => exact C.pure here (.some (C.ret .none)) (List.nil_subset _)
    | some e => exact ret_coupled (coupled.value here .ret)
  | augAssign target op value =>
    refine some_coupled (augAssign_coupled here ?_ ?_ coupled.simple)
    · rintro id use token rfl known
      exact coupled.value here (.augAssign known)
    · rintro id use rfl unknown
      exact coupled.own (.quoting (.assignment unknown) _)
  | annAssign target note value bare =>
    cases value with
    | none => exact C.pure here .none (List.nil_subset _)
    | some e =>
      refine assign_same here coupled (fun split assignable => ?_) fun split same => ?_
      · cases split
        exact .annotated assignable
      · cases split
        cases same
        exact .annotated
  | assign targets value =>
    refine assign_same here coupled (fun split assignable => ?_) fun split same => ?_
    · cases split
      exact .assign assignable
    · cases split
      cases same
      exact .assign
  | function id params body decorators returns => exact coupled.bound rfl .function
  | pass => exact C.pure here .none (List.nil_subset _)
  | expr value => exact exprStatement_same here coupled
  | _ => exact C.fault here (coupled.simple rfl)

end Stmts

end Cascade.Lowering
