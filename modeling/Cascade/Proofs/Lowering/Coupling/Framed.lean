import Cascade.Proofs.Lowering.Coupling.SameSource

set_option autoImplicit false

namespace Cascade.Lowering

open Source

structure Coupling.Framed (C : Coupling) : Prop where
  frames : ∀ {w s s'}, C.At w s s' → s'.frames = s.frames
  inFrames : ∀ {α : Type} [Outcome α] {x y : Lower α} {enter : Frames → Frames}
    {leave : Frames → Frames → Frames} {w s s'}, C.At w s s' →
    (∀ {v}, C.Later w v → C.At v (s.withFrames (enter s.frames)) (s'.withFrames (enter s'.frames)) →
      C.Ends [] v (x (s.withFrames (enter s.frames))) (y (s'.withFrames (enter s'.frames)))) →
    C.Ends [] w (inFrames enter leave x s) (inFrames enter leave y s')
  closureBound : ∀ {w s s' id r}, C.At w s s' →
    C.Ends (α := Option Node) [] w (.ok none (s.closureBound id r)) (.ok none (s'.closureBound id r))

namespace Coupling.Framed

variable {C : Coupling} {host host' : Host} {below below' : Descent} {names names' : Namespace}
  {w : C.Stage} {s s' : State} {task : Task}

theorem closurePair (framed : C.Framed) {id : String} {place : Nat} (here : C.At w s s')
    (simple : ∀ {cause}, cause.isSimple = true → C.Alike cause cause)
    (inner : ∀ {r formals t' v}, s.frames.closure? place id = some ⟨r, .pending⟩ →
      r.decorated = false → r.formals? id = .ok formals → C.Later w v →
      C.At v ((s.withStatus place id .active).opened (.closure id) place (frameOf r formals)) t' →
      C.Ends [] v
        (below.body names r.statements
          ((s.withStatus place id .active).opened (.closure id) place (frameOf r formals)))
        (below'.body names' r.statements t')) :
    ClosurePair
      (fun r r' => C.Ends [] w
        (Lowering.lowerOnce place id (closure below names (.closure id) r place) s)
        (Lowering.lowerOnce place id (closure below' names' (.closure id) r' place) s'))
      (s.frames.closure? place id) (s'.frames.closure? place id) := by
  rw [framed.frames here]
  cases found : s.frames.closure? place id with
  | none => exact .none
  | some c =>
    obtain ⟨r, status⟩ := c
    cases status with
    | active | lowered => exact .begun nofun
    | pending =>
      refine .pending (C.lowerOnce here fun first here => ?_)
      refine C.step here (.closure id) fun second here => ?_
      refine closure_coupled here (.of_formals?_eq rfl rfl simple) fun undecorated accepted => ?_
      refine framed.inFrames here fun third here => ?_
      exact inner found undecorated accepted (C.later_trans (C.later_trans first second) third) here

/-- A task is coupled if the parts that it comes to are coupled. -/
theorem coupled (framed : C.Framed) (sound : Sound host below)
    (parts : ∀ {part t t' v}, Enters host names task s part t →
      (∀ id requested, part ≠ .function id requested) → C.Later w v → C.At v t t' →
      part.Couples C below below' names names' v t t')
    (own : ∀ {cause}, Raises names task s cause → C.Alike cause cause)
    (lookups : task.LooksAlike names names' s.frames s'.frames)
    (called : ∀ {callee args}, task = .expr (.call callee args []) →
      args.any Expr.isStarred = false →
      (calleeToken? s.frames names callee).filter Operator.isKnown = none →
      (∀ word use, callee = .name word use → s.frames.owner? word = none) →
      C.Ends [] w (callValue host below names callee args s)
        (callValue host' below' names' callee args s'))
    (here : C.At w s s') :
    task.Coupled C host host' below below' names names' w s s' where
  parts {part} _ _ _ entered inPlace later here := by
    refine parts entered (fun id requested same => ?_) later here
    rw [same] at inPlace
    cases inPlace
  own := own
  lookups := lookups
  lambda := by
    rintro params body args formals v rfl plain accepted later here
    refine framed.inFrames here fun later' here => ?_
    exact parts (.lambda plain accepted) nofun (C.later_trans later later') here
  closure := by
    rintro id use args place ns t t' v rfl plain owned ran later here
    refine framed.closurePair here (fun simple => own (.simple simple)) ?_
    intro r formals u' v' found undecorated accepted later' here
    exact parts (.closure plain owned (exprs_sound sound ran) found undecorated accepted) nofun
      (C.later_trans later later') here
  called := called
  bound _ _ := framed.closureBound here

end Coupling.Framed

/-- A coupling of runs that are in the same state.  The first one may be cut off. -/
structure StateCoupling where
  Alike : Fault → Prop
  Ends : ∀ {α : Type}, Ending α → Ending α → Prop
  pure : ∀ {α : Type} {a : α} {s}, Ends (.ok a s) (.ok a s)
  fault : ∀ {α : Type} {cause s}, Alike cause → Ends (α := α) (.error cause s) (.error cause s)
  bind : ∀ {α β : Type} {x y : Lower α} {f g : α → Lower β} {s s'}, Ends (x s) (y s') →
    (∀ {a t}, x s = .ok a t → Ends (f a t) (g a t)) → Ends ((x >>= f) s) ((y >>= g) s')
  reframe : ∀ {α : Type} {r r' : Ending α} (leave abort : Frames → Frames), Ends r r' →
    Ends (r.reframe leave abort) (r'.reframe leave abort)

namespace StateCoupling

variable (C : StateCoupling)

theorem inFrames {α : Type} {x y : Lower α} {enter : Frames → Frames}
    {leave : Frames → Frames → Frames} {s : State}
    (inner : C.Ends (x (s.withFrames (enter s.frames))) (y (s.withFrames (enter s.frames)))) :
    C.Ends (inFrames enter leave x s) (inFrames enter leave y s) :=
  C.reframe (leave s.frames) (leave s.frames) inner

@[reducible]
def coupling : Coupling :=
  ExactCoupling.coupling
    { Stage := Unit
      Later := fun _ _ => True
      later_refl := fun _ => trivial
      later_trans := fun _ _ => trivial
      At := fun _ s s' => s' = s
      Alike := fun cause cause' => cause' = cause ∧ C.Alike cause
      Ends := fun _ => C.Ends
      pure := by
        rintro α a w s s' rfl
        exact C.pure
      fault := by
        rintro α w s s' cause cause' rfl ⟨rfl, alike⟩
        exact C.fault alike
      bind := fun first next => C.bind first fun ran => next (v := ()) ran trivial rfl
      step := by
        rintro α r r' w s s' t t' rfl pace next
        cases pace <;> exact next (v := ()) trivial rfl
      lowerOnce := by
        rintro α x y w s s' place name rfl inner
        exact C.reframe (·.setStatus place name .lowered) (·.setStatus place name .pending)
          (inner (v := ()) trivial rfl)
      lambdas := by
        rintro w s s' rfl
        rfl }

theorem framed : C.coupling.Framed where
  frames := by
    rintro w s s' rfl
    rfl
  inFrames := by
    rintro α _ x y enter leave w s s' rfl inner
    exact C.inFrames (inner (v := ()) trivial rfl)
  closureBound := by
    rintro w s s' id r rfl
    exact C.pure

end StateCoupling

namespace Task

/-- The look-ups that a task makes itself have the same results in both programs.  The value of a
callee is looked up only if it is no closure. -/
def SameLookups (host host' : Host) (names names' : Namespace) (fs : Frames) : Task → Prop
  | expr (.name id _) => nameNode? fs names' id = nameNode? fs names id
  | expr (.call callee _ _) =>
    calleeToken? fs names' callee = calleeToken? fs names callee ∧
      ((∀ word use, callee = .name word use → fs.owner? word = none) →
        calledBy? host' fs names' callee = calledBy? host fs names callee)
  | statement (.forLoop _ source _ _) =>
    staticRange? fs names' source = staticRange? fs names source ∧
      ∀ id use, source = .name id use → staticValues? fs names' id = staticValues? fs names id
  | function id _ =>
    (host'.world.function id).locate? = (host.world.function id).locate? ∧
      (host'.world.function id).qualname = (host.world.function id).qualname
  | _ => True

theorem SameLookups.refl {host : Host} {names : Namespace} {fs : Frames} (task : Task) :
    task.SameLookups host host names names fs := by
  unfold SameLookups
  split
  · rfl
  · exact ⟨rfl, fun _ => rfl⟩
  · exact ⟨rfl, fun _ _ _ => rfl⟩
  · exact ⟨rfl, rfl⟩
  · trivial

theorem SameLookups.looksAlike {host host' : Host} {names names' : Namespace} {fs : Frames}
    {task : Task} (same : task.SameLookups host host' names names' fs) :
    task.LooksAlike names names' fs fs := by
  cases task with
  | expr e =>
    cases e with
    | name => exact same
    | call => exact ⟨same.1, fun _ => rfl⟩
    | _ => trivial
  | statement st =>
    cases st with
    | forLoop => exact ⟨same.1, fun named => same.2 _ _ named⟩
    | _ => trivial
  | _ => trivial

end Task

section SameState

variable {C : StateCoupling} {host host' : Host} {below below' : Descent} {names names' : Namespace}
  {s : State}

theorem function_same {id : FunctionId} {requested : String} (sound : Sound host below)
    (same : (Task.function id requested).SameLookups host host' names names' s.frames)
    (parts : ∀ {part t}, Enters host names (.function id requested) s part t →
      part.Couples C.coupling below below' (host.world.namespaceOf (host.world.function id))
        (host'.world.namespaceOf (host'.world.function id)) () t t)
    (simple : ∀ {cause}, cause.isSimple = true → C.Alike cause) :
    C.Ends (function host below id requested s) (function host' below' id requested s) := by
  unfold function
  rw [markFunction_bind, markFunction_bind, register_bind, register_bind, record_bind, record_bind,
    same.1, same.2]
  cases found : (host.world.function id).locate? with
  | error cause => exact C.fault (simple (simple_locate found))
  | ok located =>
    rw [bind_of_ok (ofExcept_eq_ok.2 ⟨rfl, rfl⟩), bind_of_ok (ofExcept_eq_ok.2 ⟨rfl, rfl⟩)]
    cases accepted : located.routine.formals? (s.aliasFor id requested) with
    | error cause => exact C.fault (simple (simple_formals accepted))
    | ok formals =>
      rw [bind_of_ok (ofExcept_eq_ok.2 ⟨rfl, rfl⟩), bind_of_ok (ofExcept_eq_ok.2 ⟨rfl, rfl⟩)]
      refine C.bind (C.inFrames ?_) fun _ => C.pure
      exact block_same (C := C.coupling) (w := ()) sound rfl fun split earlier _ here => by
        subst here
        exact parts (.begun found accepted split earlier)

/-- One level: a task is coupled if whatever it comes to is coupled. -/
theorem StateCoupling.couples {limit limit' : Int} {levels levels' : Nat} {task : Task}
    (parts : ∀ {part t}, Enters host names task s part t →
      part.Couples C.coupling (descent host limit levels) (descent host' limit' levels')
        (task.inner host names) (task.inner host' names') () t t)
    (own : ∀ {cause}, Raises names task s cause → C.Alike cause)
    (same : task.SameLookups host host' names names' s.frames) :
    task.Couples C.coupling (descent host limit (levels + 1)) (descent host' limit' (levels' + 1))
      names names' () s s := by
  have sound := descent_sound host limit levels
  cases task with
  | expr e =>
    refine expr_same (C := C.coupling) sound rfl (C.framed.coupled sound ?_ ?_ same.looksAlike ?_ rfl)
    · rintro part t t' v entered _ _ rfl
      exact parts entered
    · exact fun raised => ⟨rfl, own raised⟩
    · rintro callee args ⟨⟩ plain unnamed unowned
      refine callValue_coupled (C := C.coupling) rfl ?_
      rw [same.2 unowned]
      cases called : calledBy? host s.frames names callee with
      | none => exact .inl ⟨rfl, rfl, rfl, own (.quoting (.expression rfl) _)⟩
      | some target =>
        refine .inr ⟨target.1, target.2, target.2, rfl, rfl, ?_⟩
        refine callFunction_same (C := C.coupling) sound rfl plain unnamed unowned called ?_ ?_ ?_ ?_
        · rintro t t' v rfl
          rfl
        · rintro v d e ns os rfl same
          rw [List.forall₂_eq_eq_eq] at same
          rw [same]
        · rintro a t t' v entered _ rfl
          exact parts (.operand entered)
        · rintro t t' v entered _ rfl
          exact parts entered
  | statement st =>
    have coupled : (Task.statement st).Coupled C.coupling host host' (descent host limit levels)
        (descent host' limit' levels') names names' () s s := by
      refine C.framed.coupled sound ?_ (fun raised => ⟨rfl, own raised⟩) same.looksAlike nofun rfl
      rintro part t t' v entered _ _ rfl
      exact parts entered
    exact statement_same sound rfl coupled
  | body ss =>
    refine block_same (C := C.coupling) sound rfl ?_
    rintro before st after ns t t' v rfl earlier _ rfl
    exact parts (.body earlier)
  | function id requested =>
    exact function_same sound same parts fun simple => own (.simple simple)

end SameState

end Cascade.Lowering
