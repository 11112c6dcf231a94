import Cascade.Proofs.Lowering.Load

set_option autoImplicit false

namespace Cascade

open Source

namespace Lowering

theorem load_order : FrameOrder fun f g => g.load ≤ f.load where
  refl _ := Nat.le_refl _
  trans first second := Nat.le_trans second first
  status f name _ begun := f.load_setStatus_le name begun

noncomputable def Job.growth : Job → Nat
  | .statement st => 2 * sizeOf st
  | .block ss => 2 * sizeOf ss
  | _ => 0

def Job.Grows (fs gs : Frames) : Job → Prop
  | .statement st => gs.load ≤ fs.load + 2 * sizeOf st
  | .block ss => gs.load ≤ fs.load + 2 * sizeOf ss
  | _ => True

section

variable {host : Host} {names : Namespace} {job : Job} {s t : State} {ns : List Node}

theorem Lowered.grows (h : Lowered host names job s ns t) : job.Grows s.frames t.frames := by
  have unchanged {fs gs : Frames} := @Frames.load_le_of_forall₂ fs gs
  induction h with
  | ret | declaration | pass | dropped | blockNil => exact Nat.le_add_right _ _
  | retValue value | expression value =>
    exact Nat.le_add_right_of_le (unchanged (value.across load_order))
  | branch condition _ _ ih =>
    have first := unchanged (condition.across load_order)
    simp only [Job.Grows, Stmt.branch.sizeOf_spec] at ih ⊢
    omega
  | branchElse condition _ _ _ ih₁ ih₂ =>
    have first := unchanged (condition.across load_order)
    simp only [Job.Grows, Stmt.branch.sizeOf_spec] at ih₁ ih₂ ⊢
    omega
  | @loop _ id _ _ _ _ _ t _ _ header _ _ ih =>
    have first := unchanged (header.across load_order)
    have bound := t.frames.load_bind_le id
    simp only [Job.Grows, Stmt.forLoop.sizeOf_spec, State.withFrames_frames] at ih ⊢
    omega
  | @augAssign _ id _ _ _ _ _ _ t _ value | @assign _ id _ _ _ _ t value =>
    have first := unchanged (value.across load_order)
    have bound := t.frames.load_bind_le id
    simp only [Job.Grows, State.withFrames_frames]
    omega
  | @annotated _ _ annotation _ _ _ _ _ _ ih =>
    have inhabited := annotation.sizeOf_pos
    simp only [Job.Grows, Stmt.assign.sizeOf_spec, Stmt.annAssign.sizeOf_spec,
      List.cons.sizeOf_spec, List.nil.sizeOf_spec, Option.some.sizeOf_spec] at ih ⊢
    omega
  | @assignLambda _ id _ params body s =>
    have bound := s.frames.load_bindClosure_le id (.ofLambda params body)
    have size := Routine.sizeOf_statements_ofLambda params body
    have some := sizeOf_list_pos params
    simp only [Job.Grows, Routine.load, Stmt.assign.sizeOf_spec, Expr.lambda.sizeOf_spec,
      List.cons.sizeOf_spec, List.nil.sizeOf_spec, State.recorded_frames,
      State.withFrames_frames] at bound ⊢
    omega
  | @nested _ id params body decorators returns s =>
    have bound := s.frames.load_bindClosure_le id (.ofFunction params body decorators)
    have size := Routine.sizeOf_statements_ofFunction params body decorators
    have some := sizeOf_list_pos params
    simp only [Job.Grows, Routine.load, Stmt.function.sizeOf_spec, State.recorded_frames,
      State.withFrames_frames] at bound ⊢
    omega
  | blockCons _ _ ih₁ ih₂ =>
    simp only [Job.Grows, List.cons.sizeOf_spec] at ih₁ ih₂ ⊢
    omega
  | _ => trivial

theorem Lowered.load_le (h : Lowered host names job s ns t) :
    t.frames.load ≤ s.frames.load + job.growth := by
  cases job with
  | statement st | block ss => exact h.grows
  | _ => exact Frames.load_le_of_forall₂ (h.across load_order)

end

noncomputable def potential (host : Host) (s : State) : Nat :=
  host.world.load s.aliases + s.frames.load

section

variable {host : Host} {names : Namespace} {job : Job} {s t : State} {ns : List Node}

theorem stable_load (host : Host) (bound : Nat) :
    Stable fun s => host.world.load s.aliases ≤ bound where
  frames h := h
  event h := h
  function _ h := Nat.le_trans (host.world.load_set_le _ _ _) h
  closure h := h
  lambda h := h

theorem Lowered.world_load_le (h : Lowered host names job s ns t) :
    host.world.load t.aliases ≤ host.world.load s.aliases :=
  h.preserves (stable_load host _) (Nat.le_refl _)

theorem Lowered.potential_le (h : Lowered host names job s ns t) :
    potential host t ≤ potential host s + job.growth := by
  have functions := h.world_load_le
  have closures := h.load_le
  unfold potential
  omega

theorem load_frameOf_cons (r : Routine) (formals : List String) (fs : Frames) :
    Frames.load (frameOf r formals :: fs) = fs.load :=
  Nat.zero_add _

theorem potential_lambda_opened (host : Host) (s : State) (r : Routine) (formals : List String) :
    potential host (s.lambdaNamed.opened (.lambda (lambdaAlias (s.lambdas + 1))) 0
      (frameOf r formals)) = potential host s := by
  change _ + Frames.load (frameOf r formals :: s.frames) = _
  rw [load_frameOf_cons]
  rfl

theorem potential_closure_opened (host : Host) {place : Nat} {id : String} {r : Routine}
    (formals : List String) (pending : s.frames.closure? place id = some ⟨r, .pending⟩) :
    potential host ((s.withStatus place id .active).opened (.closure id) place
      (frameOf r formals)) + r.load ≤ potential host s := by
  have begun := Frames.load_drop_active pending
  change _ + Frames.load (frameOf r formals :: _) + _ ≤ _
  rw [load_frameOf_cons, Nat.add_assoc]
  exact Nat.add_le_add_left begun _

theorem potential_begun {id : FunctionId} {located : Located} (requested qualname : String)
    (formals : List String) (new : s.aliases.get? id = none)
    (found : (host.world.function id).locate? = .ok located) :
    potential host (s.begun id requested qualname (frameOf located.routine formals)) +
      located.routine.load ≤ potential host s := by
  have recorded := host.world.load_set (s.aliasFor id requested) new
  have own : (host.world.function id).load = located.routine.load := by
    simp only [Function.load, found]
  rw [own] at recorded
  exact Nat.le_add_right_of_le recorded

/-- Operands of a lambda expression called where it stands are lowered after its body. -/
theorem Lowered.potential_closed_le {entry : Entry} {frame : Frame} {ss : List Stmt}
    (h : Lowered host names (.block ss) (s.opened entry 0 frame) ns t) :
    potential host (t.closed s.frames 0) ≤ potential host s := by
  have functions := h.world_load_le
  have closures : Frames.load t.frames.tail ≤ s.frames.load :=
    Frames.load_le_of_forall₂ (h.across load_order)
  exact Nat.add_le_add functions closures

theorem sizeOf_lastOperand_le (left : Expr) (links : List (Comparison Expr)) :
    sizeOf (lastOperand left links) + 1 ≤ sizeOf left + sizeOf links := by
  induction links generalizing left with
  | nil => simp [lastOperand]
  | cons link links ih =>
    obtain ⟨op, right⟩ := link
    have rest := ih right
    simp only [lastOperand, List.cons.sizeOf_spec, Comparison.mk.sizeOf_spec]
    omega

theorem Operand.need_lt {e a : Expr} (h : Operand host names e s a t) :
    2 * sizeOf a + potential host t < 2 * sizeOf e + potential host s := by
  cases h with
  | unary _ =>
    simp only [Expr.unary.sizeOf_spec]
    omega
  | left _ =>
    simp only [Expr.binary.sizeOf_spec]
    omega
  | right _ first =>
    have earlier := first.potential_le
    simp only [Job.growth, Expr.binary.sizeOf_spec] at earlier ⊢
    omega
  | @junction _ first rest before _ after _ _ _ split earlier =>
    have size := congrArg sizeOf split
    have earlier := earlier.potential_le
    have some := sizeOf_list_pos before
    rw [sizeOf_append_cons] at size
    simp only [Job.growth, Expr.junction.sizeOf_spec, List.cons.sizeOf_spec] at size earlier ⊢
    omega
  | @compareLeft left op right rest before link _ after _ _ _ split known earlier =>
    have size := congrArg sizeOf split
    have earlier := earlier.potential_le
    have last := sizeOf_lastOperand_le left before
    have some := sizeOf_list_pos after
    rw [sizeOf_append_cons] at size
    simp only [Job.growth, Expr.compare.sizeOf_spec, List.cons.sizeOf_spec,
      Comparison.mk.sizeOf_spec] at size earlier ⊢
    omega
  | @compareRight left op right rest before link _ after _ _ _ _ _ split known earlier first =>
    have size := congrArg sizeOf split
    have earlier := earlier.potential_le
    have first := first.potential_le
    have some := sizeOf_list_pos before
    rw [sizeOf_append_cons] at size
    obtain ⟨op', right'⟩ := link
    simp only [Job.growth, Expr.compare.sizeOf_spec, List.cons.sizeOf_spec,
      Comparison.mk.sizeOf_spec] at size earlier first ⊢
    omega
  | @argument callee before _ after _ _ _ _ _ earlier =>
    have earlier := earlier.potential_le
    simp only [Job.growth, Expr.call.sizeOf_spec, sizeOf_append_cons] at earlier ⊢
    omega
  | @lambdaArgument _ _ _ before _ after _ _ u _ _ _ _ inner earlier =>
    have closed : potential host (u.closed s.frames 0) ≤ potential host s :=
      inner.potential_closed_le
    have earlier := earlier.potential_le
    simp only [Job.growth, Expr.call.sizeOf_spec, sizeOf_append_cons] at earlier ⊢
    omega

theorem Evaluates.sizeOf_lt {st : Stmt} {e : Expr} (h : Evaluates st e) :
    sizeOf e < sizeOf st := by
  cases h <;> simp +arith

theorem Nested.need_lt {st part : Stmt} (h : Nested host names st s part t) :
    2 * sizeOf part + potential host t < 2 * sizeOf st + potential host s := by
  cases h with
  | body condition earlier =>
    have condition := condition.potential_le
    have earlier := earlier.potential_le
    simp only [Job.growth, Stmt.branch.sizeOf_spec, sizeOf_append_cons] at condition earlier ⊢
    omega
  | orelse condition positive earlier =>
    have condition := condition.potential_le
    have positive := positive.potential_le
    have earlier := earlier.potential_le
    simp only [Job.growth, Stmt.branch.sizeOf_spec, sizeOf_append_cons]
      at condition positive earlier ⊢
    omega
  | @loop id _ _ _ _ _ _ _ u _ _ header earlier =>
    have header := header.potential_le
    have earlier := earlier.potential_le
    have bound : potential host (u.withFrames (u.frames.bind id)) ≤ potential host u :=
      Nat.add_le_add_left (u.frames.load_bind_le id) _
    simp only [Job.growth, Stmt.forLoop.sizeOf_spec, sizeOf_append_cons] at header earlier ⊢
    omega

end

namespace Task

noncomputable def need (host : Host) (s : State) : Task → Nat
  | expr e => 2 * sizeOf e + potential host s
  | statement st => 2 * sizeOf st + potential host s
  | body ss => 2 * sizeOf ss + 1 + potential host s
  | function _ _ => 1 + potential host s

def Ready (s : State) : Task → Prop
  | function id _ => s.aliases.get? id = none
  | _ => True

theorem need_pos (host : Host) (s : State) (task : Task) : 0 < task.need host s := by
  cases task with
  | expr e =>
    have inhabited := e.sizeOf_pos
    simp only [need]
    omega
  | statement st =>
    have inhabited := st.sizeOf_pos
    simp only [need]
    omega
  | body | function =>
    simp only [need]
    omega

end Task

section

variable {host : Host} {names : Namespace} {task part : Task} {s t : State}

theorem Enters.ready (h : Enters host names task s part t) : part.Ready t := by
  cases h with
  | function _ _ _ _ _ unrecorded => exact unrecorded
  | _ => trivial

/-- Every level down needs less. -/
theorem Enters.need_lt (h : Enters host names task s part t) (ready : task.Ready s) :
    part.need host t < task.need host s := by
  cases h with
  | operand h => exact h.need_lt
  | nested h => exact h.need_lt
  | value h =>
    have size := h.sizeOf_lt
    simp only [Task.need]
    omega
  | @lambda params body args _ _ _ _ =>
    -- The statement made of the body is larger than the body, but smaller than the call.
    have size := Routine.sizeOf_statements_ofLambda params body
    have some := sizeOf_list_pos params
    have more := sizeOf_list_pos args
    simp only [Task.need, potential_lambda_opened, Expr.call.sizeOf_spec, Expr.lambda.sizeOf_spec,
      List.nil.sizeOf_spec]
    omega
  | @closure _ _ _ _ _ formals _ _ _ _ _ outer pending _ _ =>
    -- The body need not be part of the call; it was part of the load.
    have outer := outer.potential_le
    have begun := potential_closure_opened host formals pending
    simp only [Task.need, Job.growth, Routine.load, Expr.call.sizeOf_spec] at outer begun ⊢
    omega
  | function _ _ _ _ outer _ =>
    have outer := outer.potential_le
    simp only [Task.need, Job.growth, Expr.call.sizeOf_spec] at outer ⊢
    omega
  | display shape split earlier =>
    have earlier := earlier.potential_le
    rcases shape with rfl | rfl
    · simp only [Task.need, Job.growth, Stmt.forLoop.sizeOf_spec, Expr.list.sizeOf_spec, split,
        sizeOf_append_cons] at earlier ⊢
      omega
    · simp only [Task.need, Job.growth, Stmt.forLoop.sizeOf_spec, Expr.tuple.sizeOf_spec, split,
        sizeOf_append_cons] at earlier ⊢
      omega
  | body earlier =>
    have earlier := earlier.potential_le
    simp only [Task.need, Job.growth, sizeOf_append_cons] at earlier ⊢
    omega
  | @begun id requested _ formals _ _ _ _ _ _ found _ split earlier =>
    have earlier := earlier.potential_le
    have recorded := potential_begun requested (host.world.function id).qualname formals ready found
    simp only [Task.need, Job.growth, Routine.load, split, sizeOf_append_cons]
      at earlier recorded ⊢
    omega

end

end Lowering

end Cascade
