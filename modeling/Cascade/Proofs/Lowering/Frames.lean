import Cascade.Proofs.Frame.Shape
import Cascade.Proofs.Lowering.Steps
import Mathlib.Data.List.Forall2

set_option autoImplicit false

namespace Cascade.Lowering

open Source

structure FrameOrder (R : Frame → Frame → Prop) : Prop where
  refl : ∀ f, R f f
  trans : ∀ {f g h}, R f g → R g h → R f h
  status : ∀ f name {status}, status ≠ .pending → R f (f.setStatus name status)

/-- How a job may change the frames `fs` into `gs`: frame by frame as the relation says, except that
statements may do anything to the innermost frame. -/
def Job.Across (R : Frame → Frame → Prop) (fs gs : Frames) : Job → Prop
  | .statement _ | .block _ => List.Forall₂ R fs.tail gs.tail
  | _ => List.Forall₂ R fs gs

namespace FrameOrder

variable {R : Frame → Frame → Prop} {fs gs hs : Frames}

theorem frames_refl (order : FrameOrder R) (fs : Frames) : List.Forall₂ R fs fs :=
  List.forall₂_same.2 fun f _ => order.refl f

theorem frames_trans (order : FrameOrder R) (first : List.Forall₂ R fs gs)
    (second : List.Forall₂ R gs hs) : List.Forall₂ R fs hs := by
  induction first generalizing hs with
  | nil => exact second
  | cons head tail ih =>
    cases second with
    | cons head' tail' => exact .cons (order.trans head head') (ih tail')

theorem frames_tail (h : List.Forall₂ R fs gs) : List.Forall₂ R fs.tail gs.tail := by
  cases h with
  | nil => exact .nil
  | cons _ tail => exact tail

theorem frames_status (order : FrameOrder R) (place : Nat) (name : String) (status : ClosureStatus)
    (begun : status ≠ .pending) : List.Forall₂ R fs (fs.setStatus place name status) := by
  unfold Frames.setStatus
  induction fs generalizing place with
  | nil => simp
  | cons f fs ih =>
    cases place with
    | zero => exact .cons (order.status f name begun) (order.frames_refl fs)
    | succ place => exact .cons (order.refl f) (ih place)

/-- The frames of a chain that were shared with the body of a closure go back to their places. -/
theorem frames_rejoin (order : FrameOrder R) {frame : Frame} {place : Nat}
    (h : List.Forall₂ R (frame :: fs.drop place).tail gs.tail) :
    List.Forall₂ R fs (fs.take place ++ gs.tail) := by
  have both : List.Forall₂ R (fs.take place ++ fs.drop place) (fs.take place ++ gs.tail) :=
    List.rel_append (order.frames_refl (fs.take place)) h
  rwa [List.take_append_drop] at both

end FrameOrder

theorem Lowered.across {R : Frame → Frame → Prop} (order : FrameOrder R) {host : Host}
    {names : Namespace} {job : Job} {s t : State} {ns : List Node}
    (h : Lowered host names job s ns t) : job.Across R s.frames t.frames := by
  induction h with
  | name | constant | negative | nil | chainNil | range | constants | ret | declaration | pass
  | dropped | blockNil | function => exact order.frames_refl _
  | plus _ ih | minus _ _ ih | negation _ _ ih | compare _ ih | operator _ _ _ _ ih
  | closureReference _ _ _ _ ih | functionReference _ _ _ _ _ _ ih | display _ _ _ ih
  | annotated _ ih => exact ih
  | binary _ _ _ ih₁ ih₂ | junction _ _ ih₁ ih₂ | cons _ _ ih₁ ih₂
  | functionDefinition _ _ _ _ _ _ _ ih₁ ih₂ | blockCons _ _ ih₁ ih₂ =>
    exact order.frames_trans ih₁ ih₂
  | chainCons _ _ _ _ ih₁ ih₂ ih₃ => exact order.frames_trans ih₁ (order.frames_trans ih₂ ih₃)
  | lambda _ _ _ _ ih₁ ih₂ => exact order.frames_trans (order.frames_rejoin ih₁) ih₂
  | @closureDefinition _ id _ _ place _ _ _ _ _ _ _ _ _ _ _ _ _ _ ih₁ ih₂ =>
    have active := order.frames_trans ih₁ (order.frames_status place id .active nofun)
    have rejoined := order.frames_trans active (order.frames_rejoin ih₂)
    exact order.frames_trans rejoined (order.frames_status place id .lowered nofun)
  | branch _ _ ih₁ ih₂ => exact order.frames_trans (FrameOrder.frames_tail ih₁) ih₂
  | branchElse _ _ _ ih₁ ih₂ ih₃ =>
    exact order.frames_trans (FrameOrder.frames_tail ih₁) (order.frames_trans ih₂ ih₃)
  | loop _ _ ih₁ ih₂ =>
    simp only [Job.Across, State.withFrames_frames, Frames.tail_bind] at ih₁ ih₂ ⊢
    exact order.frames_trans (FrameOrder.frames_tail ih₁) ih₂
  | retValue _ ih | expression _ ih => exact FrameOrder.frames_tail ih
  | augAssign _ _ ih | assign _ ih =>
    simp only [Job.Across, State.withFrames_frames, Frames.tail_bind] at ih ⊢
    exact FrameOrder.frames_tail ih
  | assignLambda | nested =>
    simp only [Job.Across, State.recorded_frames, State.withFrames_frames, Frames.tail_bindClosure]
    exact order.frames_refl _

theorem Operand.across {R : Frame → Frame → Prop} (order : FrameOrder R) {host : Host}
    {names : Namespace} {s t : State} {e a : Expr} (h : Operand host names e s a t) :
    List.Forall₂ R s.frames t.frames := by
  cases h with
  | unary | left => exact order.frames_refl _
  | right _ first => exact first.across order
  | junction _ earlier | compareLeft _ _ earlier | argument _ _ earlier =>
    exact earlier.across order
  | compareRight _ _ earlier first =>
    exact order.frames_trans (earlier.across order) (first.across order)
  | lambdaArgument _ _ inner earlier =>
    have rejoined := order.frames_rejoin (inner.across order)
    exact order.frames_trans rejoined (earlier.across order)

theorem shape_order : FrameOrder fun f g => g.shape = f.shape where
  refl _ := rfl
  trans first second := second.trans first
  status f name status _ := Frame.shape_setStatus f name status

theorem shape_eq_of_forall₂ {fs gs : Frames}
    (h : List.Forall₂ (fun f g => g.shape = f.shape) fs gs) : gs.shape = fs.shape := by
  induction h with
  | nil => rfl
  | cons head _ ih => exact congrArg₂ List.cons head ih

def Job.Keeps (fs gs : Frames) : Job → Prop
  | .statement _ | .block _ => gs.shape.tail = fs.shape.tail
  | _ => gs.shape = fs.shape

theorem Lowered.keeps {host : Host} {names : Namespace} {job : Job} {s t : State} {ns : List Node}
    (h : Lowered host names job s ns t) : job.Keeps s.frames t.frames := by
  have across := h.across shape_order
  cases job with
  | statement st | block ss =>
    have tails := shape_eq_of_forall₂ across
    rwa [Frames.shape_tail, Frames.shape_tail] at tails
  | _ => exact shape_eq_of_forall₂ across

/-- A closure that has an owner is still found there after the operands of its call. -/
theorem Lowered.owner_keeps {host : Host} {names : Namespace} {args : List Expr} {s t : State}
    {ns : List Node} {id : String} {place : Nat} (h : Lowered host names (.exprs args) s ns t)
    (owned : s.frames.owner? id = some place) : ∃ c, t.frames.closure? place id = some c := by
  obtain ⟨before, held⟩ := Frames.closure?_of_owner? owned
  have same := Frames.closure?_routine_of_shape h.keeps place id
  rw [held] at same
  obtain ⟨c, found, _⟩ := Option.map_eq_some_iff.1 same
  exact ⟨c, found⟩

end Cascade.Lowering
