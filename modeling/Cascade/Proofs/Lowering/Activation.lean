import Cascade.Proofs.Frame.Lookup
import Cascade.Proofs.Lowering.Entries
import Cascade.Proofs.Lowering.Frames
import Cascade.Proofs.Source.Live

set_option autoImplicit false

namespace Cascade.Lowering

open Source

structure Activation where
  routine : Routine
  formals : List String

namespace Activation

def locals (a : Activation) : List String :=
  a.routine.localNames a.formals

structure Fits (a : Activation) (f : Frame) : Prop where
  apart : f.Apart
  binds_iff : ∀ n, f.Binds n ↔ n ∈ a.locals
  written : ∀ {id c}, f.closures.get? id = some c →
    ∃ st, a.routine.Runs st ∧ st.closure? = some (id, c.routine)

variable {a : Activation} {f g : Frame}

theorem fits_frameOf (a : Activation) : a.Fits (frameOf a.routine a.formals) where
  apart _ _ := rfl
  binds_iff n := by
    constructor
    · rintro (named | ⟨c, held⟩)
      · exact named
      · cases held
    · exact .inl
  written held := by cases held

theorem Fits.of_shape (h : a.Fits f) (same : g.shape = f.shape) : a.Fits g where
  apart := h.apart.of_shape same
  binds_iff n := by
    rw [← h.binds_iff n]
    exact ⟨fun binds => binds.of_shape same.symm, fun binds => binds.of_shape same⟩
  written {id c} held := by
    have routines := Frame.get?_routine_of_shape same id
    rw [held] at routines
    obtain ⟨c', held', routine⟩ := Option.map_eq_some_iff.1 routines.symm
    obtain ⟨st, runs, closure⟩ := h.written held'
    exact ⟨st, runs, by rw [closure, routine]⟩

theorem Fits.bind (h : a.Fits f) {id : String} (isLocal : id ∈ a.locals) : a.Fits (f.bind id) where
  apart := h.apart.bind id
  binds_iff n := by
    rw [Frame.binds_bind, h.binds_iff]
    constructor
    · rintro (rfl | inside)
      · exact isLocal
      · exact inside
    · exact .inr
  written {other c} held := by
    rw [Frame.bind, Table.get?_remove] at held
    split at held
    · cases held
    · exact h.written held

theorem Fits.bindClosure (h : a.Fits f) {st : Stmt} {id : String} {r : Routine}
    (isLocal : id ∈ a.locals) (runs : a.routine.Runs st) (closure : st.closure? = some (id, r)) :
    a.Fits (f.bindClosure id r) where
  apart := h.apart.bindClosure id r
  binds_iff n := by
    rw [Frame.binds_bindClosure, h.binds_iff]
    constructor
    · rintro (rfl | inside)
      · exact isLocal
      · exact inside
    · exact .inr
  written {other c} held := by
    rw [Frame.bindClosure, Table.get?_set] at held
    split at held
    · rename_i same
      cases held
      exact ⟨st, runs, by rw [closure, same]⟩
    · exact h.written held

def Tidy (a : Activation) (f : Frame) : Prop :=
  a.routine.storesTargets = true → a.Fits f

theorem tidy_frameOf (a : Activation) : a.Tidy (frameOf a.routine a.formals) :=
  fun _ => fits_frameOf a

theorem Tidy.of_shape (h : a.Tidy f) (same : g.shape = f.shape) : a.Tidy g :=
  fun stored => (h stored).of_shape same

theorem Tidy.bind (h : a.Tidy f) {st : Stmt} {id : String} (runs : a.routine.Runs st)
    (target : st.target? = some id) : a.Tidy (f.bind id) := by
  intro stored
  have bound := Stmt.target?_mem_boundNames (runs.storesTargets stored) target
  exact (h stored).bind (runs.boundNames_subset bound)

theorem Tidy.bindClosure (h : a.Tidy f) {st : Stmt} {id : String} {r : Routine}
    (runs : a.routine.Runs st) (closure : st.closure? = some (id, r)) :
    a.Tidy (f.bindClosure id r) := by
  intro stored
  have bound := Stmt.closure?_mem_boundNames (runs.storesTargets stored) closure
  exact (h stored).bindClosure (runs.boundNames_subset bound) runs closure

def Heads (a : Activation) (fs : Frames) : Prop :=
  ∃ f, fs.head? = some f ∧ a.Tidy f

variable {fs gs : Frames}

theorem Heads.of_shape (h : a.Heads fs) (same : gs.shape = fs.shape) : a.Heads gs := by
  obtain ⟨f, held, tidy⟩ := h
  have heads := congrArg List.head? same
  unfold Frames.shape at heads
  rw [List.head?_map, List.head?_map, held] at heads
  obtain ⟨g, held', same'⟩ := Option.map_eq_some_iff.1 heads
  exact ⟨g, held', tidy.of_shape same'⟩

theorem Heads.bind (h : a.Heads fs) {st : Stmt} {id : String} (runs : a.routine.Runs st)
    (target : st.target? = some id) : a.Heads (fs.bind id) := by
  obtain ⟨f, held, tidy⟩ := h
  refine ⟨f.bind id, ?_, tidy.bind runs target⟩
  rw [Frames.bind, List.head?_modifyHead, held]
  rfl

theorem Heads.bindClosure (h : a.Heads fs) {st : Stmt} {id : String} {r : Routine}
    (runs : a.routine.Runs st) (closure : st.closure? = some (id, r)) :
    a.Heads (fs.bindClosure id r) := by
  obtain ⟨f, held, tidy⟩ := h
  refine ⟨f.bindClosure id r, ?_, tidy.bindClosure runs closure⟩
  rw [Frames.bindClosure, List.head?_modifyHead, held]
  rfl

end Activation

def Job.Fitted (a : Activation) (fs gs : Frames) : Job → Prop
  | .statement st => a.routine.Runs st → a.Heads fs → a.Heads gs
  | .block ss => (∀ st ∈ ss, a.routine.Runs st) → a.Heads fs → a.Heads gs
  | _ => True

def Job.Inside (active : List Activation) : Job → Prop
  | .statement st => ∃ a rest, active = a :: rest ∧ a.routine.Runs st
  | .block ss => ∃ a rest, active = a :: rest ∧ ∀ st ∈ ss, a.routine.Runs st
  | _ => True

section Tidy

variable {host : Host} {names : Namespace} {job : Job} {s t : State} {ns : List Node}
  {active : List Activation} {fs gs : Frames}

theorem Lowered.fitted {a : Activation} (h : Lowered host names job s ns t) :
    job.Fitted a s.frames t.frames := by
  induction h with
  | ret | declaration | pass | dropped | blockNil => exact fun _ heads => heads
  | retValue value | expression value => exact fun _ heads => heads.of_shape value.keeps
  | branch condition _ _ ih =>
    intro runs heads
    refine ih (fun st inside => runs.inner ?_) (heads.of_shape condition.keeps)
    exact List.mem_append_left _ inside
  | branchElse condition _ _ _ ih₁ ih₂ =>
    intro runs heads
    refine ih₂ (fun st inside => runs.inner (List.mem_append_right _ inside)) ?_
    refine ih₁ (fun st inside => runs.inner (List.mem_append_left _ inside)) ?_
    exact heads.of_shape condition.keeps
  | loop header _ _ ih =>
    intro runs heads
    refine ih (fun st inside => runs.inner (List.mem_append_left _ inside)) ?_
    exact (heads.of_shape header.keeps).bind runs rfl
  | augAssign _ value | assign value =>
    intro runs heads
    exact (heads.of_shape value.keeps).bind runs rfl
  | annotated plain =>
    -- The assignment in it is no statement of the routine.
    intro runs heads
    cases plain with
    | assign value => exact (heads.of_shape value.keeps).bind runs rfl
    | assignLambda => exact heads.bindClosure runs rfl
  | assignLambda | nested =>
    intro runs heads
    exact heads.bindClosure runs rfl
  | blockCons _ _ ih₁ ih₂ =>
    intro runs heads
    refine ih₂ (fun st inside => runs st (List.mem_cons_of_mem _ inside)) ?_
    exact ih₁ (runs _ List.mem_cons_self) heads
  | _ => trivial

theorem tidy_of_shape (h : List.Forall₂ Activation.Tidy active fs)
    (same : List.Forall₂ (fun f g => g.shape = f.shape) fs gs) :
    List.Forall₂ Activation.Tidy active gs := by
  induction same generalizing active with
  | nil => exact h
  | cons head _ ih =>
    cases h with
    | cons tidy rest => exact .cons (tidy.of_shape head) (ih rest)

theorem tidy_of_heads {a : Activation} {rest : List Activation}
    (h : List.Forall₂ Activation.Tidy (a :: rest) fs)
    (same : List.Forall₂ (fun f g => g.shape = f.shape) fs.tail gs.tail)
    (heads : a.Heads fs → a.Heads gs) : List.Forall₂ Activation.Tidy (a :: rest) gs := by
  cases h with
  | @cons _ f _ _ tidy tail =>
    obtain ⟨g, held, tidy'⟩ := heads ⟨f, rfl, tidy⟩
    obtain ⟨gs, rfl⟩ := List.head?_eq_some_iff.1 held
    exact .cons tidy' (tidy_of_shape tail same)

/-- The frames of all routines stay tidy across a part of the innermost one. -/
theorem Lowered.tidy (h : Lowered host names job s ns t) (inside : job.Inside active)
    (tidy : List.Forall₂ Activation.Tidy active s.frames) :
    List.Forall₂ Activation.Tidy active t.frames := by
  have across := h.across shape_order
  have fitted {a : Activation} := h.fitted (a := a)
  cases job with
  | statement st | block ss =>
    obtain ⟨a, rest, rfl, runs⟩ := inside
    exact tidy_of_heads tidy across (fitted runs)
  | _ => exact tidy_of_shape tidy across

end Tidy

end Cascade.Lowering
