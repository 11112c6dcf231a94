import Cascade.Proofs.Lowering.Entries
import Cascade.Proofs.Lowering.Frames

set_option autoImplicit false

/-!
# What is left to be lowered

Each level down either goes to a smaller part of the source, or begins a closure that was pending or
a function that was not recorded.  The load of a state is what those still weigh.  With the size of
the task at hand it bounds the levels that are needed from there on.
-/
namespace Cascade

open Source

noncomputable def Source.Routine.load (r : Routine) : Nat :=
  2 * sizeOf r.statements + 1

/-- Only a pending closure can still be lowered. -/
noncomputable def Closure.load (c : Closure) : Nat :=
  if c.status = .pending then c.routine.load else 0

noncomputable def Frame.load (f : Frame) : Nat :=
  f.closures.total Closure.load

noncomputable def Frames.load : Frames → Nat
  | [] => 0
  | f :: fs => f.load + Frames.load fs

noncomputable def Function.load (f : Function) : Nat :=
  match f.locate? with
  | .ok located => located.routine.load
  | .error _ => 0

noncomputable def World.load (w : World) (aliases : Aliases) : Nat :=
  Table.total Function.load (w.functions.filter fun entry => (aliases.get? entry.1).isNone)

namespace Frame

theorem load_bind_le (f : Frame) (name : String) : (f.bind name).load ≤ f.load :=
  Table.total_remove_le _ _ _

theorem load_bindClosure_le (f : Frame) (name : String) (routine : Routine) :
    (f.bindClosure name routine).load ≤ f.load + routine.load :=
  Table.total_set_le _ _ _ _

/-- A closure that is begun or finished weighs nothing any more. -/
theorem load_setStatus {f : Frame} {name : String} {c : Closure} {status : ClosureStatus}
    (held : f.closures.get? name = some c) (begun : status ≠ .pending) :
    (f.setStatus name status).load + c.load = f.load := by
  have moved := Table.total_set Closure.load { c with status := status } held
  have none : Closure.load { c with status := status } = 0 := if_neg begun
  simp only [load, setStatus, held]
  omega

theorem load_setStatus_le (f : Frame) (name : String) {status : ClosureStatus}
    (begun : status ≠ .pending) : (f.setStatus name status).load ≤ f.load := by
  cases held : f.closures.get? name with
  | none => simp [setStatus, held]
  | some c =>
    have moved := load_setStatus held begun
    omega

end Frame

namespace Frames

theorem load_le_of_forall₂ {fs gs : Frames} (h : List.Forall₂ (fun f g => g.load ≤ f.load) fs gs) :
    load gs ≤ load fs := by
  induction h with
  | nil => exact Nat.le_refl _
  | cons head _ ih => exact Nat.add_le_add head ih

theorem load_bind_le (fs : Frames) (name : String) : load (fs.bind name) ≤ load fs := by
  cases fs with
  | nil => exact Nat.le_refl _
  | cons f fs => exact Nat.add_le_add_right (f.load_bind_le name) _

theorem load_bindClosure_le (fs : Frames) (name : String) (routine : Routine) :
    load (fs.bindClosure name routine) ≤ load fs + routine.load := by
  cases fs with
  | nil => exact Nat.zero_le _
  | cons f fs =>
    have head := f.load_bindClosure_le name routine
    change (f.bindClosure name routine).load + load fs ≤ f.load + load fs + routine.load
    omega

/-- A pending closure is part of the load until it is begun. -/
theorem load_drop_active {fs : Frames} {place : Nat} {name : String} {routine : Routine}
    (held : fs.closure? place name = some ⟨routine, .pending⟩) :
    load ((fs.setStatus place name .active).drop place) + routine.load ≤ load fs := by
  unfold setStatus
  induction fs generalizing place with
  | nil => cases held
  | cons g gs ih =>
    cases place with
    | zero =>
      have moved : (g.setStatus name .active).load + routine.load = g.load :=
        Frame.load_setStatus held nofun
      change (g.setStatus name .active).load + load gs + routine.load ≤ g.load + load gs
      omega
    | succ place =>
      have rest := @ih place held
      change load ((gs.modify place _).drop place) + _ ≤ g.load + load gs
      omega

end Frames

namespace World

variable (w : World) {aliases : Aliases}

theorem load_set_le (aliases : Aliases) (id : FunctionId) (name : String) :
    w.load (aliases.set id name) ≤ w.load aliases := by
  refine Table.total_filter_le _ _ fun entry absent => ?_
  rw [Table.get?_set] at absent
  split at absent
  · cases absent
  · exact absent

/-- A function that is recorded weighs nothing any more. -/
theorem load_set {id : FunctionId} (name : String) (new : aliases.get? id = none) :
    w.load (aliases.set id name) + (w.function id).load ≤ w.load aliases := by
  unfold load function
  induction w.functions with
  | nil => exact Nat.le_refl 0
  | cons entry functions ih =>
    obtain ⟨key, f⟩ := entry
    rw [List.filter_cons, List.filter_cons, Table.get?_set, Table.get?_cons]
    by_cases same : id = key
    · -- The weight of this entry is gone, and the others have not become more.
      subst same
      have rest := load_set_le ⟨[], functions⟩ aliases id name
      unfold load at rest
      simp only [if_true, Option.isNone_some, Bool.false_eq_true, if_false, new, Option.isNone_none,
        Table.total_cons, Option.getD_some]
      omega
    · rw [if_neg same, if_neg (Ne.symm same)]
      split
      · simp only [Table.total_cons]
        omega
      · exact ih

end World

theorem sizeOf_list_pos {α : Type} [SizeOf α] (l : List α) : 0 < sizeOf l := by
  cases l <;> simp +arith

theorem sizeOf_append_cons {α : Type} [SizeOf α] (before : List α) (a : α) (after : List α) :
    sizeOf (before ++ a :: after) = sizeOf before + sizeOf a + sizeOf after := by
  induction before with
  | nil => simp
  | cons b before ih =>
    simp only [List.cons_append, List.cons.sizeOf_spec] at ih ⊢
    omega

theorem sizeOf_filter_le {α : Type} [SizeOf α] (p : α → Bool) (l : List α) :
    sizeOf (l.filter p) ≤ sizeOf l := by
  induction l with
  | nil => exact Nat.le_refl _
  | cons a l ih =>
    rw [List.filter_cons]
    split
    · simp only [List.cons.sizeOf_spec]
      omega
    · simp only [List.cons.sizeOf_spec]
      omega

namespace Source

theorem Expr.sizeOf_pos (e : Expr) : 0 < sizeOf e := by
  cases e <;> simp +arith

theorem Stmt.sizeOf_pos (st : Stmt) : 0 < sizeOf st := by
  cases st <;> simp +arith

theorem Stmt.sizeOf_asResult_le (st : Stmt) : sizeOf st.asResult ≤ sizeOf st + 1 := by
  unfold asResult
  split
  · split
    · exact Nat.le_succ _
    · simp +arith
  · exact Nat.le_succ _

namespace Routine

theorem sizeOf_withResult_le (ss : List Stmt) : sizeOf (withResult ss) ≤ sizeOf ss + 1 := by
  induction ss with
  | nil => exact Nat.le_succ _
  | cons st ss ih =>
    cases ss with
    | nil =>
      have last := st.sizeOf_asResult_le
      change sizeOf [st.asResult] ≤ _
      simp only [List.cons.sizeOf_spec]
      omega
    | cons next rest =>
      change sizeOf (st :: withResult (next :: rest)) ≤ _
      rw [List.cons.sizeOf_spec, List.cons.sizeOf_spec st]
      omega

theorem sizeOf_statements_ofFunction (params : List (Parameter Expr)) (body : List Stmt)
    (decorators : List Expr) :
    sizeOf (ofFunction params body decorators).statements ≤ sizeOf body + 1 := by
  cases body with
  | nil => exact Nat.le_succ _
  | cons st ss =>
    refine Nat.le_trans (sizeOf_withResult_le _) (Nat.succ_le_succ ?_)
    refine Nat.le_trans (sizeOf_filter_le _ _) ?_
    change sizeOf (if st.isDocstring then ss else st :: ss) ≤ sizeOf (st :: ss)
    split
    · simp +arith
    · exact Nat.le_refl _

theorem sizeOf_statements_ofLambda (params : List (Parameter Expr)) (value : Expr) :
    sizeOf (ofLambda params value).statements ≤ sizeOf value + 4 := by
  have filtered := sizeOf_filter_le (fun st : Stmt => !st.isPass) [.expr value]
  have result := sizeOf_withResult_le ([Stmt.expr value].filter fun st => !st.isPass)
  simp only [List.cons.sizeOf_spec, List.nil.sizeOf_spec, Stmt.expr.sizeOf_spec] at filtered
  change sizeOf (withResult ([Stmt.expr value].filter fun st => !st.isPass)) ≤ _
  omega

end Routine

end Source

end Cascade
