import Cascade.Proofs.Lowering.Coupling.Framed

set_option autoImplicit false

namespace Cascade.Lowering

open Source

/-- What two runs are compared up to.  Where the first is cut off, nothing is said about the second;
otherwise they end alike, and a fault that they end with is a good one. -/
structure Tolerance where
  cut : Fault → Prop
  good : Fault → Prop
  plain : ∀ {fault}, fault.Plain → good fault

namespace Tolerance

def Follows {α : Type} (tol : Tolerance) (r r' : Ending α) : Prop :=
  (∃ fault t, r = .error fault t ∧ tol.cut fault) ∨
    (r' = r ∧ ∀ fault t, r = .error fault t → tol.good fault)

namespace Follows

variable {α β : Type} {tol : Tolerance} {s s' : State}

theorem ok {a : α} : tol.Follows (.ok a s) (.ok a s) :=
  .inr ⟨rfl, nofun⟩

theorem fault {cause : Fault} (good : tol.good cause) :
    tol.Follows (α := α) (.error cause s) (.error cause s) := by
  refine .inr ⟨rfl, fun other t same => ?_⟩
  cases same
  exact good

theorem bind {x y : Lower α} {f g : α → Lower β} (first : tol.Follows (x s) (y s'))
    (next : ∀ {a t}, x s = .ok a t → tol.Follows (f a t) (g a t)) :
    tol.Follows ((x >>= f) s) ((y >>= g) s') := by
  change tol.Follows (EStateM.bind x f s) (EStateM.bind y g s')
  unfold EStateM.bind
  rcases first with ⟨cause, t, failed, cut⟩ | ⟨same, good⟩
  · rw [failed]
    exact .inl ⟨cause, t, rfl, cut⟩
  · rw [same]
    cases ended : x s with
    | ok a t => exact next ended
    | error cause t => exact fault (good cause t ended)

theorem reframe {r r' : Ending α} (leave abort : Frames → Frames) (h : tol.Follows r r') :
    tol.Follows (r.reframe leave abort) (r'.reframe leave abort) := by
  rcases h with ⟨cause, t, rfl, cut⟩ | ⟨rfl, good⟩
  · exact .inl ⟨cause, _, rfl, cut⟩
  · cases r' with
    | ok a t => exact ok
    | error cause t => exact fault (good cause t rfl)

end Follows

@[reducible]
def coupling (tol : Tolerance) : StateCoupling where
  Alike := tol.good
  Ends := tol.Follows
  pure := .ok
  fault := .fault
  bind := .bind
  reframe := .reframe

end Tolerance

def Task.Follows (tol : Tolerance) (below below' : Descent) (names names' : Namespace) (s : State)
    (task : Task) : Prop :=
  task.Couples tol.coupling.coupling below below' names names' () s s

/-- Two runs of a program whose tasks fit at each number of levels.  Fitting goes over to the parts
of a task, makes the task look up the same in both runs, and allows that no level is left. -/
structure Lockstep (tol : Tolerance) (host : Host) (limit limit' : Int) (extra : Nat)
    (Fit : Nat → Namespace → Namespace → Task → State → Prop) : Prop where
  enters : ∀ {levels names names' task s part t}, Fit (levels + 1) names names' task s →
    Enters host names task s part t →
    Fit levels (task.inner host names) (task.inner host names') part t
  lookups : ∀ {levels names names' task s}, Fit (levels + 1) names names' task s →
    task.SameLookups host host names names' s.frames
  bottom : ∀ {names names' task s}, Fit 0 names names' task s →
    task.Follows tol (descent host limit 0) (descent host limit' extra) names names' s

theorem Lockstep.follows {tol : Tolerance} {host : Host} {limit limit' : Int} {extra : Nat}
    {Fit : Nat → Namespace → Namespace → Task → State → Prop}
    (lockstep : Lockstep tol host limit limit' extra Fit) {levels : Nat}
    {names names' : Namespace} {task : Task} {s : State} (fit : Fit levels names names' task s) :
    task.Follows tol (descent host limit levels) (descent host limit' (levels + extra)) names names'
      s := by
  induction levels generalizing names names' task s with
  | zero =>
    rw [Nat.zero_add]
    exact lockstep.bottom fit
  | succ levels ih =>
    rw [Nat.succ_add]
    exact StateCoupling.couples (fun entered => ih (lockstep.enters fit entered))
      (fun raised => tol.plain raised.plain) (lockstep.lookups fit)

end Cascade.Lowering
