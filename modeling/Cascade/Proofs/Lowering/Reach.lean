import Cascade.Proofs.Lowering.Activation

set_option autoImplicit false

/-!
# The frames of the routines that are being lowered

`Reaches host e active names task s` says that the lowering of an entry point comes to a task, in
the state `s` and under the names `names`, while the bodies of the routines `active` are being
lowered, the innermost first.  Each of them has its frame.  The names that a frame binds are the
local names of its routine all the time; statements only move them between variables and closures.
-/
namespace Cascade.Lowering

open Source

namespace Task

def job : Task → Job
  | expr e => .expr e
  | statement st => .statement st
  | body ss => .block ss
  | function id requested => .function id requested

def isOwn : Task → Bool
  | body _ => false
  | _ => true

end Task

inductive Reaches (host : Host) (e : EntryPoint) :
    List Activation → Namespace → Task → State → Prop where
  | entry : Reaches host e [] [] (.function e.id e.name) (.start [])
  | within {active names task s part t} (before : Reaches host e active names task s)
      (entered : Enters host names task s part t) (own : part.isOwn = true)
      (begun : ∀ id requested, task ≠ .function id requested) :
      Reaches host e active names part t
  | lambda {active names params body args formals s}
      (before : Reaches host e active names (.expr (.call (.lambda params body) args [])) s)
      (plain : args.any Expr.isStarred = false)
      (accepted : (Routine.ofLambda params body).formals? (lambdaAlias (s.lambdas + 1)) =
        .ok formals) :
      Reaches host e (⟨.ofLambda params body, formals⟩ :: active) names
        (.body (Routine.ofLambda params body).statements)
        (s.lambdaNamed.opened (.lambda (lambdaAlias (s.lambdas + 1))) 0
          (frameOf (Routine.ofLambda params body) formals))
  | closure {active names id use args place routine formals s operands t}
      (before : Reaches host e active names (.expr (.call (.name id use) args [])) s)
      (plain : args.any Expr.isStarred = false)
      (owned : s.frames.owner? id = some place)
      (outer : Lowered host names (.exprs args) s operands t)
      (pending : t.frames.closure? place id = some ⟨routine, .pending⟩)
      (undecorated : routine.decorated = false)
      (accepted : routine.formals? id = .ok formals) :
      Reaches host e (⟨routine, formals⟩ :: active.drop place) names (.body routine.statements)
        ((t.withStatus place id .active).opened (.closure id) place (frameOf routine formals))
  | function {active names id requested located formals before st after s ns t}
      (called : Reaches host e active names (.function id requested) s)
      (found : (host.world.function id).locate? = .ok located)
      (accepted : located.routine.formals? (s.aliasFor id requested) = .ok formals)
      (split : located.routine.statements = before ++ st :: after)
      (earlier : Lowered host (host.world.namespaceOf (host.world.function id)) (.block before)
        (s.begun id requested (host.world.function id).qualname
          (frameOf located.routine formals)) ns t) :
      Reaches host e [⟨located.routine, formals⟩]
        (host.world.namespaceOf (host.world.function id)) (.statement st) t

section Reaches

variable {host : Host} {e : EntryPoint} {active : List Activation} {names : Namespace}
  {task part : Task} {s t : State}

/-- Wherever a task comes to, the lowering of the entry point comes to. -/
theorem Reaches.enters (h : Reaches host e active names task s)
    (entered : Enters host names task s part t) :
    ∃ active', Reaches host e active' (task.inner host names) part t := by
  cases entered with
  | lambda plain accepted => exact ⟨_, h.lambda plain accepted⟩
  | closure plain owned outer pending undecorated accepted =>
    exact ⟨_, h.closure plain owned outer pending undecorated accepted⟩
  | begun found accepted split earlier => exact ⟨_, h.function found accepted split earlier⟩
  | operand h' => exact ⟨_, h.within (.operand h') rfl nofun⟩
  | function plain unnamed unowned called outer unrecorded =>
    exact ⟨_, h.within (.function plain unnamed unowned called outer unrecorded) rfl nofun⟩
  | value h' => exact ⟨_, h.within (.value h') rfl nofun⟩
  | display shape split earlier => exact ⟨_, h.within (.display shape split earlier) rfl nofun⟩
  | nested h' => exact ⟨_, h.within (.nested h') rfl nofun⟩
  | body earlier => exact ⟨_, h.within (.body earlier) rfl nofun⟩

theorem Nested.mem_inner {st part : Stmt} (h : Nested host names st s part t) :
    part ∈ st.inner := by
  cases h with
  | body | loop => exact List.mem_append_left _ (List.mem_append_right _ List.mem_cons_self)
  | orelse => exact List.mem_append_right _ (List.mem_append_right _ List.mem_cons_self)

theorem Reaches.inside (h : Reaches host e active names task s) : task.job.Inside active := by
  induction h with
  | entry => trivial
  | within _ entered own begun ih =>
    cases entered with
    | operand | function | value | display => trivial
    | lambda | closure => cases own
    | nested nested =>
      obtain ⟨a, rest, rfl, runs⟩ := ih
      exact ⟨a, rest, rfl, runs.inner nested.mem_inner⟩
    | body earlier =>
      obtain ⟨a, rest, rfl, runs⟩ := ih
      exact ⟨a, rest, rfl, runs _ (List.mem_append_right _ List.mem_cons_self)⟩
    | begun => exact absurd rfl (begun _ _)
  | lambda | closure => exact ⟨_, _, rfl, fun st inside => .top inside⟩
  | function _ _ _ split =>
    refine ⟨_, _, rfl, .top ?_⟩
    rw [split]
    exact List.mem_append_right _ List.mem_cons_self

theorem Nested.tidy {st part : Stmt} (h : Nested host names st s part t)
    (inside : Job.Inside active (.statement st))
    (tidy : List.Forall₂ Activation.Tidy active s.frames) :
    List.Forall₂ Activation.Tidy active t.frames := by
  obtain ⟨a, rest, rfl, runs⟩ := inside
  cases h with
  | @body _ before _ after orelse _ _ _ _ _ condition earlier =>
    refine earlier.tidy ⟨a, rest, rfl, fun st' member => runs.inner ?_⟩
      (condition.tidy trivial tidy)
    exact List.mem_append_left orelse (List.mem_append_left (part :: after) member)
  | @orelse _ body before _ after _ _ _ _ _ _ _ condition positive earlier =>
    refine earlier.tidy ⟨a, rest, rfl, fun st' member => runs.inner ?_⟩
      (positive.tidy ⟨a, rest, rfl, fun st' member => runs.inner ?_⟩ (condition.tidy trivial tidy))
    · exact List.mem_append_right body (List.mem_append_left (part :: after) member)
    · exact List.mem_append_left (before ++ part :: after) member
  | @loop id _ _ before _ after _ _ u _ _ header earlier =>
    have bound : List.Forall₂ Activation.Tidy (a :: rest) (u.frames.bind id) := by
      refine tidy_of_heads (header.tidy trivial tidy) ?_ fun heads => heads.bind runs rfl
      rw [Frames.tail_bind]
      exact shape_order.frames_refl _
    refine earlier.tidy ⟨a, rest, rfl, fun st' member => runs.inner ?_⟩ bound
    exact List.mem_append_left [] (List.mem_append_left (part :: after) member)

theorem Reaches.tidy (h : Reaches host e active names task s) :
    List.Forall₂ Activation.Tidy active s.frames := by
  induction h with
  | entry => exact .nil
  | within before entered own begun ih =>
    cases entered with
    | operand operand => exact tidy_of_shape ih (operand.across shape_order)
    | function _ _ _ _ outer => exact outer.tidy trivial ih
    | value => exact ih
    | display _ _ earlier => exact earlier.tidy trivial ih
    | lambda | closure => cases own
    | nested nested => exact nested.tidy before.inside ih
    | body earlier =>
      obtain ⟨a, rest, rfl, runs⟩ := before.inside
      refine earlier.tidy ⟨a, rest, rfl, fun st member => runs st ?_⟩ ih
      exact List.mem_append_left _ member
    | begun => exact absurd rfl (begun _ _)
  | lambda _ _ _ ih => exact .cons (Activation.tidy_frameOf ⟨_, _⟩) ih
  | @closure _ _ id _ _ place _ _ _ _ t _ _ _ outer _ _ _ ih =>
    have active : List.Forall₂ _ t.frames (t.frames.setStatus place id .active) :=
      shape_order.frames_status place id .active nofun
    have shared := tidy_of_shape (outer.tidy trivial ih) active
    exact .cons (Activation.tidy_frameOf ⟨_, _⟩) (List.forall₂_drop place shared)
  | function _ _ _ split earlier _ =>
    refine earlier.tidy ⟨_, _, rfl, fun st member => .top ?_⟩
      (.cons (Activation.tidy_frameOf ⟨_, _⟩) .nil)
    rw [split]
    exact List.mem_append_left _ member

end Reaches

section Fits

variable {active : List Activation} {fs : Frames}

theorem fits_of_tidy (tidy : List.Forall₂ Activation.Tidy active fs)
    (stored : ∀ a ∈ active, a.routine.storesTargets = true) :
    List.Forall₂ Activation.Fits active fs := by
  induction tidy with
  | nil => exact .nil
  | cons head _ ih =>
    refine .cons (head (stored _ List.mem_cons_self)) (ih fun a inside => ?_)
    exact stored a (List.mem_cons_of_mem _ inside)

theorem apart_of_fits (fits : List.Forall₂ Activation.Fits active fs) : ∀ f ∈ fs, f.Apart := by
  induction fits with
  | nil => exact fun f inside => (nomatch inside)
  | cons head _ ih =>
    intro f inside
    rcases List.mem_cons.1 inside with rfl | inside
    · exact head.apart
    · exact ih f inside

theorem binds_of_fits (fits : List.Forall₂ Activation.Fits active fs) {a : Activation}
    {n : String} (member : a ∈ active) (isLocal : n ∈ a.locals) : fs.Binds n := by
  induction fits with
  | nil => cases member
  | cons head _ ih =>
    rcases List.mem_cons.1 member with rfl | member
    · exact ⟨_, List.mem_cons_self, (head.binds_iff n).2 isLocal⟩
    · exact (ih member).cons _

/-- A bound name stands for itself or for a closure, and a closure cannot be read. -/
theorem nameNode?_of_binds {names : Namespace} {id : String} {n : Node}
    (answers : fs.Answers id) (binds : fs.Binds id) (lowered : nameNode? fs names id = .ok n) :
    n = .symbol id := by
  unfold nameNode? at lowered
  split at lowered
  · cases lowered
  · rename_i unowned
    rw [if_pos ((answers.bound binds).resolve_right unowned)] at lowered
    cases lowered
    rfl

end Fits

/-- While the bodies of routines that store their targets are lowered, the frame of each binds its
local names, every one as a variable or as a closure and none as both, and so it does after the task
at hand.  The two look-ups of a name therefore agree on the innermost frame that binds it, and a
local name of one of the routines is never lowered to a constant of the namespace. -/
theorem frames_bind_local_names {host : Host} {e : EntryPoint} {active : List Activation}
    {names : Namespace} {task : Task} {s : State} (reached : Reaches host e active names task s)
    (stored : ∀ a ∈ active, a.routine.storesTargets = true) :
    List.Forall₂ Activation.Fits active s.frames ∧
      (∀ ns t, Lowered host names task.job s ns t →
        List.Forall₂ Activation.Fits active t.frames) ∧
      (∀ n, s.frames.Answers n) ∧
      ∀ a ∈ active, ∀ id ∈ a.locals, ∀ use below n t,
        expr host below names (.name id use) s = .ok n t → n = .symbol id := by
  have fits := fits_of_tidy reached.tidy stored
  have answers := Frames.answers_of_apart (apart_of_fits fits)
  refine ⟨fits, fun ns t lowered => ?_, answers, ?_⟩
  · exact fits_of_tidy (lowered.tidy reached.inside reached.tidy) stored
  · intro a member id isLocal use below n t lowered
    obtain ⟨_, u, got, named⟩ := bind_eq_ok.1 lowered
    obtain ⟨rfl, rfl⟩ := frames_eq_ok.1 got
    exact nameNode?_of_binds (answers id) (binds_of_fits fits member isLocal)
      (ofExcept_eq_ok.1 named).1

section Instances

/-- The function `f x` with the closure `g y = y + x`, where `x` and `y` are constants of the module
as well. -/
def sumBody : List Stmt :=
  [.function "g" [⟨.positional, "y", none, none⟩]
    [.ret (some (.binary .add (.name "y" .load) (.name "x" .load)))] [] none,
  .ret (some (.call (.name "g" .load) [.name "x" .load] []))]

def sumHost : Host :=
  .ofFunctions [("x", .scalar (.int 5)), ("y", .scalar (.int 7))] [("f", ["x"], sumBody)]

def sumActive : List Activation :=
  [⟨.ofFunction [⟨.positional, "y", none, none⟩]
    [.ret (some (.binary .add (.name "y" .load) (.name "x" .load)))] [], ["y"]⟩,
  ⟨.ofFunction [⟨.positional, "x", none, none⟩] sumBody [], ["x"]⟩]

def sumNames : Namespace :=
  sumHost.world.namespaceOf (sumHost.world.function "f")

theorem reaches_sum :
    ∃ s, Reaches sumHost ⟨"f", "f", 100⟩ sumActive sumNames (.expr (.name "x" .load)) s := by
  have result := (@Reaches.entry sumHost ⟨"f", "f", 100⟩).function rfl rfl rfl
    (.blockCons .nested .blockNil)
  have call := result.within (.value .ret) rfl nofun
  have body := call.closure rfl (show _ = some 0 by decide +kernel) (.cons (.name rfl) .nil) rfl rfl
    rfl
  have sum := (body.within (@Enters.body _ _ [] _ _ _ _ _ .blockNil) rfl nofun).within
    (.value .ret) rfl nofun
  exact ⟨_, sum.within (.operand (.right rfl (.name rfl))) rfl nofun⟩

/-- In the closure, `x` is the argument of the function around it and not the constant. -/
theorem sum_binds_local_names :
    ∃ s, Reaches sumHost ⟨"f", "f", 100⟩ sumActive sumNames (.expr (.name "x" .load)) s ∧
      sumNames.get? "x" = some (.scalar (.int 5)) ∧
      List.Forall₂ Activation.Fits sumActive s.frames ∧ (∀ n, s.frames.Answers n) ∧
      ∀ below n t, expr sumHost below sumNames (.name "x" .load) s = .ok n t →
        n = .symbol "x" := by
  obtain ⟨s, reached⟩ := reaches_sum
  have stored : ∀ a ∈ sumActive, a.routine.storesTargets = true :=
    List.all_eq_true.1 rfl
  obtain ⟨fits, _, answers, symbols⟩ := frames_bind_local_names reached stored
  refine ⟨s, reached, by rfl, fits, answers, ?_⟩
  exact symbols _ (List.mem_cons_of_mem _ List.mem_cons_self) "x" (by decide) .load

end Instances

end Cascade.Lowering
