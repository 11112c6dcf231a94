import Cascade.Proofs.Lowering.Links
import Cascade.Proofs.Lowering.Lockstep
import Cascade.Proofs.Lowering.Need

set_option autoImplicit false

namespace Cascade

open Source

namespace Lowering

def Tolerance.total : Tolerance where
  cut _ := False
  good := Fault.Plain
  plain plain := plain

def Tolerance.guarded (limit : Int) : Tolerance where
  cut := (· = .depthExceeded limit)
  good := Fault.Plain
  plain plain := plain

/-- With as many levels as a task needs the guard is never met. -/
theorem lockstep_total (host : Host) (limit : Int) :
    Lockstep .total host limit limit 0 fun levels names names' task s =>
      names' = names ∧ task.Ready s ∧ task.need host s ≤ levels where
  enters := by
    rintro levels names _ task s part t ⟨rfl, ready, enough⟩ entered
    have less := Nat.lt_of_lt_of_le (entered.need_lt ready) enough
    exact ⟨rfl, entered.ready, Nat.le_of_lt_succ less⟩
  lookups := by
    rintro levels names _ task s ⟨rfl, _⟩
    exact .refl task
  bottom := by
    rintro names names' task s ⟨_, _, enough⟩
    exact absurd (task.need_pos host s) (Nat.not_lt.2 enough)

/-- Under a larger limit a run does the same until the smaller one cuts it off. -/
theorem lockstep_guarded (host : Host) (limit limit' : Int) (extra : Nat) :
    Lockstep (.guarded limit) host limit limit' extra fun _ names names' _ _ => names' = names where
  enters := by
    rintro levels names _ task s part t rfl entered
    rfl
  lookups := by
    rintro levels names _ task s rfl
    exact .refl task
  bottom := by
    rintro names names' task s rfl
    cases task with
    | _ => exact .inl ⟨_, s, rfl, rfl⟩

end Lowering

namespace Host

open Lowering

variable {h : Host} {value : Value} {name : Option String}

theorem run_follows {tol : Tolerance} {e : EntryPoint} {limit : Int} {extra : Nat}
    {Fit : Nat → Namespace → Namespace → Task → State → Prop}
    (lockstep : Lockstep tol h e.limit limit extra Fit)
    (levels : (Depth.start limit).remaining = (Depth.start e.limit).remaining + extra)
    (fit : Fit ((Depth.start e.limit).remaining + 1) [] [] (.function e.id e.name) (.start [])) :
    tol.Follows (h.run e) (h.run { e with limit := limit }) := by
  have follows := lockstep.follows fit
  rw [Nat.succ_add, ← levels] at follows
  exact follows

def outcome : EStateM.Result Fault State Definition → Except Failure Definition
  | .ok d _ => .ok d
  | .error cause _ => .error (.fault cause)

theorem outcome_eq_fault {r : EStateM.Result Fault State Definition} {cause : Fault} :
    outcome r = .error (.fault cause) ↔ ∃ s, r = .error cause s := by
  cases r <;> simp [outcome]

theorem lower_of_entry {maxDepth : Option Int} {e : EntryPoint}
    (entry : h.entry? value name maxDepth = .ok e) :
    h.lower value name maxDepth = outcome (h.run e) := by
  unfold lower lowerTraced
  cases run : h.run e <;> simp [entry, run, outcome]

theorem function?_plain {cause : Fault} (refused : h.function? value name = .error cause) :
    cause.Plain := by
  unfold function? at refused
  split at refused <;> cases refused
  exact nofun

/-- A value is refused for its own sake, or lowered under the limit that is given. -/
theorem entry?_cases (h : Host) (value : Value) (name : Option String) :
    (∃ cause, cause.Plain ∧ ∀ limit, h.entry? value name (some limit) = .error (.fault cause)) ∨
      ∃ id chosen, ∀ limit, h.entry? value name (some limit) = .ok ⟨id, chosen, limit⟩ := by
  unfold entry?
  cases found : h.function? value name with
  | error cause => exact .inl ⟨cause, function?_plain found, fun _ => rfl⟩
  | ok target =>
    obtain ⟨id, given⟩ := target
    dsimp only
    cases h.isUserDefined (.function id) with
    | false => exact .inl ⟨.notUserDefined _, nofun, fun _ => rfl⟩
    | true =>
      by_cases unnamed : nonEmptyOr given (h.world.function id).name = lambdaName
      · exact .inl ⟨.unnamedLambda, nofun, fun _ => if_pos unnamed⟩
      · exact .inr ⟨id, _, fun _ => if_neg unnamed⟩

theorem lower_cases (h : Host) (value : Value) (name : Option String) :
    (∃ cause, cause.Plain ∧ ∀ limit, h.lower value name (some limit) = .error (.fault cause)) ∨
      ∃ id chosen, ∀ limit,
        h.lower value name (some limit) = outcome (h.run ⟨id, chosen, limit⟩) := by
  rcases entry?_cases h value name with ⟨cause, plain, refused⟩ | ⟨id, chosen, entry⟩
  · refine .inl ⟨cause, plain, fun limit => ?_⟩
    unfold lower lowerTraced
    rw [refused limit]
  · exact .inr ⟨id, chosen, fun limit => lower_of_entry (entry limit)⟩

theorem remaining_start (limit : Int) : (Depth.start limit).remaining = limit.toNat := by
  simp [Depth.remaining, Depth.start]

/-- Recursion alone never exhausts the limit: the load of all functions is enough for each of them
and for every name. -/
theorem exists_sufficient_limit (h : Host) :
    ∃ bound : Int, ∀ limit, bound ≤ limit → ∀ value name reported,
      h.lower value name (some limit) ≠ .error (.fault (.depthExceeded reported)) := by
  refine ⟨h.world.load [], fun limit enough value name reported cut => ?_⟩
  rcases lower_cases h value name with ⟨cause, plain, refused⟩ | ⟨id, chosen, lowered⟩
  · rw [refused] at cut
    cases cut
    exact plain reported rfl
  · -- At the start no function is recorded and no closure is pending.
    have need : 1 + (h.world.load [] + 0) ≤ (Depth.start limit).remaining + 1 := by
      rw [remaining_start]
      omega
    have follows := run_follows (e := ⟨id, chosen, limit⟩) (lockstep_total h limit) rfl
      ⟨rfl, rfl, need⟩
    rcases follows with ⟨_, _, _, ⟨⟩⟩ | ⟨_, good⟩
    rw [lowered] at cut
    obtain ⟨s, run⟩ := outcome_eq_fault.1 cut
    exact good _ s run reported rfl

end Host

end Cascade
