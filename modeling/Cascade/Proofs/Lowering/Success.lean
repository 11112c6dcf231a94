import Cascade.Lowering.Descent
import Mathlib.Tactic.Simps.Basic

set_option autoImplicit false

namespace Cascade.Lowering

open Source

namespace State

@[simps]
def withFrames (s : State) (fs : Frames) : State := { s with frames := fs }

@[simps]
def recorded (s : State) (event : Event) : State := { s with trace := event :: s.trace }

@[simps]
def registered (s : State) (entry : Entry) : State := { s with entries := entry :: s.entries }

@[simps]
def marked (s : State) (id : FunctionId) (requested : String) : State :=
  { s with aliases := (s.aliases.mark id requested).2 }

@[simps]
def lambdaNamed (s : State) : State := { s with lambdas := s.lambdas + 1 }

end State

variable {α β : Type} {s t u : State}

@[simp] theorem bind_eq_ok {x : Lower α} {f : α → Lower β} {b : β} :
    (x >>= f) s = .ok b u ↔ ∃ a t, x s = .ok a t ∧ f a t = .ok b u := by
  change EStateM.bind x f s = .ok b u ↔ _
  unfold EStateM.bind
  cases x s with
  | ok a t =>
    constructor
    · intro h
      exact ⟨a, t, rfl, h⟩
    · rintro ⟨a', t', h, hf⟩
      cases h
      exact hf
  | error fault t => simp

@[simp] theorem pure_eq_ok {a b : α} : (pure a : Lower α) s = .ok b t ↔ a = b ∧ s = t := by
  change EStateM.Result.ok a s = .ok b t ↔ _
  simp

@[simp] theorem throw_ne_ok {fault : Fault} {b : α} : (throw fault : Lower α) s ≠ .ok b t := by
  intro h
  cases h

@[simp] theorem ofExcept_eq_ok {x : Except Fault α} {b : α} :
    ofExcept x s = .ok b t ↔ x = .ok b ∧ s = t := by
  cases x <;> simp [ofExcept]

@[simp] theorem refuse_ne_ok {construct : Unsupported} {b : α} :
    (refuse construct : Lower α) s ≠ .ok b t :=
  throw_ne_ok

theorem quotingFault_cases (quoted : List Expr) (fault : Fault) :
    quotingFault quoted fault = fault ∨ ∃ cause, quotingFault quoted fault = .unwritable cause := by
  unfold quotingFault
  cases quoted.findSome? Expr.textFault? with
  | none => exact .inl rfl
  | some cause => exact .inr ⟨cause, rfl⟩

@[simp] theorem throwQuoting_ne_ok {quoted : List Expr} {fault : Fault} {b : α} :
    (throwQuoting quoted fault : Lower α) s ≠ .ok b t :=
  throw_ne_ok

@[simp] theorem get_eq_ok {v : State} : (get : Lower State) s = .ok v t ↔ s = v ∧ s = t := by
  change EStateM.Result.ok s s = .ok v t ↔ _
  simp

@[simp] theorem frames_eq_ok {fs : Frames} : frames s = .ok fs t ↔ s.frames = fs ∧ s = t := by
  change EStateM.Result.ok s.frames s = .ok fs t ↔ _
  simp

@[simp] theorem record_eq_ok {event : Event} {b : Unit} :
    record event s = .ok b t ↔ s.recorded event = t := by
  change EStateM.Result.ok () (s.recorded event) = .ok b t ↔ _
  simp

@[simp] theorem register_eq_ok {entry : Entry} {b : Unit} :
    register entry s = .ok b t ↔ s.registered entry = t := by
  change EStateM.Result.ok () (s.registered entry) = .ok b t ↔ _
  simp

@[simp] theorem markFunction_eq_ok {id : FunctionId} {requested name : String} :
    markFunction id requested s = .ok name t ↔
      (s.aliases.mark id requested).1 = name ∧ s.marked id requested = t := by
  change EStateM.Result.ok (s.aliases.mark id requested).1 (s.marked id requested) = .ok name t ↔ _
  simp

@[simp] theorem nameLambda_eq_ok {name : String} :
    nameLambda s = .ok name t ↔ lambdaAlias (s.lambdas + 1) = name ∧ s.lambdaNamed = t := by
  change EStateM.Result.ok (lambdaAlias (s.lambdas + 1)) s.lambdaNamed = .ok name t ↔ _
  simp

@[simp] theorem bindVariable_eq_ok {name : String} {b : Unit} :
    bindVariable name s = .ok b t ↔ s.withFrames (s.frames.bind name) = t := by
  change EStateM.Result.ok () (s.withFrames (s.frames.bind name)) = .ok b t ↔ _
  simp

@[simp] theorem bindClosure_eq_ok {name : String} {routine : Routine} {b : Unit} :
    bindClosure name routine s = .ok b t ↔
      (s.withFrames (s.frames.bindClosure name routine)).recorded (.closureBound name) = t := by
  change EStateM.Result.ok ()
    ((s.withFrames (s.frames.bindClosure name routine)).recorded (.closureBound name)) = .ok b t ↔ _
  simp

theorem inFrames_eq_ok {enter : Frames → Frames} {leave : Frames → Frames → Frames}
    {act : Lower α} {b : α} :
    inFrames enter leave act s = .ok b u ↔
      ∃ t, act (s.withFrames (enter s.frames)) = .ok b t ∧
        t.withFrames (leave s.frames t.frames) = u := by
  unfold inFrames State.withFrames
  cases act { s with frames := enter s.frames } with
  | ok a t =>
    simp only [EStateM.Result.ok.injEq]
    constructor
    · rintro ⟨rfl, rfl⟩
      exact ⟨t, ⟨rfl, rfl⟩, rfl⟩
    · rintro ⟨v, ⟨rfl, rfl⟩, rfl⟩
      exact ⟨rfl, rfl⟩
  | error fault t => simp

@[simp] theorem inFreshFrame_eq_ok {frame : Frame} {act : Lower α} {b : α} :
    inFreshFrame frame act s = .ok b u ↔
      ∃ t, act (s.withFrames [frame]) = .ok b t ∧ t.withFrames s.frames = u :=
  inFrames_eq_ok

@[simp] theorem inChildFrame_eq_ok {place : Nat} {frame : Frame} {act : Lower α} {b : α} :
    inChildFrame place frame act s = .ok b u ↔
      ∃ t, act (s.withFrames (frame :: s.frames.drop place)) = .ok b t ∧
        t.withFrames (s.frames.take place ++ t.frames.tail) = u :=
  inFrames_eq_ok

@[simp] theorem lowerOnce_eq_ok {place : Nat} {name : String} {act : Lower α} {b : α} :
    lowerOnce place name act s = .ok b u ↔
      ∃ t, act (s.withFrames (s.frames.setStatus place name .active)) = .ok b t ∧
        t.withFrames (t.frames.setStatus place name .lowered) = u := by
  unfold lowerOnce State.withFrames
  cases act { s with frames := s.frames.setStatus place name .active } with
  | ok a t =>
    simp only [EStateM.Result.ok.injEq]
    constructor
    · rintro ⟨rfl, rfl⟩
      exact ⟨t, ⟨rfl, rfl⟩, rfl⟩
    · rintro ⟨v, ⟨rfl, rfl⟩, rfl⟩
      exact ⟨rfl, rfl⟩
  | error fault t => simp

end Cascade.Lowering
