import Cascade.Frame.Basic
import Cascade.Node.Basic
import Cascade.Source.Text
import Cascade.World.Provenance

set_option autoImplicit false

/-! The state of a lowering.  An action gives a result or a fault, and in both cases the state it
leaves: names bound, functions recorded and lambda numbers used before a fault stay. -/
namespace Cascade.Lowering

open Source

inductive Event where
  | lowering (name qualname : String)
  | reference (name : String)
  | droppedLambda (text : String)
  | closureBound (name : String)
deriving DecidableEq, Inhabited

/-- A definition whose lowering has begun, with the alias it has: a function of user code, a nested
closure, or a lambda expression called where it stands. -/
inductive Entry where
  | function (id : FunctionId) (name : String)
  | closure (name : String)
  | lambda (name : String)
deriving DecidableEq, Inhabited

namespace Entry

def name : Entry → String
  | function _ name | closure name | lambda name => name

end Entry

structure State where
  frames : Frames
  aliases : Aliases
  lambdas : Nat
  /-- The events so far, the latest first. -/
  trace : List Event
  /-- The definitions begun so far, the latest first. -/
  entries : List Entry
deriving Inhabited

abbrev Lower := EStateM Fault State

namespace State

def start (frames : Frames) : State :=
  ⟨frames, [], 0, [], []⟩

end State

def ofExcept {α : Type} : Except Fault α → Lower α
  | .ok a => pure a
  | .error fault => throw fault

def refuse {α : Type} (construct : Unsupported) : Lower α :=
  throw (.unsupported construct)

/-- A fault whose message quotes expressions, if they can be written. -/
def quotingFault (quoted : List Expr) (fault : Fault) : Fault :=
  ((quoted.findSome? Expr.textFault?).map Fault.unwritable).getD fault

def throwQuoting {α : Type} (quoted : List Expr) (fault : Fault) : Lower α :=
  throw (quotingFault quoted fault)

def frames : Lower Frames := do
  return (← get).frames

def record (event : Event) : Lower Unit :=
  modify fun s => { s with trace := event :: s.trace }

def register (entry : Entry) : Lower Unit :=
  modify fun s => { s with entries := entry :: s.entries }

def markFunction (id : FunctionId) (requested : String) : Lower String :=
  modifyGet fun s =>
    let (name, aliases) := s.aliases.mark id requested
    (name, { s with aliases := aliases })

def lambdaAlias (n : Nat) : String :=
  "lambda_" ++ toString n

def nameLambda : Lower String :=
  modifyGet fun s => (lambdaAlias (s.lambdas + 1), { s with lambdas := s.lambdas + 1 })

def bindVariable (name : String) : Lower Unit :=
  modify fun s => { s with frames := s.frames.bind name }

def bindClosure (name : String) (routine : Routine) : Lower Unit := do
  modify fun s => { s with frames := s.frames.bindClosure name routine }
  record (.closureBound name)

/-- Run an action in other frames; `leave` puts the frames before and after it together. -/
def inFrames {α : Type} (enter : Frames → Frames) (leave : Frames → Frames → Frames)
    (act : Lower α) : Lower α := fun s =>
  match act { s with frames := enter s.frames } with
  | .ok a t => .ok a { t with frames := leave s.frames t.frames }
  | .error fault t => .error fault { t with frames := leave s.frames t.frames }

def inFreshFrame {α : Type} (frame : Frame) (act : Lower α) : Lower α :=
  inFrames (fun _ => [frame]) (fun before _ => before) act

/-- Run an action in a new frame inside the one at a place of the chain.  The frames from that
place on are shared with the action, and keep what it changes in them. -/
def inChildFrame {α : Type} (place : Nat) (frame : Frame) (act : Lower α) : Lower α :=
  inFrames (fun fs => frame :: fs.drop place) (fun before after => before.take place ++ after.tail)
    act

/-- Lower a closure: it is active meanwhile, and lowered afterwards unless the action fails. -/
def lowerOnce {α : Type} (place : Nat) (name : String) (act : Lower α) : Lower α := fun s =>
  match act { s with frames := s.frames.setStatus place name .active } with
  | .ok a t => .ok a { t with frames := t.frames.setStatus place name .lowered }
  | .error fault t => .error fault { t with frames := t.frames.setStatus place name .pending }

structure Descent where
  expr : Namespace → Expr → Lower Node
  statement : Namespace → Stmt → Lower (Option Node)
  body : Namespace → List Stmt → Lower (List Node)
  function : FunctionId → String → Lower Definition

end Cascade.Lowering
