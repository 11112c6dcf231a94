import Cascade.Frame.Basic

set_option autoImplicit false

namespace Cascade

structure FrameTree where
  frames : List Frame
  parents : List (Option Nat)
deriving Inhabited

namespace FrameTree

def root : FrameTree :=
  ⟨[Frame.ofNames []], [none]⟩

def chain (t : FrameTree) (i : Nat) : List Nat :=
  match t.parents[i]? with
  | some (some parent) => if parent < i then i :: chain t parent else [i]
  | _ => [i]
termination_by i

def framesOf (t : FrameTree) (i : Nat) : Frames :=
  (t.chain i).filterMap (t.frames[·]?)

def child (t : FrameTree) (i : Nat) (names : List String) : Nat × FrameTree :=
  (t.frames.length, ⟨t.frames ++ [Frame.ofNames names], t.parents ++ [some i]⟩)

def bind (t : FrameTree) (i : Nat) (name : String) : FrameTree :=
  { t with frames := t.frames.modify i (·.bind name) }

def bindClosure (t : FrameTree) (i : Nat) (name : String) (routine : Source.Routine) : FrameTree :=
  { t with frames := t.frames.modify i (·.bindClosure name routine) }

def isBound (t : FrameTree) (i : Nat) (name : String) : Bool :=
  (t.framesOf i).isBound name

def owner? (t : FrameTree) (i : Nat) (name : String) : Option Nat :=
  ((t.framesOf i).owner? name).bind ((t.chain i)[·]?)

end FrameTree

end Cascade
