import Cascade.Source.Routine
import Cascade.Table

set_option autoImplicit false

namespace Cascade

open Source

inductive ClosureStatus where
  | pending | active | lowered
deriving DecidableEq, Inhabited

structure Closure where
  routine : Routine
  status : ClosureStatus
deriving Inhabited

structure Frame where
  names : List String
  closures : Table Closure
deriving Inhabited

namespace Frame

def ofNames (names : List String) : Frame :=
  ⟨names, []⟩

def bind (f : Frame) (name : String) : Frame :=
  ⟨f.names.insert name, f.closures.remove name⟩

def bindClosure (f : Frame) (name : String) (routine : Routine) : Frame :=
  ⟨f.names.filter (· ≠ name), f.closures.set name ⟨routine, .pending⟩⟩

def setStatus (f : Frame) (name : String) (status : ClosureStatus) : Frame :=
  match f.closures.get? name with
  | none => f
  | some closure => { f with closures := f.closures.set name { closure with status := status } }

def sortedNames (names : List String) : List String :=
  names.eraseDups.mergeSort fun a b => decide (a ≤ b)

def variableNames (f : Frame) : List String :=
  sortedNames f.names

def closureNames (f : Frame) : List String :=
  sortedNames f.closures.keys

end Frame

abbrev Frames := List Frame

namespace Frames

/-- Whether the innermost frame that binds the name binds it as a variable. -/
def isBound : Frames → String → Bool
  | [], _ => false
  | f :: fs, name =>
    if f.names.contains name then true
    else if f.closures.contains name then false
    else isBound fs name

/-- The place in the chain of the innermost frame that binds the name, if it binds it as a
closure. -/
def owner? : Frames → String → Option Nat
  | [], _ => none
  | f :: fs, name =>
    if f.closures.contains name then some 0
    else if f.names.contains name then none
    else (owner? fs name).map (· + 1)

def closure? (fs : Frames) (place : Nat) (name : String) : Option Closure :=
  fs[place]?.bind (·.closures.get? name)

def bind (fs : Frames) (name : String) : Frames :=
  fs.modifyHead (·.bind name)

def bindClosure (fs : Frames) (name : String) (routine : Routine) : Frames :=
  fs.modifyHead (·.bindClosure name routine)

def setStatus (fs : Frames) (place : Nat) (name : String) (status : ClosureStatus) : Frames :=
  fs.modify place (·.setStatus name status)

end Frames

end Cascade
