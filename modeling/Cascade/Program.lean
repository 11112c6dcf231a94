import Cascade.Lowering.Descent
import Cascade.Node.Json

set_option autoImplicit false

namespace Cascade

inductive Failure where
  | fault (cause : Fault)
  | settings (cause : SettingsFault)
deriving DecidableEq, Inhabited

structure Marked where
  id : FunctionId
  name : String
deriving DecidableEq, Inhabited

/-- What is marked must be a function.  Without a value, what comes back is a function that waits
for one, and that has no programs to give. -/
inductive MarkFault where
  | notFunction
  | waiting (wanted : String)
deriving DecidableEq, Inhabited

inductive MarkedFailure where
  | mark (cause : MarkFault)
  | lowering (cause : Failure)
  | json (cause : JsonFault)
deriving DecidableEq, Inhabited

structure MarkedProgram where
  name : String
  text : String
  plain : String
deriving DecidableEq, Inhabited

inductive InspectFault where
  | lacks (owner attr : String)
  | fault (cause : Fault)
deriving DecidableEq, Inhabited

namespace Failure

def message : Failure → String
  | fault cause => cause.message
  | settings cause => cause.message

end Failure

namespace MarkFault

def message : MarkFault → String
  | notFunction => "udf expects a Python function"
  | waiting wanted => s!"'function' object has no attribute '{wanted}'"

end MarkFault

namespace InspectFault

def message : InspectFault → String
  | lacks owner attr => s!"{owner} has no attribute '{attr}'"
  | fault cause => cause.message

end InspectFault

structure EntryPoint where
  id : FunctionId
  name : String
  limit : Int
deriving DecidableEq, Inhabited

namespace Host

def function? (h : Host) (value : Value) (name : Option String) :
    Except Fault (FunctionId × Option String) :=
  match value with
  | .function id => .ok (id, name)
  | .marked id given => .ok (id, some (nonEmptyOr name (h.world.markedName id given)))
  | _ => .error (.notFunction value.typeName)

/-- The entry point for a value: a function of user code with a name of its own or a given one. -/
def entry? (h : Host) (value : Value) (name : Option String) (maxDepth : Option Int) :
    Except Failure EntryPoint :=
  match h.function? value name with
  | .error cause => .error (.fault cause)
  | .ok (id, name) =>
    let f := h.world.function id
    let chosen := nonEmptyOr name f.name
    if !h.isUserDefined (.function id) then .error (.fault (.notUserDefined f.qualname))
    else if chosen = lambdaName then .error (.fault .unnamedLambda)
    else
      match maxDepth with
      | some limit => .ok ⟨id, chosen, limit⟩
      | none =>
        match h.settings.maxDepth? with
        | .ok limit => .ok ⟨id, chosen, limit⟩
        | .error cause => .error (.settings cause)

def run (h : Host) (e : EntryPoint) : EStateM.Result Fault Lowering.State Definition :=
  Lowering.function h (Lowering.fromLimit h e.limit) e.id e.name (Lowering.State.start [])

def lowerTraced (h : Host) (value : Value) (name : Option String) (maxDepth : Option Int) :
    Except Failure Definition × List Lowering.Event :=
  match h.entry? value name maxDepth with
  | .error cause => (.error cause, [])
  | .ok e =>
    match h.run e with
    | .ok definition s => (.ok definition, s.trace.reverse)
    | .error cause s => (.error (.fault cause), s.trace.reverse)

def lower (h : Host) (value : Value) (name : Option String) (maxDepth : Option Int) :
    Except Failure Definition :=
  (h.lowerTraced value name maxDepth).1

def mark? (h : Host) (value : Value) (name : Option String) : Except MarkFault Marked :=
  match value with
  | .function id => .ok ⟨id, h.world.markedName id name⟩
  | _ => .error .notFunction

def lowerMarked (h : Host) (m : Marked) (maxDepth : Option Int) : Except Failure Definition :=
  h.lower (.function m.id) (some m.name) maxDepth

def markedText? (h : Host) (m : Marked) (maxDepth indent : Option Int) :
    Except MarkedFailure String :=
  match h.lowerMarked m maxDepth with
  | .error cause => .error (.lowering cause)
  | .ok definition =>
    match definition.node.payload? indent with
    | .error cause => .error (.json cause)
    | .ok text => .ok text

/-- Mark a value and write its program.  Marking takes the value at once or, when a name is given
first, afterwards; a limit and an indent are not taken together. -/
def markedProgram? (h : Host) (value : Value) (given : Option (Option String))
    (maxDepth indent : Option Int) : Except MarkedFailure MarkedProgram :=
  match given, value with
  | none, .scalar .none =>
    .error (.mark (.waiting (if maxDepth.isSome then "transmogrify" else "to_json")))
  | _, _ =>
    match h.mark? value given.join with
    | .error cause => .error (.mark cause)
    | .ok m => do
      let text ← h.markedText? m maxDepth (if maxDepth.isSome then none else indent)
      let plain ← h.markedText? m none none
      return ⟨m.name, text, plain⟩

def names? (h : Host) (value : Value) : Except InspectFault Namespace :=
  match value with
  | .function id => .ok (h.world.namespaceOf (h.world.function id))
  | _ => .error (.lacks value.description "__globals__")

def sourceGap (value : Value) : String :=
  match value with
  | .builtin name =>
    if value.typeName = "type" then s!"<class '{Builtin.ownName name}'> is a built-in class"
    else
      "module, class, method, function, traceback, frame, or code object was expected, got " ++
        value.typeName
  | _ => "could not find class definition"

def source? (h : Host) (value : Value) : Except InspectFault Located :=
  match value with
  | .function id =>
    match (h.world.function id).locate? with
    | .ok located => .ok located
    | .error cause => .error (.fault cause)
  | _ =>
    match h.world.qualname? value with
    | some qualname => .error (.fault (.sourceMissing qualname (sourceGap value)))
    | none => .error (.lacks value.description "__qualname__")

end Host

end Cascade
