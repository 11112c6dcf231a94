import Cascade.Command.Arguments
import Cascade.Command.Target
import Cascade.Console.Markup
import Cascade.Program

set_option autoImplicit false

namespace Cascade.Command

open Lowering

inductive CommandFault where
  | settings (cause : SettingsFault)
  | target (cause : TargetFault)
  | json (cause : JsonFault)
  | markup (cause : Console.MarkupFault)
  | lowering (cause : Fault)
deriving DecidableEq, Inhabited

namespace CommandFault

def message : CommandFault → String
  | settings cause => cause.message
  | target cause => cause.message
  | json cause => cause.message
  | markup cause => cause.message
  | lowering cause => cause.message

end CommandFault

structure Outcome where
  exitCode : Nat
  stdout : String
  stderr : String
  fault : Option CommandFault
deriving DecidableEq, Inhabited

namespace Outcome

def success (stdout : String) (stderr : String) : Outcome := ⟨0, stdout, stderr, none⟩

def failure (stderr : String) : Outcome := ⟨1, "", stderr, none⟩

def aborted (fault : CommandFault) (stderr : String) : Outcome := ⟨1, "", stderr, some fault⟩

def usage : Outcome := ⟨2, "", "", none⟩

end Outcome

def logLine : Event → String
  | .lowering name qualname =>
    s!"DEBUG:transmog.function:Transmogrifying '{name}' ({qualname})\n"
  | .reference name =>
    s!"DEBUG:transmog.statements:Referencing already-lowered function '{name}'\n"
  | .droppedLambda text => s!"DEBUG:transmog.switchboard:Dropping unbound closure: {text}\n"
  | .closureBound name => s!"DEBUG:transmog.switchboard:Bound closure '{name}'\n"

def eventLevel : Nat := 10

/-- Fail with a report on the console.  Its text may spoil its markup. -/
def report (log heading text : String) : Outcome :=
  match Console.showMarkup s!"[red]❌ {heading}:[/red] {text}" with
  | .ok shown => Outcome.failure (log ++ shown ++ "\n")
  | .error cause => Outcome.aborted (.markup cause) log

def lowerAt (settings : Settings) (d : Directory) (options : LowerOptions) (level : Nat) :
    Outcome :=
  match d.load? options.target with
  | .error cause => if cause.isUsage then Outcome.usage else Outcome.aborted (.target cause) ""
  | .ok (world, value) =>
    let host : Host := ⟨world, settings⟩
    let (result, events) := host.lowerTraced value options.name options.maxDepth
    let log := if level ≤ eventLevel then String.join (events.map logLine) else ""
    match result with
    | .error (.fault cause) =>
      if cause.isReported then report log cause.heading cause.message
      else Outcome.aborted (.lowering cause) log
    | .error (.settings cause) => Outcome.aborted (.settings cause) log
    | .ok definition =>
      match definition.node.payload? options.indent with
      | .error cause => Outcome.aborted (.json cause) log
      | .ok text => Outcome.success (text ++ "\n") log

/-- Lower a target.  The log level is read first, unless every event is asked for. -/
def lower (settings : Settings) (d : Directory) (options : LowerOptions) : Outcome :=
  if options.verbose then lowerAt settings d options eventLevel
  else
    match settings.logLevel? with
    | .error cause => Outcome.aborted (.settings cause) ""
    | .ok level => lowerAt settings d options level

def classify (token : String) (count : Option Int) : Outcome :=
  match Operator.classify token count with
  | .unknown => report "" "Unknown operator" token
  | fixity => Outcome.success (fixity.text ++ "\n") ""

def run (settings : Settings) (d : Directory) (args : List String) : Outcome :=
  match request? args with
  | none => Outcome.usage
  | some .help => Outcome.success "" ""
  | some (.lower options) => lower settings d options
  | some (.classify token count) => classify token count

end Cascade.Command
