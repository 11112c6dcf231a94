import Cascade.Command.Run

set_option autoImplicit false

/-! The executable.  Source files reach the command line as trees, and no reader of source text is
part of it, so that it sees the installed modules alone. -/
namespace Cascade.Command

def settingVariables : List String :=
  [Settings.maxDepthVariable, Settings.userModulesVariable, Settings.libraryModulesVariable,
    Settings.logLevelVariable]

def readSettings : IO Settings := do
  let found ← settingVariables.mapM fun name => do
    return (name, ← IO.getEnv name)
  return ⟨found.filterMap fun (name, value) => value.map (name, ·)⟩

end Cascade.Command

open Cascade.Command in
def main (args : List String) : IO UInt32 := do
  let outcome := run (← readSettings) ⟨[]⟩ args
  IO.print outcome.stdout
  IO.eprint outcome.stderr
  if let some fault := outcome.fault then
    IO.eprintln fault.message
  return UInt32.ofNat outcome.exitCode
