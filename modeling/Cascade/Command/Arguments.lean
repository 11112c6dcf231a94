import Cascade.Table
import Cascade.Text.WholeNumber

set_option autoImplicit false

namespace Cascade.Command

structure LowerOptions where
  target : String
  name : Option String
  indent : Option Int
  maxDepth : Option Int
  verbose : Bool
deriving DecidableEq, Inhabited

inductive Request where
  | lower (options : LowerOptions)
  | classify (token : String) (count : Option Int)
  | help
deriving DecidableEq, Inhabited

structure OptionTable where
  valued : List String
  flags : List String
  shortFlags : Table String

structure Parsed where
  places : List String
  values : Table String
  flags : List String
deriving Inhabited

namespace Parsed

def addPlace (p : Parsed) (arg : String) : Parsed := { p with places := p.places ++ [arg] }

def addValue (p : Parsed) (option value : String) : Parsed :=
  { p with values := p.values.set option value }

def addFlag (p : Parsed) (flag : String) : Parsed := { p with flags := flag :: p.flags }

end Parsed

def splitOption (arg : String) : String × Option String :=
  let cs := arg.toList
  match cs.dropWhile (· != '=') with
  | [] => (arg, none)
  | _ :: value => (String.ofList (cs.takeWhile (· != '=')), some (String.ofList value))

def shortFlags? (table : OptionTable) (letters : List Char) : Option (List String) :=
  letters.mapM fun c => table.shortFlags.get? (String.ofList ['-', c])

/-- Sort arguments.  Options may stand anywhere before a double dash, and an option takes the next
argument as its value whatever it is. -/
def sortArguments? (table : OptionTable) : Parsed → List String → Option Parsed
  | p, [] => some p
  | p, arg :: rest =>
    if arg = "--" then some { p with places := p.places ++ rest }
    else if !arg.startsWith "-" || arg = "-" then sortArguments? table (p.addPlace arg) rest
    else
      let (option, attached) := splitOption arg
      if table.valued.contains option then
        match attached with
        | some value => sortArguments? table (p.addValue option value) rest
        | none =>
          match rest with
          | [] => none
          | value :: more => sortArguments? table (p.addValue option value) more
      else if table.flags.contains option then
        if attached.isSome then none else sortArguments? table (p.addFlag option) rest
      else if arg.startsWith "--" then none
      else
        match shortFlags? table (arg.toList.drop 1) with
        | none => none
        | some flags => sortArguments? table (flags.foldl Parsed.addFlag p) rest

/-- The value of an option that must be an integer; the outer option tells whether it is. -/
def integerOption? (p : Parsed) (option : String) : Option (Option Int) :=
  match p.values.get? option with
  | none => some none
  | some raw => (Text.readWhole? raw).map some

def lowerTable : OptionTable :=
  ⟨["--name", "--indent", "--max-depth"], ["--verbose", "--help"], [("-v", "--verbose")]⟩

def classifyTable : OptionTable :=
  ⟨["--nargs"], ["--help"], []⟩

def lowerRequest? (p : Parsed) : Option Request := do
  if p.flags.contains "--help" then return .help
  let indent ← integerOption? p "--indent"
  let maxDepth ← integerOption? p "--max-depth"
  match p.places with
  | [target] =>
    return .lower ⟨target, p.values.get? "--name", indent, maxDepth, p.flags.contains "--verbose"⟩
  | _ => none

def classifyRequest? (p : Parsed) : Option Request := do
  if p.flags.contains "--help" then return .help
  let count ← integerOption? p "--nargs"
  match p.places with
  | [token] => return .classify token count
  | _ => none

def commandRequest? : List String → Option Request
  | "lower" :: args => (sortArguments? lowerTable default args).bind lowerRequest?
  | "classify" :: args => (sortArguments? classifyTable default args).bind classifyRequest?
  | _ => none

def request? : List String → Option Request
  | "--help" :: _ => some .help
  | "--" :: args => commandRequest? args
  | args => commandRequest? args

end Cascade.Command
