import Cascade.Command.Directory
import Cascade.Command.Installed
import Cascade.Text.Quoted

set_option autoImplicit false

namespace Cascade.Command

open Source

inductive TargetFault where
  | malformed (target : String)
  | fileNotFound (path : String)
  | nameTooLong (path : String)
  | noAttribute (location attr : String)
  | noModule (name : String)
  | notPackage (name parent : String)
  | relativeImport (name : String)
deriving DecidableEq, Inhabited

namespace TargetFault

def message : TargetFault → String
  | malformed target =>
    "Target must look like 'path/to/file.py:function' or 'module:function', got " ++
      Text.quoted target
  | fileNotFound path => s!"File not found: {path}"
  | nameTooLong path => s!"[Errno 36] File name too long: {Text.quoted path}"
  | noAttribute location attr => s!"'{location}' has no attribute '{attr}'"
  | noModule name => s!"No module named {Text.quoted name}"
  | notPackage name parent =>
    s!"No module named {Text.quoted name}; {Text.quoted parent} is not a package"
  | relativeImport name =>
    "the 'package' argument is required to perform a relative import for " ++ Text.quoted name

def isUsage : TargetFault → Bool
  | malformed _ | fileNotFound _ | noAttribute .. => true
  | nameTooLong _ | noModule _ | notPackage .. | relativeImport _ => false

end TargetFault

inductive Found where
  | installed
  | source (source : ModuleSource)

def Found.directory? : Found → Option (List String)
  | .source ⟨.package, path, _⟩ => some path.dropLast
  | .source ⟨.bareDirectory, path, _⟩ => some path
  | _ => none

def worldWith (moduleName : String) (source : ModuleSource) : World :=
  let running := source.run moduleName
  { modules := installedWorld.modules.set moduleName ⟨.user, running.globals⟩
    functions := installedWorld.functions ++ running.functions }

/-- Look for a module in a directory: a package goes before a file, and a file before a plain
directory. -/
def Directory.search? (d : Directory) (path : List String) (component : String) : Option Found :=
  let inside := path ++ [component]
  let package := inside ++ ["__init__.py"]
  let file := path ++ [component ++ ".py"]
  match d.file? package, d.file? file with
  | some statements, _ => some (.source ⟨.package, package, statements⟩)
  | none, some statements => some (.source ⟨.file, file, statements⟩)
  | none, none =>
    if d.hasDirectory inside then some (.source ⟨.bareDirectory, inside, []⟩) else none

def Directory.findChild? (d : Directory) (parent : String) (found : Option Found)
    (component : String) : Except TargetFault Found :=
  let name := if found.isSome then parent ++ "." ++ component else component
  if installedWorld.modules.contains name then .ok .installed
  else
    let directory? := match found with
      | none => some []
      | some f => f.directory?
    let isPackage := directory?.isSome || installedPackages.contains parent
    match directory?.bind (d.search? · component) with
    | some result => .ok result
    | none => .error (if isPackage then .noModule name else .notPackage name parent)

def Directory.findModule? (d : Directory) :
    String → Option Found → List String → Except TargetFault (Option Found)
  | _, found, [] => .ok found
  | parent, found, component :: rest => do
    let next ← d.findChild? parent found component
    let name := if found.isSome then parent ++ "." ++ component else component
    d.findModule? name (some next) rest

def Directory.import? (d : Directory) (name : String) : Except TargetFault World := do
  if name.startsWith "." then .error (.relativeImport name)
  else
    let components := (Text.splitWhere (· == '.') name.toList).map String.ofList
    match ← d.findModule? "" none components with
    | some (.source source) => return worldWith name source
    | some .installed | none => return installedWorld

def Directory.open? (d : Directory) (location : String) : Except TargetFault (World × String) :=
  let path := Path.ofText location
  if path.suffix = ".py" then
    match d.fileAt path with
    | .tooLong => .error (.nameTooLong path.text)
    | .missing => .error (.fileNotFound path.text)
    | .found parts statements =>
      .ok (worldWith path.stem ⟨.file, parts, statements⟩, path.stem)
  else
    match d.import? location with
    | .error fault => .error fault
    | .ok world => .ok (world, location)

def attributeOf? (w : World) (moduleName attr : String) : Option Value :=
  (fixedNames.get? attr).or ((w.member? moduleName attr).or (inheritedNames.get? attr))

/-- Load a target: the part behind the last colon is looked up in what the part before it opens. -/
def Directory.load? (d : Directory) (target : String) : Except TargetFault (World × Value) :=
  match Text.splitLast? ':' target.toList with
  | none => .error (.malformed target)
  | some (before, behind) =>
    let location := String.ofList before
    let attr := String.ofList behind
    if location = "" || attr = "" then .error (.malformed target)
    else
      match d.open? location with
      | .error fault => .error fault
      | .ok (world, moduleName) =>
        match attributeOf? world moduleName attr with
        | none => .error (.noAttribute location attr)
        | some value => .ok (world, value)

end Cascade.Command
