import Cascade.Command.ModuleNames
import Cascade.Command.Path

set_option autoImplicit false

namespace Cascade.Command

open Source

structure Directory where
  files : Table (List Stmt)
deriving Inhabited

def constantValue? : Expr → Option Value
  | .constant value => some (.scalar value)
  | .unary .minus (.constant value) => value.negate?.map .scalar
  | _ => none

def displayValue? : Expr → Option Value
  | .list elements => (elements.mapM constantValue?).map .list
  | .tuple elements => (elements.mapM constantValue?).map .tuple
  | e => constantValue? e

structure Running where
  moduleName : String
  globals : Namespace
  functions : Table Function

namespace Running

/-- The module that a new function says it is defined in: what the module calls itself. -/
def statedName (r : Running) : Option String :=
  match r.globals.get? "__name__" with
  | some (.scalar (.str name)) => some name
  | _ => none

def define (r : Running) (bound name : String) (params : List String) (s : Stmt) : Running :=
  let id := r.moduleName ++ "#" ++ toString r.functions.length
  let f : Function := ⟨r.moduleName, r.statedName, name, name, params, [], .body [s]⟩
  { r with globals := r.globals.set bound (.function id), functions := r.functions.set id f }

def bind (r : Running) (name : String) (value : Value) : Running :=
  { r with globals := r.globals.set name value }

def importModule (r : Running) (m : ImportedModule) : Running :=
  match m.boundAs with
  | some name => r.bind name (.moduleRef m.path)
  | none =>
    let top := String.ofList (m.path.toList.takeWhile (· != '.'))
    r.bind top (.moduleRef top)

def step (r : Running) (s : Stmt) : Running :=
  match s with
  | .refused (.importModules modules) _ _ => modules.foldl importModule r
  | .function name params _ _ _ => r.define name name (placedNames params) s
  | .asyncFunction name _ _ => r.define name name [] s
  | .assign [.name id _] (.lambda params _) => r.define id lambdaName (placedNames params) s
  | .assign [.name id _] value => r.bind id ((displayValue? value).getD (.other "object" none))
  | _ => r

end Running

structure ModuleSource where
  loading : Loading
  path : List String
  statements : List Stmt
deriving Inhabited

def ModuleSource.run (source : ModuleSource) (name : String) : Running :=
  source.statements.foldl Running.step
    ⟨name, source.loading.names name ("/".intercalate source.path), []⟩

/-- A place among directories.  What is outside the working directory is not known. -/
inductive Place where
  | inside (parts : List String)
  | outside
deriving DecidableEq, Inhabited

inductive Trail where
  | tooLong
  | nowhere
  | place (place : Place)
deriving DecidableEq, Inhabited

inductive FileLookup where
  | tooLong
  | missing
  | found (parts : List String) (statements : List Stmt)
deriving Inhabited

def maxNameBytes : Nat := 255

def maxPathBytes : Nat := 4096

namespace Directory

def file? (d : Directory) (parts : List String) : Option (List Stmt) :=
  (d.files.find? fun entry => (Path.ofText entry.1).parts = parts).map (·.2)

/-- Whether some file is inside a directory.  The working directory may be empty. -/
def hasDirectory (d : Directory) (parts : List String) : Bool :=
  parts.isEmpty || d.files.any fun entry =>
    let file := (Path.ofText entry.1).parts
    parts.length < file.length && parts.isPrefixOf file

def stepTo? (d : Directory) (place : Place) (part : String) : Option Place :=
  match place with
  | .outside => if part = ".." then some .outside else none
  | .inside parts =>
    if !d.hasDirectory parts then none
    else if part ≠ ".." then some (.inside (parts ++ [part]))
    else if parts.isEmpty then some .outside
    else some (.inside parts.dropLast)

def isOpen (d : Directory) : Place → Bool
  | .outside => true
  | .inside parts => d.hasDirectory parts

def follow (d : Directory) : Place → List String → Trail
  | place, [] => .place place
  | place, part :: rest =>
    if d.isOpen place && maxNameBytes < part.utf8ByteSize then .tooLong
    else
      match d.stepTo? place part with
      | none => .nowhere
      | some next => d.follow next rest

def fileAt (d : Directory) (path : Path) : FileLookup :=
  let start := if path.root = .here then Place.inside [] else Place.outside
  if maxPathBytes ≤ path.text.utf8ByteSize then .tooLong
  else
    match d.follow start path.parts with
    | .tooLong => .tooLong
    | .place (.inside parts) =>
      match d.file? parts with
      | some statements => .found parts statements
      | none => .missing
    | _ => .missing

end Directory

end Cascade.Command
