import Cascade.Text.Split
import Cascade.World.Basic

set_option autoImplicit false

namespace Cascade.Command

inductive Loading where
  | file
  | package
  | bareDirectory
deriving DecidableEq, Inhabited

namespace Loading

/-- The package that a module belongs to; a directory is its own. -/
def packageName (loading : Loading) (name : String) : String :=
  match loading with
  | .file => ((Text.splitLast? '.' name.toList).map fun (before, _) => String.ofList before).getD ""
  | .package | .bareDirectory => name

def names (loading : Loading) (name path : String) : Namespace :=
  let text (s : String) : Value := .scalar (.str s)
  let common : Namespace :=
    [("__name__", text name), ("__doc__", .scalar .none),
      ("__package__", text (loading.packageName name)), ("__spec__", .other "ModuleSpec" none)]
  let ofFile : Namespace :=
    [("__loader__", .other "SourceFileLoader" none), ("__file__", text path),
      ("__cached__", text path), ("__builtins__", .other "dict" none)]
  match loading with
  | .file => common ++ ofFile
  | .package => common ++ ofFile ++ [("__path__", .list [text path])]
  | .bareDirectory =>
    common ++ [("__loader__", .other "NamespaceLoader" none), ("__file__", .scalar .none),
      ("__path__", .other "_NamespacePath" none)]

end Loading

def moduleOperations : List String :=
  ["__delattr__", "__getattribute__", "__init__", "__repr__", "__setattr__"]

def objectOperations : List String :=
  ["__eq__", "__ge__", "__gt__", "__hash__", "__le__", "__lt__", "__ne__", "__str__"]

def plainMethods : List String :=
  ["__dir__", "__format__", "__getstate__", "__reduce__", "__reduce_ex__", "__sizeof__"]

def kindMethods : List String :=
  ["__init_subclass__", "__new__", "__subclasshook__"]

def fixedNames : Namespace :=
  [("__dict__", .other "dict" none), ("__class__", .other "type" (some "module"))]

def inheritedNames : Namespace :=
  let each (names : List String) (typeName kind : String) : Namespace :=
    names.map fun name => (name, .other typeName (some (kind ++ name)))
  [("__annotations__", .other "dict" none)] ++
    each moduleOperations "method-wrapper" "module." ++
    each objectOperations "method-wrapper" "object." ++
    each plainMethods "builtin_function_or_method" "" ++
    each kindMethods "builtin_function_or_method" "module."

end Cascade.Command
