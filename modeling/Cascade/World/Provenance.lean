import Cascade.Settings
import Cascade.World.Basic
import Cascade.World.StandardModules

set_option autoImplicit false

namespace Cascade

structure Host where
  world : World
  settings : Settings
deriving Inhabited

structure Scope where
  label : String
  /-- The name of a library's scope. -/
  library : Option String
  /-- Whether this is the top-level scope of user code. -/
  isGlobal : Bool
deriving DecidableEq, Inhabited

/-- More enclosing functions than this are refused, and a longer way through a chain is not gone. -/
def maxScopeChain : Nat := 256

def matchesModule (name : String) (modules : List String) : Bool :=
  modules.any fun m => name == m || (m ++ ".").toList.isPrefixOf name.toList

def topModule (name : String) : String :=
  String.ofList (name.toList.takeWhile (· != '.'))

def enclosingLabels (qualname : String) : List String :=
  (Text.splitOnWord ".<locals>." qualname).dropLast

namespace Scope

def isModule (s : Scope) : Bool :=
  s.isGlobal || s.library.isSome

/-- What the first module scope on a bounded way outwards says. -/
def isUserCode (chain : List Scope) : Bool :=
  match (chain.take (maxScopeChain + 1)).find? isModule with
  | none => false
  | some s => s.isGlobal

end Scope

namespace Host

/-- Whether a module belongs to a library.  The settings decide first, then the standard library,
then the place the module was loaded from. -/
def isLibraryModule (h : Host) (name : String) : Bool :=
  if name = "__main__" then false
  else if matchesModule name h.settings.userModules then false
  else if matchesModule name h.settings.libraryModules then true
  else if interpreterModules.contains name || standardModules.contains (topModule name) then true
  else
    match h.world.modules.get? name with
    | none => false
    | some m => m.origin.isLibrary

def moduleScope (h : Host) (name : String) : Scope :=
  if h.isLibraryModule name then ⟨name, some name, false⟩ else ⟨name, none, true⟩

def functionScopes? (h : Host) (f : Function) : Except Fault (List Scope) :=
  match f.moduleName with
  | none | some "" => .error (.noModule f.qualname)
  | some name =>
    let enclosing := enclosingLabels f.qualname
    if maxScopeChain < enclosing.length then .error (.scopesTooDeep f.qualname)
    else
      .ok ((f.qualname :: enclosing.reverse).map (fun label => ⟨label, none, false⟩) ++
        [h.moduleScope name])

def scopes? (h : Host) : Value → Except Fault (List Scope)
  | .function id | .marked id _ => h.functionScopes? (h.world.function id)
  | _ => .ok []

def isUserDefined (h : Host) (v : Value) : Bool :=
  match h.scopes? v with
  | .ok chain => Scope.isUserCode chain
  | .error _ => false

end Host

end Cascade
