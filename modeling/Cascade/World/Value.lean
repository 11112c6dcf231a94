import Cascade.Aliases
import Cascade.Scalar

set_option autoImplicit false

namespace Cascade

inductive Value where
  | scalar (value : Scalar)
  | function (id : FunctionId)
  /-- A function marked for the engine, with the name it was given if any. -/
  | marked (id : FunctionId) (name : Option String)
  | list (items : List Value)
  | tuple (items : List Value)
  | moduleRef (name : String)
  | builtin (name : String)
  /-- Any other object, known by its type and by its qualified name if it has one. -/
  | other (typeName : String) (qualname : Option String)
deriving Inhabited

abbrev Namespace := Table Value

namespace Value

def primitive? : Value → Option Scalar
  | scalar value => if value.isPrimitive then some value else none
  | _ => none

def int? : Value → Option Int
  | scalar value => value.int?
  | _ => none

def isModule : Value → Bool
  | moduleRef _ => true
  | _ => false

def primitives? : Value → Option (List Scalar)
  | list items | tuple items => items.mapM primitive?
  | _ => none

end Value

end Cascade
