import Cascade.Proofs.Lowering.Depth
import Cascade.Proofs.Lowering.Parallel
import Cascade.Proofs.World.Replacement

set_option autoImplicit false

namespace Cascade

open Source Lowering

namespace Host

def withSource (h : Host) (id : FunctionId) (source : FunctionSource) : Host :=
  { h with
    world := { h.world with
      functions := h.world.functions.set id { h.world.function id with source := source } } }

section WithSource

variable (h : Host) (id : FunctionId) (source : FunctionSource)

theorem withSource_eq_withFunction :
    h.withSource id source = h.withFunction id { h.world.function id with source := source } := rfl

theorem samePlace_source :
    (h.world.function id).SamePlace { h.world.function id with source := source } :=
  ⟨rfl, rfl, rfl, rfl⟩

theorem function_withSource (other : FunctionId) :
    (h.withSource id source).world.function other =
      if other = id then { h.world.function id with source := source }
      else h.world.function other :=
  h.function_withFunction id _ other

theorem namespaceOf_withSource (other : FunctionId) :
    (h.withSource id source).world.namespaceOf ((h.withSource id source).world.function other) =
      h.world.namespaceOf (h.world.function other) := by
  rw [withSource_eq_withFunction]
  exact (samePlace_withFunction (h.samePlace_source id source) other).namespaceOf h.world

theorem calledBy?_withSource (fs : Frames) (names : Namespace) (callee : Expr) :
    calledBy? (h.withSource id source) fs names callee = calledBy? h fs names callee :=
  calledBy?_of_name (h.samePlace_source id source) rfl fs names callee

theorem entry?_withSource (value : Value) (name : Option String) (maxDepth : Option Int) :
    Host.entry? (h.withSource id source) value name maxDepth = h.entry? value name maxDepth :=
  entry?_of_name (h.samePlace_source id source) rfl rfl value name maxDepth

end WithSource

section Edited

variable {h : Host} {id : FunctionId} {source : FunctionSource} {name : Option String}
  {params : List (Parameter Expr)} {body body' : List Stmt} {decorators : List Expr}
  {dead : List String}

end Edited

end Host

end Cascade
