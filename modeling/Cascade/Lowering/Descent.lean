import Cascade.Depth
import Cascade.Lowering.Expr
import Cascade.Lowering.Statement

set_option autoImplicit false

/-! The lowering of functions, by recursion on the number of levels that may still be entered.
Expressions, statements, called functions and the bodies of closures are a level each. -/
namespace Cascade.Lowering

open Source

/-- Lower a function of user code.  It is recorded before its body is lowered, so that a recursive
call refers to it. -/
def function (host : Host) (below : Descent) (id : FunctionId) (requested : String) :
    Lower Definition := do
  let name ← markFunction id requested
  register (.function id name)
  let f := host.world.function id
  record (.lowering name f.qualname)
  let located ← ofExcept f.locate?
  let formals ← ofExcept (located.routine.formals? name)
  let frame := Frame.ofNames (located.routine.localNames formals)
  let body ← inFreshFrame frame
    (block below (host.world.namespaceOf f) located.routine.statements)
  return ⟨name, Formals.ofNames formals, body⟩

/-- What can be lowered with a number of levels left, under a limit that is reported when none
is. -/
def descent (host : Host) (limit : Int) : Nat → Descent
  | 0 =>
    { expr := fun _ _ => throw (.depthExceeded limit)
      statement := fun _ _ => throw (.depthExceeded limit)
      body := fun _ _ => throw (.depthExceeded limit)
      function := fun _ _ => throw (.depthExceeded limit) }
  | levels + 1 =>
    { expr := fun names e => expr host (descent host limit levels) names e
      statement := fun names s => statement (descent host limit levels) names s
      body := fun names ss => block (descent host limit levels) names ss
      function := fun id requested => function host (descent host limit levels) id requested }

def fromLimit (host : Host) (limit : Int) : Descent :=
  descent host limit (Depth.start limit).remaining

end Cascade.Lowering
