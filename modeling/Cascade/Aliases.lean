import Cascade.Table

set_option autoImplicit false

namespace Cascade

abbrev FunctionId := String

abbrev Aliases := Table String

namespace Aliases

def numbered (base : String) (n : Nat) : String :=
  base ++ "_" ++ toString n

/-- The least number from two on that makes an alias free.  Among one more numbers than there are
taken aliases one is free. -/
def freeNumber (taken : List String) (base : String) : Nat :=
  ((List.range' 2 (taken.length + 1)).find? fun n => !taken.contains (numbered base n)).getD 2

def allot (taken : List String) (requested : String) : String :=
  if taken.contains requested then numbered requested (freeNumber taken requested) else requested

def mark (t : Aliases) (id : FunctionId) (requested : String) : String × Aliases :=
  let name := allot (t.map (·.2)) requested
  (name, t.set id name)

end Aliases

end Cascade
