set_option autoImplicit false

namespace Cascade

abbrev Table (α : Type) := List (String × α)

namespace Table

variable {α : Type}

def get? (t : Table α) (key : String) : Option α :=
  t.lookup key

def contains (t : Table α) (key : String) : Bool :=
  (t.get? key).isSome

/-- A new key goes to the end, a known one keeps its place. -/
def set : Table α → String → α → Table α
  | [], key, value => [(key, value)]
  | (k, v) :: t, key, value => if k = key then (k, value) :: t else (k, v) :: set t key value

def remove (t : Table α) (key : String) : Table α :=
  t.filter fun entry => entry.1 ≠ key

def keys (t : Table α) : List String :=
  t.map (·.1)

end Table

end Cascade
