import Cascade.Fault

set_option autoImplicit false

namespace Cascade

structure Depth where
  limit : Int
  current : Nat
deriving DecidableEq, Inhabited

namespace Depth

def start (limit : Int) : Depth :=
  ⟨limit, 0⟩

def remaining (d : Depth) : Nat :=
  (d.limit - d.current).toNat

def enter? (d : Depth) : Except Fault Depth :=
  if d.limit ≤ d.current then .error (.depthExceeded d.limit)
  else .ok { d with current := d.current + 1 }

def leave (d : Depth) : Depth :=
  { d with current := d.current - 1 }

end Depth

end Cascade
