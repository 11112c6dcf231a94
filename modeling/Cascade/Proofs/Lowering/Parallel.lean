import Cascade.Proofs.Lowering.Twin

set_option autoImplicit false

namespace Cascade.Lowering

open Source

section Edits

variable {chain chain' : FrameChain}

end Edits

section Steps

variable {host host' : Host} {below below' : Descent} {names : Namespace} {chain : FrameChain}
  {s s' : State}

end Steps

end Cascade.Lowering
