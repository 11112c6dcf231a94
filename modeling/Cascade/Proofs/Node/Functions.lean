import Cascade.Proofs.Node.Reading

set_option autoImplicit false

namespace Cascade

namespace Node

mutual

def functions : Node → List Definition
  | literal _ | symbol _ | range .. => []
  | operation _ _ operands => functionsList operands
  | function name formals body => ⟨name, formals, body⟩ :: functionsList body
  | call _ operands definition => functionsList operands ++ functionsOption definition
  | assign _ value => functions value
  | branch condition body orelse =>
    functions condition ++ (functionsList body ++ functionsElse orelse)
  | otherwise body => functionsList body
  | loop _ iterator body => functions iterator ++ functionsList body
  | ret value => functionsOption value
  | sequence values => functionsList values

def functionsList : List Node → List Definition
  | [] => []
  | n :: ns => functions n ++ functionsList ns

def functionsOption : Option Node → List Definition
  | none => []
  | some n => functions n

def functionsElse : Option (List Node) → List Definition
  | none => []
  | some ns => functionsList ns

end

attribute [simp] functions functionsList functionsOption functionsElse

mutual

theorem functions_name (n : Node) : n.functions.map (·.name) = n.definitions := by
  unfold definitions
  cases n with
  | literal | symbol | range => rfl
  | operation op fixity operands => exact functionsList_name operands
  | function name formals body => exact congrArg (name :: ·) (functionsList_name body)
  | call callee operands definition =>
    cases definition with
    | none => simp [marks, callMarks, functionsList_name operands]
    | some n => simp [marks, callMarks, functionsList_name operands, functions_name n, definitions]
  | assign name value => exact functions_name value
  | branch condition body orelse =>
    cases orelse with
    | none =>
      simp [marks, elseMarks, functions_name condition, functionsList_name body, definitions]
    | some no =>
      simp [marks, elseMarks, functions_name condition, functionsList_name body,
        functionsList_name no, definitions]
  | otherwise body => exact functionsList_name body
  | loop name iterator body =>
    simp [marks, functions_name iterator, functionsList_name body, definitions]
  | ret value =>
    cases value with
    | none => rfl
    | some value => exact functions_name value
  | sequence values => exact functionsList_name values

theorem functionsList_name (ns : List Node) :
    (functionsList ns).map (·.name) = definedNames (marksList ns) := by
  cases ns with
  | nil => rfl
  | cons n ns => simp [marksList, functions_name n, functionsList_name ns, definitions]

end

end Node

end Cascade
