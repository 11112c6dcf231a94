import Cascade.Node.Basic

set_option autoImplicit false

namespace Cascade

inductive Draft where
  | literal (value : Scalar)
  | symbol (name : String)
  | operation (op : String) (fixity : Fixity) (operands : List Draft)
  | function (name : String) (formals : Formals) (body : List Draft)
  | call (callee : String) (operands : List Draft) (definition : Option Draft)
  | assign (symbol : String) (value : Draft)
  | branch (condition : Draft) (body : List Draft) (orelse : Option Draft)
  | otherwise (body : List Draft)
  | loop (counter : String) (iterator : Draft) (body : List Draft)
  | ret (value : Option Draft)
  | range (start stop step : Int)
  | sequence (values : List Draft)
  | foreign (typeName : String)
deriving Inhabited

inductive DraftFault where
  | unbuildable (fault : Fault)
  | foreign (typeName : String)
  | missingElse
deriving DecidableEq, Inhabited

namespace DraftFault

def message : DraftFault → String
  | unbuildable fault => fault.message
  | foreign typeName => s!"Cannot serialize {typeName}"
  | missingElse => "'else'"

end DraftFault

namespace Draft

mutual

/-- The first node, children before parents, that cannot be built. -/
def fault? : Draft → Option Fault
  | literal value =>
    match Node.literal? value with
    | .ok _ => none
    | .error fault => some fault
  | operation op fixity operands =>
    (faultList? operands).or
      (if fixity.admits operands.length then none else some (.arity op fixity operands.length))
  | function _ _ body => faultList? body
  | call _ operands definition => (faultList? operands).or (faultOption? definition)
  | assign _ value => fault? value
  | branch condition body orelse =>
    (fault? condition).or ((faultList? body).or (faultOption? orelse))
  | otherwise body => faultList? body
  | loop _ iterator body => (fault? iterator).or (faultList? body)
  | ret value => faultOption? value
  | sequence values => faultList? values
  | symbol _ | range .. | foreign _ => none

def faultList? : List Draft → Option Fault
  | [] => none
  | d :: ds => (fault? d).or (faultList? ds)

def faultOption? : Option Draft → Option Fault
  | none => none
  | some d => fault? d

end

mutual

def node? : Draft → Except DraftFault Node
  | literal value => .ok (.literal value)
  | symbol name => .ok (.symbol name)
  | operation op fixity operands => do return .operation op fixity (← nodeList? operands)
  | function name formals body => do return .function name formals (← nodeList? body)
  | call callee operands definition => do
    return .call callee (← nodeList? operands) (← nodeOption? definition)
  | assign name value => do return .assign name (← node? value)
  | branch condition body orelse => do
    return .branch (← node? condition) (← nodeList? body) (← elseBody? orelse)
  | otherwise body => do return .otherwise (← nodeList? body)
  | loop counter iterator body => do
    return .loop counter (← node? iterator) (← nodeList? body)
  | ret value => do return .ret (← nodeOption? value)
  | range start stop step => .ok (.range start stop step)
  | sequence values => do return .sequence (← nodeList? values)
  | foreign typeName => .error (.foreign typeName)

def nodeList? : List Draft → Except DraftFault (List Node)
  | [] => .ok []
  | d :: ds => do return (← node? d) :: (← nodeList? ds)

def nodeOption? : Option Draft → Except DraftFault (Option Node)
  | none => .ok none
  | some d => do return some (← node? d)

def elseBody? : Option Draft → Except DraftFault (Option (List Node))
  | none => .ok none
  | some d => do
    match ← node? d with
    | .otherwise body => return some body
    | _ => .error .missingElse

end

/-- The node of a draft.  What cannot be built is reported before what is no node. -/
def build (d : Draft) : Except DraftFault Node :=
  match d.fault? with
  | some fault => .error (.unbuildable fault)
  | none => d.node?

end Draft

end Cascade
