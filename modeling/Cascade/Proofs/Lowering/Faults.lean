import Cascade.Proofs.Lowering.Steps
import Cascade.Proofs.Source.Tokens

set_option autoImplicit false

namespace Cascade

def Fault.Plain (fault : Fault) : Prop :=
  ∀ limit, fault ≠ .depthExceeded limit

def Fault.isSimple : Fault → Bool
  | .depthExceeded _ | .unknownOperator _ | .arity .. => false
  | _ => true

theorem Fault.plain_of_isSimple {fault : Fault} (simple : fault.isSimple = true) : fault.Plain := by
  rintro limit rfl
  cases simple

def Fault.isOperatorFault : Fault → Bool
  | .unknownOperator _ | .arity .. => true
  | _ => false

theorem Fault.not_isOperatorFault {fault : Fault} (simple : fault.isSimple = true) :
    fault.isOperatorFault = false := by
  cases fault <;> first | rfl | cases simple

theorem Operator.classify_ne_unknown {token : String} (known : Operator.isKnown token = true)
    (count : Option Int) : Operator.classify token count ≠ .unknown := by
  unfold Operator.isKnown at known
  unfold Operator.classify
  grind

namespace Lowering

open Source

section Simple

variable {fault : Fault}

theorem simple_literal {value : Scalar} (h : Node.literal? value = .error fault) :
    fault.isSimple = true := by
  cases value with
  | float x =>
    simp only [Node.literal?] at h
    split at h <;> cases h
    rfl
  | _ => cases h

theorem simple_constantNode {value : Scalar} (h : constantNode? value = .error fault) :
    fault.isSimple = true := by
  unfold constantNode? at h
  split at h
  · exact simple_literal h
  · cases h
    rfl

theorem simple_nameNode {fs : Frames} {names : Namespace} {id : String}
    (h : nameNode? fs names id = .error fault) : fault.isSimple = true := by
  unfold nameNode? at h
  split at h
  · cases h
    rfl
  · split at h
    · cases h
    · split at h
      · exact simple_literal h
      · cases h

theorem simple_literals {values : List Scalar} (h : literals? values = .error fault) :
    fault.isSimple = true := by
  induction values with
  | nil => cases h
  | cons value values ih =>
    unfold literals? at h
    cases first : Node.literal? value with
    | error cause =>
      rw [first] at h
      cases h
      exact simple_literal first
    | ok n =>
      cases rest : literals? values with
      | error cause =>
        rw [first, rest] at h
        cases h
        exact ih rest
      | ok more =>
        rw [first, rest] at h
        cases h

theorem simple_formals {r : Routine} {name : String} (h : r.formals? name = .error fault) :
    fault.isSimple = true := by
  unfold Routine.formals? at h
  split at h
  · cases h
    rfl
  · split at h
    · cases h
      rfl
    · cases h

theorem simple_locateLambda {f : Function} {lambdas : List (List (Parameter Expr) × Expr)}
    (h : f.locateLambda? lambdas = .error fault) : fault.isSimple = true := by
  unfold Function.locateLambda? at h
  split at h <;> cases h
  rfl

theorem simple_locateDefinition {f : Function} {candidates : List Candidate}
    (h : f.locateDefinition? candidates = .error fault) : fault.isSimple = true := by
  unfold Function.locateDefinition? at h
  split at h <;> cases h <;> rfl

theorem simple_locate {f : Function} (h : f.locate? = .error fault) : fault.isSimple = true := by
  unfold Function.locate? at h
  split at h
  · cases h
    rfl
  · cases h
    rfl
  · split at h
    · exact simple_locateLambda h
    · exact simple_locateDefinition h
  · split at h
    · exact simple_locateLambda h
    · exact simple_locateDefinition h

theorem simple_quotingFault {quoted : List Expr} (simple : fault.isSimple = true) :
    (quotingFault quoted fault).isSimple = true := by
  rcases quotingFault_cases quoted fault with same | ⟨reason, unwritable⟩
  · rwa [same]
  · rw [unwritable]
    rfl

/-- A known operator can only be given a wrong number of operands. -/
theorem operation_eq_error {token : String} {operands : List Node} {s t : State}
    (known : Operator.isKnown token = true)
    (failed : operation token operands s = .error fault t) :
    fault = .arity token (Operator.classify token (some (operands.length : Int)))
        operands.length ∧
      (Operator.classify token (some (operands.length : Int))).admits operands.length = false := by
  have fit := Operator.classify_ne_unknown known (some (operands.length : Int))
  unfold operation at failed
  revert failed fit
  cases Operator.classify token (some (operands.length : Int)) with
  | unknown => exact fun _ fit => absurd rfl fit
  | unary | binary | variadic =>
    intro failed _
    change ofExcept (Node.operation? token _ operands) s = _ at failed
    unfold Node.operation? at failed
    split at failed
    · cases failed
    next unfit =>
      cases failed
      exact ⟨rfl, by simpa using unfit⟩

end Simple

/-- The fault that a task itself ends with in a state.  Nothing is said here about simple
faults. -/
inductive Raises (names : Namespace) : Task → State → Fault → Prop where
  | arity {callee args token s} (plain : args.any Expr.isStarred = false)
      (named : calleeToken? s.frames names callee = some token)
      (known : Operator.isKnown token = true)
      (unfit : (Operator.classify token (some (args.length : Int))).admits args.length = false) :
      Raises names (.expr (.call callee args [])) s
        (.arity token (Operator.classify token (some (args.length : Int))) args.length)
  | expression {e s} (refused : e.isRefused = true) :
      Raises names (.expr e) s (.unknownOperator e.text)
  | assignment {id use op value s} (unknown : Operator.binaryToken? op = none) :
      Raises names (.statement (.augAssign (.name id use) op value)) s
        (.unknownOperator (augAssignText (.name id use) op value))
  | simple {task s fault} (simple : fault.isSimple = true) : Raises names task s fault

theorem Raises.plain {names : Namespace} {task : Task} {s : State} {fault : Fault}
    (raised : Raises names task s fault) : fault.Plain := by
  cases raised with
  | simple simple => exact Fault.plain_of_isSimple simple
  | arity | expression | assignment => exact nofun

/-- Quoting can only make a fault simple. -/
theorem Raises.quoting {names : Namespace} {task : Task} {s : State} {fault : Fault}
    (raised : Raises names task s fault) (quoted : List Expr) :
    Raises names task s (quotingFault quoted fault) := by
  rcases quotingFault_cases quoted fault with same | ⟨reason, unwritable⟩
  · rwa [same]
  · rw [unwritable]
    exact .simple rfl

end Lowering

end Cascade
