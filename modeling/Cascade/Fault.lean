import Cascade.Operator.Fixity
import Cascade.Text.Integer

set_option autoImplicit false

namespace Cascade

inductive Unsupported where
  | assignmentExpression
  | assignmentTargets
  | looseLambda (text : String)
  | flexibleArguments (text : String)
  | closureReference (name : String)
  | constant (text : String)
  | nonFinite (text : String)
  | statement (kind : String)
  | whileLoop
  | loopElse
  | loopTarget (text : String)
  | loopIterator (text : String)
  | zeroStep
  | asyncFunction (name : String)
  | flexibleParameters (name : String)
  | initialValues (name : String)
  | decoratedClosure (name : String)
deriving DecidableEq, Inhabited

/-- Why an expression cannot be written: an integer with too many digits, or a field of a formatted
string whose text needs a backslash. -/
inductive TextFault where
  | digits | backslash
deriving DecidableEq, Inhabited

inductive Fault where
  | unsupported (construct : Unsupported)
  | unknownOperator (statement : String)
  | arity (op : String) (fixity : Fixity) (count : Nat)
  | depthExceeded (limit : Int)
  | sourceMissing (qualname reason : String)
  | sourceBroken (qualname : String)
  | lambdaNotFound (qualname : String) (candidates : Nat)
  | definitionNotFound
  | notFunction (typeName : String)
  | notUserDefined (qualname : String)
  | unnamedLambda
  | noModule (qualname : String)
  | scopesTooDeep (qualname : String)
  /-- A message would have to quote an expression that cannot be written. -/
  | unwritable (cause : TextFault)
deriving DecidableEq, Inhabited

namespace Unsupported

def message : Unsupported → String
  | assignmentExpression =>
    "Please use `=` for assignment. Assignment expressions (`:=`) are not supported."
  | assignmentTargets =>
    "Please use a single `name = value` for assignment. " ++
      "Chained and unpacking assignments are not supported."
  | looseLambda text => s!"Closures must be bound to a name or invoked directly: {text}"
  | flexibleArguments text => s!"Keyword and starred arguments are not supported: {text}"
  | closureReference name => s!"Closure '{name}' can only be called, not referenced"
  | constant text => s!"Unsupported constant: {text}"
  | nonFinite text => s!"Non-finite number {text} cannot be sent to the engine"
  | statement kind => s!"Unsupported statement: {kind}"
  | whileLoop => "while loops are not supported."
  | loopElse => "for/else is not supported"
  | loopTarget text => s!"Only simple name targets supported in for-loops: {text}"
  | loopIterator text =>
    "for-loops can only iterate over range() with constant bounds or a literal sequence: " ++ text
  | zeroStep => "range() step must not be zero"
  | asyncFunction name => s!"Async function '{name}' is not supported"
  | flexibleParameters name =>
    s!"Function '{name}' uses *args, **kwargs or keyword-only arguments"
  | initialValues name =>
    s!"Function '{name}' has default argument values, which are not supported"
  | decoratedClosure name => s!"Decorated closure '{name}' is not supported"

end Unsupported

def TextFault.message : TextFault → String
  | digits => Text.digitsMessage
  | backslash => "Unable to avoid backslash in f-string expression part"

namespace Fault

def heading : Fault → String
  | unsupported _ => "UnsupportedConstruct"
  | unknownOperator _ => "UnknownOperator"
  | arity .. => "ArityMismatch"
  | depthExceeded _ => "RecursionDepthExceeded"
  | noModule _ | scopesTooDeep _ => "ScopeResolutionFailure"
  | sourceMissing .. | sourceBroken _ | lambdaNotFound .. | definitionNotFound | notFunction _
  | notUserDefined _ | unnamedLambda => "TransmogrifyError"
  | unwritable _ => "ValueError"

/-- Whether the fault lies in the function to be lowered, and not in the writing of a message. -/
def isReported : Fault → Bool
  | unwritable _ => false
  | _ => true

def message : Fault → String
  | unsupported construct => construct.message
  | unknownOperator statement =>
    s!"Failed to lower statement to an AST. Failing statement was: {statement}"
  | arity op fixity count =>
    s!"Operator '{op}' is {fixity.text} but was given {count} operand(s)"
  | depthExceeded limit =>
    s!"Maximum lowering depth of {limit} exceeded. " ++
      "Simplify the function or raise TRANSMOG_MAX_DEPTH."
  | sourceMissing qualname reason =>
    s!"Could not retrieve source for '{qualname}': {reason}"
  | sourceBroken qualname => s!"Could not parse the source of '{qualname}'"
  | lambdaNotFound qualname candidates =>
    s!"Could not locate the source of lambda '{qualname}' ({candidates} candidates). " ++
      "Define it with def instead."
  | definitionNotFound => "No function definition found in source"
  | notFunction typeName => s!"Expected a Python function, got {typeName}"
  | notUserDefined qualname => s!"'{qualname}' is not a user-defined function"
  | unnamedLambda => "Lambda functions need an explicit name: transmogrify(fn, name=...)"
  | noModule qualname => s!"Function <function {qualname}> has no defining module"
  | scopesTooDeep qualname => s!"Scope chain of {qualname} is too deep"
  | unwritable cause => cause.message

end Fault

end Cascade
