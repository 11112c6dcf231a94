import Cascade.World.Value

set_option autoImplicit false

namespace Cascade

namespace Builtin

def functions : List String := [
  "__build_class__", "__import__", "abs", "aiter", "all", "anext", "any", "ascii", "bin",
  "breakpoint", "callable", "chr", "compile", "delattr", "dir", "divmod", "eval", "exec",
  "format", "getattr", "globals", "hasattr", "hash", "hex", "id", "input", "isinstance",
  "issubclass", "iter", "len", "locals", "max", "min", "next", "oct", "open", "ord", "pow",
  "print", "repr", "round", "setattr", "sorted", "sum", "vars"]

def classes : List String := [
  "ArithmeticError", "AssertionError", "AttributeError", "BaseException", "BaseExceptionGroup",
  "BlockingIOError", "BrokenPipeError", "BufferError", "BytesWarning", "ChildProcessError",
  "ConnectionAbortedError", "ConnectionError", "ConnectionRefusedError",
  "ConnectionResetError", "DeprecationWarning", "EOFError", "EncodingWarning",
  "EnvironmentError", "Exception", "ExceptionGroup", "FileExistsError", "FileNotFoundError",
  "FloatingPointError", "FutureWarning", "GeneratorExit", "IOError", "ImportError",
  "ImportWarning", "IndentationError", "IndexError", "InterruptedError", "IsADirectoryError",
  "KeyError", "KeyboardInterrupt", "LookupError", "MemoryError", "ModuleNotFoundError",
  "NameError", "NotADirectoryError", "NotImplementedError", "OSError", "OverflowError",
  "PendingDeprecationWarning", "PermissionError", "ProcessLookupError", "RecursionError",
  "ReferenceError", "ResourceWarning", "RuntimeError", "RuntimeWarning", "StopAsyncIteration",
  "StopIteration", "SyntaxError", "SyntaxWarning", "SystemError", "SystemExit", "TabError",
  "TimeoutError", "TypeError", "UnboundLocalError", "UnicodeDecodeError", "UnicodeEncodeError",
  "UnicodeError", "UnicodeTranslateError", "UnicodeWarning", "UserWarning", "ValueError",
  "Warning", "ZeroDivisionError", "__loader__", "bool", "bytearray", "bytes", "classmethod",
  "complex", "dict", "enumerate", "filter", "float", "frozenset", "int", "list", "map",
  "memoryview", "object", "property", "range", "reversed", "set", "slice", "staticmethod",
  "str", "super", "tuple", "type", "zip"]

def constants : Table Value :=
  [("True", .scalar (.bool true)), ("False", .scalar (.bool false)), ("None", .scalar .none),
    ("Ellipsis", .scalar .ellipsis), ("__debug__", .scalar (.bool true)),
    ("__name__", .scalar (.str "builtins")), ("__package__", .scalar (.str ""))]

def objects : Table String :=
  [("NotImplemented", "NotImplementedType"), ("__spec__", "ModuleSpec"), ("quit", "Quitter"),
    ("exit", "Quitter"), ("copyright", "_Printer"), ("credits", "_Printer"),
    ("license", "_Printer"), ("help", "_Helper"), ("__doc__", "str")]

def names : Table Value :=
  constants ++ functions.map (fun name => (name, Value.builtin name)) ++
    classes.map (fun name => (name, Value.builtin name)) ++
    objects.map (fun (name, typeName) => (name, Value.other typeName none))

def classSynonyms : Table String :=
  [("EnvironmentError", "OSError"), ("IOError", "OSError"), ("__loader__", "BuiltinImporter")]

def ownName (name : String) : String :=
  (classSynonyms.get? name).getD name

end Builtin

namespace Value

def typeName : Value → String
  | scalar value => value.typeName
  | function _ => "function"
  | marked .. => "UDF"
  | list _ => "list"
  | tuple _ => "tuple"
  | moduleRef _ => "module"
  | builtin name => if Builtin.classes.contains name then "type" else "builtin_function_or_method"
  | other typeName _ => typeName

def description : Value → String
  | moduleRef name => s!"module '{name}'"
  | builtin name =>
    if Builtin.classes.contains name then s!"type object '{Builtin.ownName name}'"
    else "'builtin_function_or_method' object"
  | other "type" (some name) => s!"type object '{name}'"
  | other "partial" _ => "'functools.partial' object"
  | value => s!"'{value.typeName}' object"

end Value

end Cascade
