import Cascade.Command.ModuleNames

set_option autoImplicit false

namespace Cascade.Command

open Source

def mathFunctions : List String :=
  ["acos", "acosh", "asin", "asinh", "atan", "atan2", "atanh", "cbrt", "ceil", "comb", "copysign",
    "cos", "cosh", "degrees", "dist", "erf", "erfc", "exp", "exp2", "expm1", "fabs", "factorial",
    "floor", "fmod", "frexp", "fsum", "gamma", "gcd", "hypot", "isclose", "isfinite", "isinf",
    "isnan", "isqrt", "lcm", "ldexp", "lgamma", "log", "log10", "log1p", "log2", "modf",
    "nextafter", "perm", "pow", "prod", "radians", "remainder", "sin", "sinh", "sqrt", "tan",
    "tanh", "trunc", "ulp"]

def mathConstants : Namespace :=
  [("pi", .scalar (.float (.finite (Decimal.normalize false 3141592653589793 (-15))))),
    ("e", .scalar (.float (.finite (Decimal.normalize false 2718281828459045 (-15))))),
    ("tau", .scalar (.float (.finite (Decimal.normalize false 6283185307179586 (-15))))),
    ("inf", .scalar (.float (.infinite false))), ("nan", .scalar (.float .nan))]

def namedParameter (name : String) : Parameter Expr :=
  ⟨.keywordOnly, name, none, none⟩

def placedParameter (name : String) : Parameter Expr :=
  ⟨.positional, name, none, none⟩

def initialParameter (name : String) : Parameter Expr :=
  ⟨.positional, name, none, some (.constant .none)⟩

structure InstalledFunction where
  name : String
  params : List (Parameter Expr)
  start : Stmt

def installedFunctions : Table (List InstalledFunction) :=
  [("json",
      [⟨"dump", [placedParameter "obj", placedParameter "fp", namedParameter "indent"], .pass⟩,
        ⟨"dumps", [placedParameter "obj", namedParameter "indent"], .pass⟩,
        ⟨"load", [placedParameter "fp", namedParameter "cls"], .pass⟩,
        ⟨"loads", [placedParameter "s", namedParameter "cls"], .pass⟩,
        ⟨"detect_encoding", [placedParameter "b"],
          .assign [.name "bstartswith" .store] (.member (.name "b" .load) "startswith")⟩]),
    ("transmog",
      [⟨"transmogrify", [placedParameter "fn", namedParameter "max_depth"], .pass⟩,
        ⟨"udf", [initialParameter "fn", namedParameter "name"], .pass⟩,
        ⟨"classify", [placedParameter "token", initialParameter "nargs"], .pass⟩,
        ⟨"is_user_defined", [placedParameter "value"], .refused .tryBlock [] []⟩,
        ⟨"serialize", [placedParameter "node"],
          .branch (.call (.name "isinstance" .load)
            [.name "node" .load, .name "FunctionDef" .load] []) [] []⟩,
        ⟨"to_json", [placedParameter "node", initialParameter "indent"], .pass⟩]),
    ("transmog.function",
      [⟨"transmogrify", [placedParameter "fn", namedParameter "max_depth"], .pass⟩])]

def installedNames : Table Namespace :=
  [("json",
      [("JSONDecodeError", .other "type" (some "JSONDecodeError")),
        ("JSONDecoder", .other "type" (some "JSONDecoder")),
        ("JSONEncoder", .other "type" (some "JSONEncoder")), ("__all__", .list []),
        ("__author__", .scalar (.str "")), ("__version__", .scalar (.str "2.0.9")),
        ("__doc__", .scalar (.str "")), ("_default_decoder", .other "JSONDecoder" none),
        ("_default_encoder", .other "JSONEncoder" none), ("codecs", .moduleRef "codecs"),
        ("decoder", .moduleRef "json.decoder"), ("encoder", .moduleRef "json.encoder"),
        ("scanner", .moduleRef "json.scanner")])]

def installedPackages : List String := ["json", "transmog"]

def installedLoading (moduleName : String) : Loading :=
  if installedPackages.contains moduleName then .package else .file

def installedId (moduleName name : String) : FunctionId :=
  moduleName ++ "." ++ name

def InstalledFunction.function (f : InstalledFunction) (moduleName : String) : Function :=
  ⟨moduleName, some moduleName, f.name, f.name, placedNames f.params, [],
    .body [.function f.name f.params [f.start] [] none]⟩

def mathNames : Namespace :=
  mathFunctions.map (fun name => (name, .builtin name)) ++ mathConstants ++
    [("__doc__", .scalar (.str "")), ("__package__", .scalar (.str "")),
      ("__spec__", .other "ModuleSpec" none),
      ("__loader__", .other "type" (some "BuiltinImporter"))]

def installedModuleNames (moduleName : String) (functions : List InstalledFunction) : Namespace :=
  functions.map (fun f => (f.name, .function (installedId moduleName f.name))) ++
    ((installedNames.get? moduleName).getD [] ++
      (installedLoading moduleName).names moduleName moduleName)

def installedWorld : World :=
  { modules := ("math", ⟨.fileless, mathNames⟩) ::
      installedFunctions.map fun (moduleName, functions) =>
        (moduleName, ⟨.installed, installedModuleNames moduleName functions⟩)
    functions := installedFunctions.flatMap fun (moduleName, functions) =>
      functions.map fun f => (installedId moduleName f.name, f.function moduleName) }

end Cascade.Command
