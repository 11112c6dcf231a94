import Cascade.Scalar
import Cascade.Table
import Cascade.Text.Integer
import Cascade.Text.Split
import Cascade.Text.UpperCase

set_option autoImplicit false

namespace Cascade

inductive SettingsFault where
  | notInteger (raw : String)
  | notPositive (value : Int)
  | notLevel (name : String)
  | readOnlyLevel
  | nullCharacter
deriving DecidableEq, Inhabited

structure Settings where
  values : Table String
deriving Inhabited

namespace SettingsFault

def message : SettingsFault → String
  | notInteger raw => s!"TRANSMOG_MAX_DEPTH must be an integer, got {Text.quoted raw}"
  | notPositive value => s!"TRANSMOG_MAX_DEPTH must be positive, got {value}"
  | notLevel name => s!"TRANSMOG_LOG_LEVEL is not a log level: {Text.quoted name}"
  | readOnlyLevel => "property 'log_level' of 'TransmogEnv' object has no setter"
  | nullCharacter => "embedded null byte"

end SettingsFault

namespace Settings

def maxDepthVariable : String := "TRANSMOG_MAX_DEPTH"

def userModulesVariable : String := "TRANSMOG_USER_MODULES"

def libraryModulesVariable : String := "TRANSMOG_LIBRARY_MODULES"

def logLevelVariable : String := "TRANSMOG_LOG_LEVEL"

def get? (s : Settings) (name : String) : Option String :=
  s.values.get? name

def put (s : Settings) (name : String) : Option String → Settings
  | some value => ⟨s.values.set name value⟩
  | none => ⟨s.values.remove name⟩

/-- Whether a variable can hold the text: the null character would end it. -/
def isStorable (value : String) : Bool :=
  !value.toList.contains '\x00'

def accept (value : String) (changed : Settings) : Except SettingsFault Settings :=
  if isStorable value then .ok changed else .error .nullCharacter

def put? (s : Settings) (name : String) (value : Option String) : Except SettingsFault Settings :=
  accept (value.getD "") (s.put name value)

def defaultMaxDepth : Int := 200

def maxDepth? (s : Settings) : Except SettingsFault Int :=
  match s.get? maxDepthVariable with
  | none | some "" => .ok defaultMaxDepth
  | some raw =>
    match Text.readInteger? raw with
    | none => .error (.notInteger raw)
    | some value => if value < 1 then .error (.notPositive value) else .ok value

def setMaxDepth (s : Settings) : Scalar → Settings
  | .str raw => s.put maxDepthVariable (some raw)
  | value => s.put maxDepthVariable (some value.text)

def setMaxDepth? (s : Settings) : Scalar → Except SettingsFault Settings
  | .str raw => accept raw (s.setMaxDepth (.str raw))
  | value => .ok (s.setMaxDepth value)

/-- The names of a module list: separated by commas or colons, without white space around them, and
none empty. -/
def splitModules (raw : String) : List String :=
  ((Text.splitWhere (fun c => c == ',' || c == ':') raw.toList).map fun piece =>
    String.ofList (Text.trimChars Text.isBlank piece)).filter (· ≠ "")

def joinModules (names : List String) : String :=
  ":".intercalate names

def userModules (s : Settings) : List String :=
  splitModules ((s.get? userModulesVariable).getD "")

def setUserModules (s : Settings) (names : List String) : Settings :=
  s.put userModulesVariable (some (joinModules names))

def setUserModules? (s : Settings) (names : List String) : Except SettingsFault Settings :=
  accept (joinModules names) (s.setUserModules names)

def ownModules : List String := ["transmog"]

def libraryModules (s : Settings) : List String :=
  ownModules ++ splitModules ((s.get? libraryModulesVariable).getD "")

def setLibraryModules (s : Settings) (names : List String) : Settings :=
  s.put libraryModulesVariable (some (joinModules names))

def setLibraryModules? (s : Settings) (names : List String) : Except SettingsFault Settings :=
  accept (joinModules names) (s.setLibraryModules names)

def levels : Table Nat :=
  [("CRITICAL", 50), ("FATAL", 50), ("ERROR", 40), ("WARNING", 30), ("WARN", 30), ("INFO", 20),
    ("DEBUG", 10), ("NOTSET", 0)]

def defaultLevel : String := "WARNING"

def logLevel? (s : Settings) : Except SettingsFault Nat :=
  let name := Text.upperCase ((s.get? logLevelVariable).getD defaultLevel)
  match levels.get? name with
  | none => .error (.notLevel name)
  | some level => .ok level

end Settings

end Cascade
