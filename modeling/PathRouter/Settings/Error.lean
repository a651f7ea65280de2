import PathRouter.Files.Snapshot
/-!
# Errors of settings

What can go wrong between a settings file and settings that are in use.  `SettingsError` is the cause; its `kind` and
its `message` are what is reported.
-/
namespace PathRouter

/-- What a settings file can be written in. -/
inductive SettingsFormat where
  | json
  | toml
  /-- Assignments of variables, one to a line. -/
  | env
deriving Repr, DecidableEq

/-- Why a document is not one of settings. -/
inductive ShapeFault where
  | unknownField (name : String) (known : List String)
  | unknownChoice (name : String) (known : List String)
  | wrongType (found wanted : String)
  /-- A choice is written as an object that has not exactly one member. -/
  | notOneMember
  /-- A record is written as a list that has more items than the record has fields. -/
  | tooManyItems (length : Nat)
deriving Repr, DecidableEq

namespace ShapeFault

def inTicks (name : String) : String :=
  "`" ++ name ++ "`"

/-- Names to choose from: two with `or` between them, more as a list. -/
def alternatives : List String → String
  | [a, b] => inTicks a ++ " or " ++ inTicks b
  | names => "one of " ++ ", ".intercalate (names.map inTicks)

def message : ShapeFault → String
  | .unknownField name known => "unknown field " ++ inTicks name ++ ", expected " ++ alternatives known
  | .unknownChoice name known => "unknown variant " ++ inTicks name ++ ", expected " ++ alternatives known
  | .wrongType found wanted => "invalid type: " ++ found ++ ", expected " ++ wanted
  | .notOneMember => "invalid value: map, expected map with a single key"
  | .tooManyItems n => "invalid length " ++ toString n ++ ", expected fewer elements in array"

end ShapeFault

/-- Why settings cannot be used.  Each rule names the field it was asked about. -/
inductive RuleFault where
  | empty (field : String)
  | bothSet (field other : String)
  | notAFile (field path : String)
  | noDirectory (field directory : String)
deriving Repr, DecidableEq

def RuleFault.message : RuleFault → String
  | .empty field => field ++ " cannot be empty"
  | .bothSet field other => field ++ " and " ++ other ++ " cannot both be set"
  | .notAFile field path => field ++ " does not point to a readable file: " ++ path
  | .noDirectory field directory => field ++ " directory does not exist: " ++ directory

/-- The kinds of error, under which causes are reported. -/
inductive SettingsErrorKind where
  | load | parse | invalidValue | validation | deserialization | io
deriving Repr, DecidableEq

inductive SettingsError where
  /-- The name of the file does not tell its format. -/
  | noExtension (path : String)
  | unknownFormat (extension : String)
  | unreadable (path : String) (fault : FileFault)
  /-- The nearest `.env` file cannot be loaded. -/
  | badDotEnv
  | malformed (format : SettingsFormat)
  | badOverride (key value : String)
  | rule (fault : RuleFault)
  | shape (fault : ShapeFault)
  | io (fault : FileFault)
deriving Repr, DecidableEq

namespace SettingsError

def kind : SettingsError → SettingsErrorKind
  | .noExtension _ | .unknownFormat _ | .unreadable _ _ | .badDotEnv => .load
  | .malformed _ => .parse
  | .badOverride _ _ => .invalidValue
  | .rule _ => .validation
  | .shape _ => .deserialization
  | .io _ => .io

/-- The wording of an error.  Where in a text its error lies is not told; a star stands for it. -/
def message : SettingsError → String
  | .noExtension path => "Failed to load settings: No file extension found: " ++ path
  | .unknownFormat extension => "Failed to load settings: Unsupported format: " ++ extension
  | .unreadable path fault => "Failed to load settings: Failed to read " ++ path ++ ": " ++ fault.message
  | .badDotEnv => "Failed to load settings: .env: *"
  | .malformed .json => "Failed to parse settings: JSON parse error: *"
  | .malformed .toml => "Failed to parse settings: TOML parse error: *"
  | .malformed .env => "Failed to parse settings: Env parse error: *"
  | .badOverride key value => "Invalid value for " ++ key ++ ": " ++ value
  | .rule fault => "Validation error: " ++ fault.message
  | .shape fault => "Deserialization error: " ++ fault.message
  | .io fault => "IO error: " ++ fault.message

end SettingsError
end PathRouter
