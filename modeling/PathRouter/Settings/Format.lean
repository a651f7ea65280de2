import PathRouter.Document.DotEnv
import PathRouter.Document.Json
import PathRouter.Document.Toml.Reader
import PathRouter.Settings.Error
import PathRouter.Text.LetterCase
/-!
# Formats of settings files

The name of a file tells its format: the name `.env` itself, or else the extension.  Whatever the format, a text is read
into a value.
-/
namespace PathRouter
namespace SettingsFormat

def name : SettingsFormat → String
  | .json => "json"
  | .toml => "toml"
  | .env => "env"

def all : List SettingsFormat := [.json, .toml, .env]

/-- The format of an extension, in any case. -/
def ofExtension? (extension : String) : Option SettingsFormat :=
  all.find? (fun f => f.name.toList == Text.lower extension.toList)

/-- The format of the file at a path, by its name. -/
def ofPath (path : String) : Except SettingsError SettingsFormat :=
  let p := FilePath.ofText path
  if p.name? = some ".env".toList then .ok .env
  else
    match p.extension? with
    | none => .error (.noExtension path)
    | some extension =>
      match ofExtension? extension with
      | none => .error (.unknownFormat extension)
      | some f => .ok f

/-- Reads a text.  Values of an assignment can name variables of the environment. -/
def parse (f : SettingsFormat) (env : Environment) (content : String) : Except SettingsError Value :=
  match (match f with
    | .json => Json.parse? content
    | .toml => Toml.parse? content
    | .env => DotEnv.parse? env content) with
  | none => .error (.malformed f)
  | some v => .ok v

/-- Reads the text of a file. -/
def readFile (files : Snapshot) (path : String) : Except SettingsError String :=
  match files.readText (.ofText path) with
  | .error fault => .error (.unreadable path fault)
  | .ok content => .ok content

/-- Reads a file of a known format. -/
def load (f : SettingsFormat) (env : Environment) (files : Snapshot) (path : String) : Except SettingsError Value :=
  match readFile files path with
  | .error e => .error e
  | .ok content => f.parse env content

end SettingsFormat
end PathRouter
