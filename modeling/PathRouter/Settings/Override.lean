import PathRouter.Environment
import PathRouter.Settings.Schema
import PathRouter.Text.LetterCase
/-!
# Overrides

Variables whose names start alike stand for settings.  `Override.collect` finds them and takes the rest of their names,
in lower case, for keys; `Settings.overrideBy` puts their values into settings.  A key that names no setting is passed
over.  A map has no order in which its entries are put into settings, so any way to list them may be taken.
-/
namespace PathRouter

/-- A way to list the entries of a map: each once, in some order. -/
structure Listing where
  entries : Dict String → List (String × String)
  perm : ∀ values, (entries values).Perm values.toList

/-- Lists entries in ascending order of keys. -/
def Listing.ascending : Listing := ⟨Dict.toList, fun _ => .refl _⟩

namespace Override

/-- What the names of all variables for settings start with, before an underscore. -/
def nameStart : String := "WAYMARK"

/-- The key that a variable stands for, if its name starts with `start` and an underscore; without a start, every
variable stands for one. -/
def key? (start : Option String) (name : String) : Option String :=
  let rest := match start with
    | none => some name.toList
    | some start => (start.toList ++ ['_']).isPrefixOf? name.toList
  rest.map (fun s => String.ofList (Text.lower s))

/-- The values by key; of several variables for one key the last counts. -/
def collect (start : Option String) (bindings : List (String × String)) : Dict String :=
  Dict.ofList (bindings.filterMap (fun (name, value) => (key? start name).map (·, value)))

/-- The values of the environment by key. -/
def ofEnvironment (env : Environment) : Dict String :=
  collect (some nameStart) env.bindings

end Override

namespace Settings

/-- Puts the value of a key in place of a setting.  The page and its file are alternatives, so one takes the place of
the other. -/
def overrideOne (s : Settings) (key value : String) : Except SettingsError Settings :=
  match key with
  | "log_level" =>
    match LogLevel.ofName? value with
    | some l => .ok { s with log := { s.log with level := l } }
    | none => .error (.badOverride key value)
  | "log_format" =>
    match LogFormat.ofName? value with
    | some f => .ok { s with log := { s.log with format := f } }
    | none => .error (.badOverride key value)
  | "log_file" => .ok { s with log := { s.log with file := some value } }
  | "log_env_filter" => .ok { s with log := { s.log with envFilter := some value } }
  | "log_spans" =>
    match value with
    | "true" => .ok { s with log := { s.log with spans := true } }
    | "false" => .ok { s with log := { s.log with spans := false } }
    | _ => .error (.badOverride key value)
  | "not_found_template" => .ok { s with router := ⟨some value, none⟩ }
  | "not_found_template_file" => .ok { s with router := ⟨none, some value⟩ }
  | _ => .ok s

/-- Puts values in place of settings, in the order in which they are listed. -/
def overrideAll (s : Settings) (es : List (String × String)) : Except SettingsError Settings :=
  es.foldlM (fun s (key, value) => s.overrideOne key value) s

/-- Puts the values of a map in place of settings, in the order of a listing. -/
def overrideBy (o : Listing) (s : Settings) (values : Dict String) : Except SettingsError Settings :=
  s.overrideAll (o.entries values)

/-- Puts the values of a map in place of settings, in ascending order of keys. -/
def override (s : Settings) (values : Dict String) : Except SettingsError Settings :=
  s.overrideBy .ascending values

end Settings
end PathRouter
