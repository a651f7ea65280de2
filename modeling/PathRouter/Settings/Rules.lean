import PathRouter.Settings.Schema
import PathRouter.Text.CharClass
/-!
# Rules for settings

A rule checks a field and gives the field's name with its fault.  `Settings.validate` checks all of them in turn and
reports the first fault.
-/
namespace PathRouter
namespace Rule

/-- A value holds more than blanks. -/
def notEmpty (value field : String) : Except RuleFault Unit :=
  if (Text.trim value.toList).isEmpty then .error (.empty field) else .ok ()

/-- At most one of two fields has a value. -/
def exclusive (a : Option α) (b : Option β) (fieldA fieldB : String) : Except RuleFault Unit :=
  if a.isSome && b.isSome then .error (.bothSet fieldA fieldB) else .ok ()

/-- A path leads to a file. -/
def isFile (files : Snapshot) (path field : String) : Except RuleFault Unit :=
  if files.isFile (.ofText path) then .ok () else .error (.notAFile field path)

/-- The directory of a path is there; the file need not be. -/
def parentExists (files : Snapshot) (path field : String) : Except RuleFault Unit :=
  match (FilePath.ofText path).parent? with
  | none => .ok ()
  | some directory =>
    if directory.text.isEmpty || files.isDirectory directory then .ok ()
    else .error (.noDirectory field directory.text)

end Rule

namespace Settings

/-- The rules that settings have to keep. -/
def check (s : Settings) (files : Snapshot) : Except RuleFault Unit := do
  Rule.exclusive s.router.notFoundTemplate s.router.notFoundTemplateFile
    "router.not_found_template" "router.not_found_template_file"
  match s.router.notFoundTemplateFile with
  | some path => Rule.isFile files path "router.not_found_template_file"
  | none => pure ()
  match s.log.file with
  | some file =>
    Rule.notEmpty file "log.file"
    Rule.parentExists files file "log.file"
  | none => pure ()
  match s.log.envFilter with
  | some directives => Rule.notEmpty directives "log.env_filter"
  | none => pure ()

def validate (s : Settings) (files : Snapshot) : Except SettingsError Unit :=
  (s.check files).mapError .rule

end Settings
end PathRouter
