import PathRouter.Document.Value
import PathRouter.Log.Level
import PathRouter.Settings.Error
import PathRouter.Text.Quoted
/-!
# Settings

`Settings` is what a deployment can choose, and `Settings.ofValue` reads it from a value.  A record is an object with
some of the fields, or a list of the first fields in their order; the fields that are left out keep their defaults.  An
object is read in ascending order of keys and the first fault is reported.
-/
namespace PathRouter

/-- What is chosen for the log. -/
structure LogSettings where
  level : LogLevel := .info
  format : LogFormat := .json
  /-- The file that entries are appended to in place of standard output. -/
  file : Option String := none
  /-- Directives that stand before the level. -/
  envFilter : Option String := none
  spans : Bool := false
deriving Repr, DecidableEq

/-- What is chosen for requests that no route takes. -/
structure RouterSettings where
  /-- The page itself. -/
  notFoundTemplate : Option String := none
  /-- The file that holds the page. -/
  notFoundTemplateFile : Option String := none
deriving Repr, DecidableEq

structure Settings where
  log : LogSettings := {}
  router : RouterSettings := {}
deriving Repr, DecidableEq

/-- What a value is, for a report that it should be something else. -/
def Value.description : Value → String
  | .null => "null"
  | .bool b => "boolean `" ++ (if b then "true" else "false") ++ "`"
  | .int n => "integer `" ++ toString n ++ "`"
  | .float x => "floating point `" ++ x.text ++ "`"
  | .text s => "string " ++ String.ofList (Text.quote s.toList)
  | .array _ => "sequence"
  | .object _ => "map"

namespace Shape

/-- A way to read a value. -/
abbrev Reader (α : Type) := Value → Except ShapeFault α

def wrongType (v : Value) (wanted : String) : Except ShapeFault α :=
  .error (.wrongType v.description wanted)

def bool : Reader Bool
  | .bool b => .ok b
  | v => wrongType v "a boolean"

/-- A text, or null for none. -/
def optionalText : Reader (Option String)
  | .null => .ok none
  | .text s => .ok (some s)
  | v => wrongType v "a string"

/-- One of several names: a text, or an object with this one key and null. -/
def choice (options : List α) (name : α → String) : Reader α := fun v =>
  let named (s : String) : Except ShapeFault α :=
    match options.find? (fun a => name a == s) with
    | some a => .ok a
    | none => .error (.unknownChoice s (options.map name))
  match v with
  | .text s => named s
  | .object [(s, w)] =>
    match named s, w with
    | .error e, _ => .error e
    | .ok a, .null => .ok a
    | .ok _, w => wrongType w "unit"
  | .object _ => .error .notOneMember
  | v => wrongType v "string or map"

/-- A field of a record: its name, and how a value for it changes the record. -/
structure RecordField (α : Type) where
  name : String
  store : Value → α → Except ShapeFault α

/-- The field of a name, read by `read` and put into the record by `set`. -/
def RecordField.of (name : String) (read : Reader β) (set : β → α → α) : RecordField α :=
  ⟨name, fun v a => (read v).map (fun b => set b a)⟩

def members (fields : List (RecordField α)) (a : α) (ms : List (String × Value)) : Except ShapeFault α :=
  ms.foldlM (fun a (key, v) =>
    match fields.find? (fun f => f.name == key) with
    | some f => f.store v a
    | none => .error (.unknownField key (fields.map (·.name)))) a

/-- The items of a list, each for the field at its place. -/
def items (fields : List (RecordField α)) (a : α) (vs : List Value) : Except ShapeFault α :=
  match (fields.zip vs).foldlM (fun a (f, v) => f.store v a) a with
  | .error e => .error e
  | .ok a => if fields.length < vs.length then .error (.tooManyItems vs.length) else .ok a

/-- A record, which is `a` where the value says nothing. -/
def record (name : String) (fields : List (RecordField α)) (a : α) : Reader α
  | .object ms => members fields a ms
  | .array vs => items fields a vs
  | v => wrongType v ("struct " ++ name)

end Shape

namespace LogSettings
open Shape

def fields : List (RecordField LogSettings) := [
  .of "level" (choice LogLevel.all LogLevel.name) (fun l s => { s with level := l }),
  .of "format" (choice LogFormat.all LogFormat.name) (fun f s => { s with format := f }),
  .of "file" optionalText (fun f s => { s with file := f }),
  .of "env_filter" optionalText (fun f s => { s with envFilter := f }),
  .of "spans" bool (fun b s => { s with spans := b })]

def ofValue : Reader LogSettings :=
  record "LogSettings" fields {}

end LogSettings

namespace RouterSettings
open Shape

def fields : List (RecordField RouterSettings) := [
  .of "not_found_template" optionalText (fun t s => { s with notFoundTemplate := t }),
  .of "not_found_template_file" optionalText (fun t s => { s with notFoundTemplateFile := t })]

def ofValue : Reader RouterSettings :=
  record "RouterSettings" fields {}

end RouterSettings

namespace Settings
open Shape

def fields : List (RecordField Settings) := [
  .of "log" LogSettings.ofValue (fun l s => { s with log := l }),
  .of "router" RouterSettings.ofValue (fun r s => { s with router := r })]

def ofValue : Reader Settings :=
  record "Settings" fields {}

end Settings
end PathRouter
