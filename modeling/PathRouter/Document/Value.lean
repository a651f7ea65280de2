import PathRouter.Dict
import PathRouter.Number.Binary64
/-!
# Documents

A settings document, whatever it was written in, is a value: null, a truth value, a number, a text, a list of values or
an object whose members are in ascending order of keys.  A date of a document is an object with one member, under
`dateKey`, that holds its text.
-/
namespace PathRouter

inductive Value where
  | null
  | bool (b : Bool)
  | int (n : Int)
  | float (x : Binary64)
  | text (s : String)
  | array (items : List Value)
  | object (members : List (String × Value))
deriving Repr

namespace Value

/-- The member under which a date holds its text. -/
def dateKey : String := "$__toml_private_datetime"

def date (text : String) : Value :=
  .object [(dateKey, .text text)]

/-- The object of members given in any order; the last of several with one key stays. -/
def ofMembers (ms : List (String × Value)) : Value :=
  .object (ms.foldl (fun es m => Entries.put m.1 m.2 es) [])

/-- The member of an object. -/
def member? (v : Value) (key : String) : Option Value :=
  match v with
  | .object ms => Entries.get? key ms
  | _ => none

/-- The members of an object that are texts. -/
def texts (v : Value) : List (String × String) :=
  match v with
  | .object ms => ms.filterMap (fun (key, v) =>
    match v with
    | .text s => some (key, s)
    | _ => none)
  | _ => []

end Value
end PathRouter
