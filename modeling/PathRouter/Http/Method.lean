import PathRouter.Text.LetterCase
/-!
# Methods and statuses

The methods that routes can be registered for, and the statuses that have a name.
-/
namespace PathRouter

inductive Method where
  | get | post | put | delete
deriving Repr, DecidableEq

namespace Method

/-- What a registration for every method stands for. -/
def all : List Method := [.get, .post, .put, .delete]

def text : Method → String
  | .get => "GET"
  | .post => "POST"
  | .put => "PUT"
  | .delete => "DELETE"

/-- The method of a name, in any case. -/
def ofText? (s : String) : Option Method :=
  all.find? (fun m => m.text.toList == Text.upper s.toList)

end Method

/-- Statuses with a name; any other code can be set as a number. -/
inductive Status where
  | ok | created | noContent | badRequest | notFound | internalServerError
deriving Repr, DecidableEq

namespace Status

def all : List Status := [.ok, .created, .noContent, .badRequest, .notFound, .internalServerError]

def code : Status → UInt16
  | .ok => 200
  | .created => 201
  | .noContent => 204
  | .badRequest => 400
  | .notFound => 404
  | .internalServerError => 500

def label : Status → String
  | .ok => "Ok"
  | .created => "Created"
  | .noContent => "NoContent"
  | .badRequest => "BadRequest"
  | .notFound => "NotFound"
  | .internalServerError => "InternalServerError"

def ofLabel? (s : String) : Option Status :=
  all.find? (fun k => k.label == s)

end Status
end PathRouter
