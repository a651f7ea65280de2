import PathRouter.Http.Params
import PathRouter.Text.LetterCase
/-!
# Requests

`Incoming` is a request as the transport hands it over, and `Request` is what handlers see: the target cut into path and
query, and the texts that the route and the parameters gave.
-/
namespace PathRouter

/-- Equality of names up to the case of ASCII letters. -/
def sameName (a b : String) : Bool :=
  Text.lowerAscii a.toList == Text.lowerAscii b.toList

/-- A request as the transport hands it over, with its whole body. -/
structure Incoming where
  method : String
  url : String
  headers : Dict String := ∅
  body : List UInt8 := []
deriving DecidableEq

/-- A request on its way to a handler. -/
structure Request where
  method : String
  path : String
  url : String
  headers : Dict String := ∅
  body : List UInt8 := []
  /-- What the named groups of the route took. -/
  urlParams : Dict String := ∅
  /-- What the unnamed groups of the route took, in order. -/
  splat : List String := []
  /-- The pairs of the query, and for a posted form those of its body. -/
  params : Params := ∅
  requestId : String := ""
deriving DecidableEq

namespace Request

def ofPath (method path : String) : Request :=
  { method, path, url := path }

/-- The value of a header, whose name has no case. -/
def header? (r : Request) (name : String) : Option String :=
  (r.headers.toList.find? (fun e => sameName e.1 name)).map (·.2)

def param? (r : Request) (name : String) : Option String :=
  r.urlParams.get? name

def query? (r : Request) (name : String) : Option String :=
  r.params.get? name

end Request
end PathRouter
