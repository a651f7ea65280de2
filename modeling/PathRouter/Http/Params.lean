import PathRouter.Dict
/-!
# Parameters of requests

A query or a form body is a list of pairs between ampersands.  A pair is cut at its first equals sign; without one the
whole pair is the key and the value is empty.  Empty pairs count for nothing, the last value of a key stays, and texts
are taken as they are, without decoding.
-/
namespace PathRouter

abbrev Params := Dict String

/-- Cuts a text at the first `sep`; without one the second part is absent. -/
def cutAt (sep : Char) (s : List Char) : List Char × Option (List Char) :=
  match s.span (· != sep) with
  | (a, _ :: b) => (a, some b)
  | (a, []) => (a, none)

namespace Params

def pair (s : List Char) : String × String :=
  let (key, value) := cutAt '=' s
  (String.ofList key, String.ofList (value.getD []))

def pairs (raw : List Char) : List (String × String) :=
  ((raw.splitOn '&').filter (fun p => !p.isEmpty)).map pair

/-- Adds the pairs of a text to parameters that are already there. -/
def parseInto (raw : String) (m : Params) : Params :=
  (pairs raw.toList).foldl (fun m p => m.insert p.1 p.2) m

def parse (raw : String) : Params :=
  parseInto raw ∅

end Params

/-- Cuts the target of a request into its path and the query after the first question mark, if there is one. -/
def splitUrl (url : String) : String × Option String :=
  let (path, query) := cutAt '?' url.toList
  (String.ofList path, query.map String.ofList)

end PathRouter
