import PathRouter.Route.Segment
import PathRouter.Route.Error
/-!
# Declared paths

A declared path starts with a slash, does not end with one, and has a segment between slashes; empty segments count for
nothing.  `compile` writes the regular expression of the whole path, or reports every segment that follows no rule.
-/
namespace PathRouter.Route

/-- The segments of a path, without the empty ones. -/
def segments (path : List Char) : List (List Char) :=
  (path.splitOn '/').filter (fun s => !s.isEmpty)

def badSegments (path : List Char) : List (List Char) :=
  (segments path).filter (fun s => (Segment.read? s).isNone)

/-- The expression that matches the segments in turn, each after a slash, and nothing else. -/
def pattern (gs : List Segment) : List Char :=
  ['^', '/'] ++ List.intercalate ['/'] (gs.map Segment.pattern) ++ ['$']

/-- The segments of a declared path as they read, or what is wrong with the path. -/
def declared (path : List Char) : Except RouteFault (List Segment) :=
  if path.head? ≠ some '/' then .error .noRoot
  else if path.getLast? = some '/' then .error .trailingSlash
  else if badSegments path ≠ [] then .error (.badSegments ((badSegments path).map String.ofList))
  else .ok ((segments path).filterMap Segment.read?)

def compile (path : String) : Except RouteFault String :=
  (declared path.toList).map (fun gs => String.ofList (pattern gs))

end PathRouter.Route
