/-!
# Errors of routes

A route that cannot be made has one of a few causes.  `RouteFault` is the cause with what it is about, and
`RouteError` what is reported of it: a kind and a message.  The kind `noError` stands for the absence of an error where
a report always has a kind.
-/
namespace PathRouter

/-- The kinds of failure, and the absence of one. -/
inductive RouteErrorKind where
  | noError
  | badSegment
  | rootMissing
  | endsWithSlash
  | invalidRegex
deriving Repr, DecidableEq

namespace RouteErrorKind

/-- All kinds, in the order in which they are listed. -/
def all : List RouteErrorKind := [.noError, .badSegment, .rootMissing, .endsWithSlash, .invalidRegex]

def code : RouteErrorKind → String
  | .noError => "NO_ERROR"
  | .badSegment => "PATH_PART_ERROR"
  | .rootMissing => "ROOT_MISSING"
  | .endsWithSlash => "SLASH_TERMINATOR"
  | .invalidRegex => "INVALID_REGEX_PRODUCED"

/-- The name under which a kind is stored. -/
def label : RouteErrorKind → String
  | .noError => "NoError"
  | .badSegment => "PathPartError"
  | .rootMissing => "RootMissing"
  | .endsWithSlash => "SlashTerminator"
  | .invalidRegex => "InvalidRegexProduced"

def ofCode? (s : String) : Option RouteErrorKind :=
  all.find? (fun k => k.code == s)

end RouteErrorKind

/-- A report: the kind of failure and its message. -/
structure RouteError where
  kind : RouteErrorKind
  message : String
deriving Repr, DecidableEq

def RouteError.text (e : RouteError) : String :=
  e.kind.code ++ ": " ++ e.message

/-- Why a route cannot be made. -/
inductive RouteFault where
  | noRoot
  | trailingSlash
  /-- Segments that follow no rule, in the order of the path. -/
  | badSegments (segments : List String)
  | patternTrailingSlash (pattern : String)
  /-- The regular expression made from a declared path is not well formed. -/
  | illFormedCompiled (pattern declared : String)
  /-- The regular expression is not well formed. -/
  | illFormedPattern (pattern : String)
deriving Repr, DecidableEq

namespace RouteFault

def kind : RouteFault → RouteErrorKind
  | .noRoot => .rootMissing
  | .trailingSlash | .patternTrailingSlash _ => .endsWithSlash
  | .badSegments _ => .badSegment
  | .illFormedCompiled _ _ | .illFormedPattern _ => .invalidRegex

/-- The wording of a fault.  Where in a regular expression its error lies is not told; a star stands for it. -/
def message : RouteFault → String
  | .noRoot => "Path Error: Path did not start with /"
  | .trailingSlash => "Path Error: Path ends with /"
  | .badSegments segments =>
    "Syntax failed to parse the following components:\n\t\t" ++ "\n\t\t".intercalate segments
  | .patternTrailingSlash pattern => "Path can not end with /, received: " ++ pattern
  | .illFormedCompiled pattern declared =>
    "Invalid Regex Produced (*), \x7bre = " ++ pattern ++ ", route = " ++ declared ++ "\x7d"
  | .illFormedPattern pattern => "Invalid Regex (*), \x7bre = " ++ pattern ++ "\x7d"

def report (f : RouteFault) : RouteError :=
  ⟨f.kind, f.message⟩

end RouteFault
end PathRouter
