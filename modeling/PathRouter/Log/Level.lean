import PathRouter.Text.LetterCase
/-!
# Levels of log entries

Five levels, from the one that tells most to the one that tells least.  Names are read without regard to the case of
ASCII letters; `warning` is another name of `warn`.
-/
namespace PathRouter

inductive LogLevel where
  | trace | debug | info | warn | error
deriving Repr, DecidableEq

namespace LogLevel

def all : List LogLevel := [.trace, .debug, .info, .warn, .error]

def name : LogLevel → String
  | .trace => "trace"
  | .debug => "debug"
  | .info => "info"
  | .warn => "warn"
  | .error => "error"

/-- The name in capitals, as entries show it. -/
def capitalName : LogLevel → String
  | .trace => "TRACE"
  | .debug => "DEBUG"
  | .info => "INFO"
  | .warn => "WARN"
  | .error => "ERROR"

/-- The level of a name in lower case. -/
def ofExactName? (s : String) : Option LogLevel :=
  all.find? (fun l => l.name == s)

/-- The level of a name in any case. -/
def ofName? (s : String) : Option LogLevel :=
  let s := String.ofList (Text.lowerAscii s.toList)
  if s == "warning" then some .warn else ofExactName? s

end LogLevel

/-- How an entry is written. -/
inductive LogFormat where
  | json | plain | pretty | compact
deriving Repr, DecidableEq

namespace LogFormat

def all : List LogFormat := [.json, .plain, .pretty, .compact]

def name : LogFormat → String
  | .json => "json"
  | .plain => "plain"
  | .pretty => "pretty"
  | .compact => "compact"

/-- The format of a name in lower case. -/
def ofExactName? (s : String) : Option LogFormat :=
  all.find? (fun f => f.name == s)

/-- The format of a name in any case. -/
def ofName? (s : String) : Option LogFormat :=
  ofExactName? (String.ofList (Text.lowerAscii s.toList))

end LogFormat
end PathRouter
