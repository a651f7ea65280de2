import PathRouter.Log.Directive
/-!
# Filters of log entries

A filter is a list of directives, and its text separates them by commas.  Directives that depend on the span of an entry
are kept apart, behind the others.  In both lists the directives that ask for more come first; of two that ask for the
same the later one counts.
-/
namespace PathRouter

/-- Directives for entries wherever they occur, and directives for the entries of spans. -/
structure LogFilter where
  statics : List LogDirective
  dynamics : List LogDirective
deriving Repr, DecidableEq

namespace LogFilter

/-- Puts a directive where it belongs, in place of another one that asks for the same. -/
def insert (d : LogDirective) : List LogDirective → List LogDirective
  | [] => [d]
  | e :: rest =>
    match d.order e with
    | .eq => d :: rest
    | .gt => d :: e :: rest
    | .lt => e :: insert d rest

/-- The filter that lets through the entries of a level and of those that tell less. -/
def ofLevel (l : LogLevel) : LogFilter :=
  ⟨[{ threshold := .level l }], []⟩

/-- What a directive for spans says of entries wherever they occur: one that asks for a field by its name alone also
counts for entries that have the field themselves. -/
def staticPart? (d : LogDirective) : Option LogDirective :=
  if d.span.isNone && d.field.all (fun c => c.value.isNone) then some d else none

/-- The filter of some directives; without any it lets errors through. -/
def ofDirectives (ds : List LogDirective) : LogFilter :=
  let collect (ds : List LogDirective) := ds.foldl (fun es d => insert d es) []
  let (dynamics, statics) := ds.partition LogDirective.isDynamic
  if ds.isEmpty then ofLevel .error
  else ⟨collect (statics ++ dynamics.filterMap staticPart?), collect dynamics⟩

/-- Cuts a text at commas and leaves out empty parts. -/
def parts (s : String) : List (List Char) :=
  ((s.splitOn ",").map String.toList).filter (· ≠ [])

/-- Reads directives between commas. -/
def ofText? (s : String) : Option LogFilter :=
  ((parts s).mapM LogDirective.ofText?).map ofDirectives

def text (f : LogFilter) : String :=
  ",".intercalate ((f.statics ++ f.dynamics).map (·.text))

end LogFilter
end PathRouter
