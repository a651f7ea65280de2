import PathRouter.Regex.Search
import PathRouter.Regex.Reader
/-!
# Matching

A `Pattern` is a pattern text with its expression and program.  `Pattern.captures?` gives, for the preferred match
anywhere in a text, where each group matched: group 0 is the whole match, and a group that took no part in it has no
span.  A group inside a repetition keeps the span of the last pass it took part in.
-/
namespace PathRouter

/-- A stretch of a text, from `start` up to and without `stop`. -/
structure Span where
  start : Nat
  stop : Nat
deriving Repr, DecidableEq

/-- The characters of a text inside a span. -/
def Span.of (s : Span) (text : List Char) : List Char :=
  (text.drop s.start).take (s.stop - s.start)

structure Pattern where
  text : String
  regex : Regex
  /-- The names of groups 1, 2, …, where they have one. -/
  groupNames : List (Option String)
  program : Array Regex.Instr
deriving Repr, DecidableEq

namespace Pattern

/-- The pattern of a text that is a well-formed expression.  Its program may have any length: the limit that engines set
to the size of a compiled expression is left out. -/
def ofText? (text : String) : Option Pattern :=
  (Regex.parse? text).map (fun r => ⟨text, r, r.groupNames, r.program.toArray⟩)

/-- The span between two slots, if both were passed. -/
def spanAt (slots : Regex.Slots) (i : Nat) : Option Span :=
  match slots[2 * i]?.join, slots[2 * i + 1]?.join with
  | some a, some b => some ⟨a, b⟩
  | _, _ => none

/-- The spans of group 0, 1, … in the preferred match, if there is one. -/
def captures? (p : Pattern) (text : List Char) : Option (List (Option Span)) :=
  let groups := p.groupNames.length + 1
  (Regex.search p.program (2 * groups) text.toArray).map
    (fun slots => (List.range groups).map (spanAt slots))

/-- The names of the groups that have one, in the order of their numbers. -/
def variableNames (p : Pattern) : List String :=
  p.groupNames.filterMap id

end Pattern
end PathRouter
