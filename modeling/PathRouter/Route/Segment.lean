import PathRouter.Text.Edition
/-!
# Segments of a path declaration

A declared path is cut at slashes, and each segment is one of

    :name            a variable that takes any name
    :name$spec       a variable that takes what the spec allows
    spec             alternatives between bars

where an alternative is a word of name characters, dots and the wildcards `*` (any number of name characters) and `+`
(at least one).  `Segment.read?` decides which, and `Segment.pattern` writes the regular expression of a segment.

Names and alternatives share characters and the dollar may be left out, so one rule is needed for where a name ends.  A
name takes all name characters after the colon; only where a bar follows them directly does it leave its last
character to be the first alternative.
-/
namespace PathRouter

/-- Characters of names, and what the wildcards stand for: word characters and the hyphen. -/
def isNameChar (c : Char) : Bool :=
  Text.isWordChar c || c == '-'

def isWildcard (c : Char) : Bool :=
  c == '*' || c == '+'

/-- Characters of alternatives. -/
def isSpecChar (c : Char) : Bool :=
  isNameChar c || isWildcard c || c == '.'

/-- One segment of a declared path: the variable it binds, if any, and the alternatives it allows, each once. -/
structure Segment where
  name : Option (List Char)
  alternatives : List (List Char)
deriving Repr, DecidableEq

namespace Segment

def nameClass : String := "[\\w\\d\\-_]"

/-- What a variable without a spec takes. -/
def defaultSpec : String := "+"

/-- Reads alternatives between bars; every one has a character, and repeated ones count once. -/
def readSpec? (s : List Char) : Option (List (List Char)) :=
  let words := s.splitOn '|'
  if words.all (fun w => !w.isEmpty && w.all isSpecChar) then some words.eraseDups else none

/-- Reads what follows the colon of a variable. -/
def readVariable? (s : List Char) : Option Segment :=
  let name := s.takeWhile isNameChar
  let plain : Segment := ⟨some name, [defaultSpec.toList]⟩
  if name.isEmpty then none
  else
    match s.dropWhile isNameChar with
    | [] | ['$'] => some plain
    | '$' :: spec => (readSpec? spec).map (fun alts => ⟨some name, alts⟩)
    | '|' :: spec =>
      match name.reverse with
      | last :: init@(_ :: _) => (readSpec? (last :: '|' :: spec)).map (fun alts => ⟨some init.reverse, alts⟩)
      | _ => none
    | spec => (readSpec? spec).map (fun alts => ⟨some name, alts⟩)

/-- The segment that a text without slashes writes, if it writes one. -/
def read? : List Char → Option Segment
  | ':' :: s => readVariable? s
  | s => (readSpec? s).map (fun alts => ⟨none, alts⟩)

def hasWildcard (g : Segment) : Bool :=
  g.alternatives.any (·.any isWildcard)

/-! ## The pattern of a segment -/

/-- Writes an alternative: wildcards become repeated name classes, a run of the same wildcard counts as one, and a dot
is escaped.  `previous` is the character before. -/
def expand (previous : Option Char) : List Char → List Char
  | [] => []
  | c :: s =>
    if isWildcard c then
      if previous == some c then expand previous s
      else nameClass.toList ++ c :: expand (some c) s
    else if c == '.' then '\\' :: '.' :: expand (some c) s
    else c :: expand (some c) s

def choice (g : Segment) : List Char :=
  List.intercalate ['|'] (g.alternatives.map (expand none))

/-- The regular expression of a segment: a named group for a variable, a group for wildcards, and a group that records
nothing around more than one literal alternative. -/
def pattern (g : Segment) : List Char :=
  match g.name with
  | some name => "(?<".toList ++ name ++ '>' :: g.choice ++ [')']
  | none =>
    if g.hasWildcard then '(' :: g.choice ++ [')']
    else if 2 ≤ g.alternatives.length then "(?:".toList ++ g.choice ++ [')']
    else g.choice

end Segment
end PathRouter
