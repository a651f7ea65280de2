import PathRouter.Regex.CharSet
/-!
# Regular expressions

The tree of a pattern with everything spelled out: flags and named classes are resolved, an option is an alternative
with `empty`, and a counted repetition is written as often as it counts.  The order of the two sides of `alt` is an
order of preference.

There are two loops.  `plus` decides after each pass, `star` before each pass.  The search enters a place of the program
once at each place of the text (`Regex.Search`), so under `star` a pass that consumed nothing would count against the
decision itself; `many` therefore uses `star` only for bodies that consume, and an optional `plus` for the others.
-/
namespace PathRouter

/-- Conditions on the place between two characters. -/
inductive Assertion where
  | textStart | textEnd
  | lineStart | lineEnd
  | lineStartCRLF | lineEndCRLF
  | wordBoundary | notWordBoundary | wordStart | wordEnd | wordStartHalf | wordEndHalf
  | asciiBoundary | notAsciiBoundary | asciiStart | asciiEnd | asciiStartHalf | asciiEndHalf
deriving Repr, DecidableEq

def isAsciiWordChar (c : Char) : Bool :=
  c.isAlphanum || c == '_'

/-- Whether the condition holds between `before` and `after`, each absent at an end of the text. -/
def Assertion.holds (a : Assertion) (before after : Option Char) : Bool :=
  let word (o : Option Char) := o.any Text.isWordChar
  let ascii (o : Option Char) := o.any isAsciiWordChar
  match a with
  | .textStart => before.isNone
  | .textEnd => after.isNone
  | .lineStart => before.isNone || before == some '\n'
  | .lineEnd => after.isNone || after == some '\n'
  | .lineStartCRLF => before.isNone || before == some '\n' || (before == some '\r' && after != some '\n')
  | .lineEndCRLF => after.isNone || after == some '\r' || (after == some '\n' && before != some '\r')
  | .wordBoundary => word before != word after
  | .notWordBoundary => word before == word after
  | .wordStart => !word before && word after
  | .wordEnd => word before && !word after
  | .wordStartHalf => !word before
  | .wordEndHalf => !word after
  | .asciiBoundary => ascii before != ascii after
  | .notAsciiBoundary => ascii before == ascii after
  | .asciiStart => !ascii before && ascii after
  | .asciiEnd => ascii before && !ascii after
  | .asciiStartHalf => !ascii before
  | .asciiEndHalf => !ascii after

/-- A regular expression.  `plus r greedy` repeats `r` once or more and `star r greedy` any number of times, and both
prefer further passes when `greedy`; `group i name r` records what `r` matched as group `i`. -/
inductive Regex where
  | empty
  | one (s : CharSet)
  | assert (a : Assertion)
  | cat (r s : Regex)
  | alt (r s : Regex)
  | plus (r : Regex) (greedy : Bool)
  | star (r : Regex) (greedy : Bool)
  | group (index : Nat) (name : Option String) (r : Regex)
deriving Repr, DecidableEq

namespace Regex

/-- Concatenation of the members; no member gives the empty expression. -/
def cats : List Regex → Regex
  | [] => .empty
  | [r] => r
  | r :: rest => .cat r (cats rest)

def opt (r : Regex) (greedy : Bool) : Regex :=
  if greedy then .alt r .empty else .alt .empty r

/-- Whether the expression can match without consuming a character. -/
def canBeEmpty : Regex → Bool
  | .empty | .assert _ | .star _ _ => true
  | .one _ => false
  | .cat r s => r.canBeEmpty && s.canBeEmpty
  | .alt r s => r.canBeEmpty || s.canBeEmpty
  | .plus r _ | .group _ _ r => r.canBeEmpty

def many (r : Regex) (greedy : Bool) : Regex :=
  if r.canBeEmpty then opt (.plus r greedy) greedy else .star r greedy

/-- At most `n` passes, each only after the one before. -/
def upTo (r : Regex) (greedy : Bool) : Nat → Regex
  | 0 => .empty
  | 1 => opt r greedy
  | n + 2 => opt (.cat r (upTo r greedy (n + 1))) greedy

def times (r : Regex) (n : Nat) : Regex :=
  cats (List.replicate n r)

/-- At least `min` and at most `max` passes. -/
def counted (r : Regex) (min : Nat) (max : Option Nat) (greedy : Bool) : Regex :=
  match min, max with
  | 0, none => many r greedy
  | 1, none => .plus r greedy
  | n + 2, none => cats (List.replicate (n + 1) r ++ [.plus r greedy])
  | n, some m =>
    if m ≤ n then times r n
    else if n = 0 then upTo r greedy m
    else .cat (times r n) (upTo r greedy (m - n))

/-- The groups of an expression, by their numbers, each with its name. -/
def groups : Regex → List (Nat × Option String)
  | .empty | .one _ | .assert _ => []
  | .cat r s | .alt r s => r.groups ++ s.groups
  | .plus r _ | .star r _ => r.groups
  | .group i name r => (i, name) :: r.groups

/-- The names of groups 1, 2, … up to the highest number in use; a number that is not in use has no name. -/
def groupNames (r : Regex) : List (Option String) :=
  let gs := r.groups
  let count := gs.foldl (fun n g => max n g.1) 0
  (List.range count).map (fun i => (gs.lookup (i + 1)).join)

end Regex
end PathRouter
