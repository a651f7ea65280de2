/-!
# Nesting

How deep the constructs of a pattern lie in each other.  Groups, repetitions, brackets and set operations are one deeper
than what they hold, and so are parts, alternatives or items side by side, unless there is only one.  A pattern that is
deeper than `maxNesting` is refused, which keeps everything that recurs over patterns shallow.
-/
namespace PathRouter.Regex

def maxNesting : Nat := 250

/-- A piece of a pattern, and how deep constructs are nested in it. -/
structure Nested (α : Type) where
  value : α
  depth : Nat := 0
deriving Repr, DecidableEq

def joinDepth : List Nat → Nat
  | [] => 0
  | [d] => d
  | ds => ds.foldl max 0 + 1

namespace Nested

/-- Puts pieces side by side; `join` says what they are together. -/
def beside {α β : Type} (join : List α → β) (ps : List (Nested α)) : Nested β :=
  ⟨join (ps.map value), joinDepth (ps.map depth)⟩

/-- Puts a piece into a construct, which `f` describes. -/
def inside {α β : Type} (f : α → β) (p : Nested α) : Nested β :=
  ⟨f p.value, p.depth + 1⟩

end Nested
end PathRouter.Regex
