import PathRouter.Regex.Tree
/-!
# Programs of regular expressions

An expression is laid out as a list of instructions.  The layout of `r` at address `base` takes `r.size` places and
leaves through address `next`, so every address is known from sizes: `code r base next` is a plain recursion and
nothing is filled in later.

A `fork` prefers its first address.  In the layout of `plus` the body is followed by a fork between the body's first
address and the way out, in the layout of `star` the fork comes first and the body leads back to it.
-/
namespace PathRouter.Regex

/-- One instruction; `slot` numbers the ends of groups, `2 i` for the start of group `i` and `2 i + 1` for its end. -/
inductive Instr where
  | jump (next : Nat)
  | read (s : CharSet) (next : Nat)
  | check (a : Assertion) (next : Nat)
  | fork (first second : Nat)
  | mark (slot : Nat) (next : Nat)
  | accept
deriving Repr, DecidableEq

/-- The number of instructions of the layout. -/
def size : Regex → Nat
  | .empty | .one _ | .assert _ => 1
  | .cat r s | .alt r s => r.size + s.size + 1
  | .plus r _ | .star r _ => r.size + 1
  | .group _ _ r => r.size + 2

/-- The layout at `base` that leaves through `next`. -/
def code : Regex → (base next : Nat) → List Instr
  | .empty, _, next => [.jump next]
  | .one s, _, next => [.read s next]
  | .assert a, _, next => [.check a next]
  | .cat r s, base, next =>
    .jump (base + 1) :: (code r (base + 1) (base + 1 + r.size) ++ code s (base + 1 + r.size) next)
  | .alt r s, base, next =>
    .fork (base + 1) (base + 1 + r.size) :: (code r (base + 1) next ++ code s (base + 1 + r.size) next)
  | .plus r greedy, base, next =>
    code r base (base + r.size) ++ [if greedy then .fork base next else .fork next base]
  | .star r greedy, base, next =>
    (if greedy then .fork (base + 1) next else .fork next (base + 1)) :: code r (base + 1) base
  | .group i _ r, base, next =>
    .mark (2 * i) (base + 1) :: (code r (base + 1) (base + 1 + r.size) ++ [.mark (2 * i + 1) next])

theorem length_code : ∀ (r : Regex) (base next : Nat), (r.code base next).length = r.size
  | .empty, _, _ | .one _, _, _ | .assert _, _, _ => rfl
  | .cat r s, base, next | .alt r s, base, next => by
    simp [code, size, length_code r, length_code s]
  | .plus r _, base, next | .star r _, base, next => by simp [code, size, length_code r]
  | .group _ _ r, base, next => by simp [code, size, length_code r]

/-- The program of an expression: the whole match is group 0, and the last instruction accepts. -/
def program (r : Regex) : List Instr :=
  (Regex.group 0 none r).code 0 (r.size + 2) ++ [.accept]

end PathRouter.Regex
