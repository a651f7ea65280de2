import PathRouter.Regex.Tree
/-!
# Forms of expressions

What a pattern writes, before its repetitions are spelled out.  A form is put together by the functions of this module
alone, and they keep it simple: no concatenation stands directly in a concatenation and no alternative directly in an
alternative, literals side by side are one literal, and a set of one character is a literal.

If all alternatives begin with the same factors, `alts` writes these once, before the alternatives of what is left.  The
texts that match are the same.  Which match is preferred can change: what the shared factors match is now chosen before
the alternative, so with the pattern `a*ab|a*(b)` the `b` of `aab` is matched by the second alternative.
-/
namespace PathRouter

/-- A pattern in simple form.  The concatenation `cat r s` has the factors `r` and those of `s`, the choice `alt r s`
has the alternatives `r` and those of `s`; both continue to the right only.  `set ascii s` notes whether the set was
read without Unicode, for such a set is never taken for one that was read with it. -/
inductive Regex.Form where
  | empty
  | literal (text : List Char)
  | set (ascii : Bool) (s : CharSet)
  | assert (a : Assertion)
  | repeated (r : Form) (min : Nat) (max : Option Nat) (greedy : Bool)
  | group (index : Nat) (name : Option String) (r : Form)
  | cat (r s : Form)
  | alt (r s : Form)
deriving Repr, DecidableEq

namespace Regex.Form

/-! ## Sets and repetitions -/

/-- The form that nothing matches. -/
def nothing : Form := .set true .none

/-- One character out of a set. -/
def ofSet (ascii : Bool) (s : CharSet) : Form :=
  match s.ranges with
  | [] => nothing
  | [(a, b)] => if a = b then .literal [Char.ofNat a] else .set ascii s
  | _ => .set ascii s

/-- Whether all matches of the form are empty, by its shape. -/
def isZeroWidth : Form → Bool
  | .empty | .assert _ => true
  | .literal _ | .set _ _ => false
  | .repeated r _ _ _ | .group _ _ r => r.isZeroWidth
  | .cat r s | .alt r s => r.isZeroWidth && s.isZeroWidth

/-- Repeats a form; what consumes nothing is repeated at most once. -/
def counted (r : Form) (min : Nat) (max : Option Nat) (greedy : Bool) : Form :=
  let least := if r.isZeroWidth then Nat.min min 1 else min
  let most := if r.isZeroWidth then some (Nat.min (max.getD 1) 1) else max
  if least = 0 ∧ most = some 0 then .empty
  else if least = 1 ∧ most = some 1 then r
  else .repeated r least most greedy

/-! ## Concatenations -/

/-- What a form concatenates. -/
def factors : Form → List Form
  | .empty => []
  | .cat r s => r :: s.factors
  | r => [r]

/-- Puts a factor in front of others; a literal joins the literal it meets. -/
def consFactor : Form → List Form → List Form
  | .literal s, .literal t :: rest => .literal (s ++ t) :: rest
  | r, rest => r :: rest

def ofFactors : List Form → Form
  | [] => .empty
  | [r] => r
  | r :: rest => .cat r (ofFactors rest)

/-- Concatenation of forms. -/
def cats (rs : List Form) : Form :=
  ofFactors ((rs.flatMap factors).foldr consFactor [])

/-! ## Alternatives -/

/-- What a form chooses from, by falling preference. -/
def branches : Form → List Form
  | .alt r s => r :: s.branches
  | r => [r]

def ofBranches : List Form → Form
  | [] => nothing
  | [r] => r
  | r :: rest => .alt r (ofBranches rest)

/-- The set of a form that is one character. -/
def asChar? : Form → Option CharSet
  | .literal [c] => some (.single c)
  | _ => none

/-- The set of a form that is one. -/
def asSet? : Form → Option CharSet
  | .set _ s => some s
  | _ => none

/-- The alternatives as one set, if all of them are single characters or all of them are sets. -/
def asOneSet? (rs : List Form) : Option CharSet :=
  ((rs.mapM asChar?).or (rs.mapM asSet?)).map CharSet.unions

/-- The longest list that both lists begin with. -/
def sharedPrefix : List Form → List Form → List Form
  | r :: rs, s :: ss => if r = s then r :: sharedPrefix rs ss else []
  | _, _ => []

theorem sharedPrefix_left : ∀ rs ss : List Form, sharedPrefix rs ss <+: rs
  | [], _ | _ :: _, [] => List.nil_prefix
  | r :: rs, s :: ss => by
    unfold sharedPrefix
    split
    · exact List.cons_prefix_cons.2 ⟨rfl, sharedPrefix_left rs ss⟩
    · exact List.nil_prefix

theorem sharedPrefix_right : ∀ rs ss : List Form, sharedPrefix rs ss <+: ss
  | [], _ | _ :: _, [] => List.nil_prefix
  | r :: rs, s :: ss => by
    unfold sharedPrefix
    split
    · next h => exact List.cons_prefix_cons.2 ⟨h, sharedPrefix_right rs ss⟩
    · exact List.nil_prefix

def isCat : Form → Bool
  | .cat _ _ => true
  | _ => false

/-- The factors that all alternatives begin with, if all of them are concatenations. -/
def sharedFactors (rs : List Form) : List Form :=
  match rs.map factors with
  | [] => []
  | fs :: rest => if rs.all isCat then rest.foldl sharedPrefix fs else []

/-- Alternatives by falling preference, as one set where they can be. -/
def choice (rs : List Form) : Form :=
  match rs.flatMap branches with
  | [] => nothing
  | [r] => r
  | rs => ((asOneSet? rs).map (ofSet false)).getD (ofBranches rs)

/-- Alternatives by falling preference, after the factors that all of them begin with.  What is left of the
alternatives has no first factor in common, so there is nothing to do for it again. -/
def alts (rs : List Form) : Form :=
  let rs := rs.flatMap branches
  let shared := sharedFactors rs
  if rs.length ≤ 1 ∨ shared = [] then choice rs
  else cats (shared ++ [choice (rs.map (fun r => ofFactors (r.factors.drop shared.length)))])

/-! ## Spelling out -/

/-- The expression of a form. -/
def toRegex : Form → Regex
  | .empty => .empty
  | .literal text => Regex.cats (text.map (fun c => .one (.single c)))
  | .set _ s => .one s
  | .assert a => .assert a
  | .repeated r min max greedy => Regex.counted r.toRegex min max greedy
  | .group i name r => .group i name r.toRegex
  | .cat r s => .cat r.toRegex s.toRegex
  | .alt r s => .alt r.toRegex s.toRegex

end Regex.Form
end PathRouter
