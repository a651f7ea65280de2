import PathRouter.Text.Edition
import PathRouter.Text.LetterCase
/-!
# Sets of characters

What one place of a pattern accepts.  A set is the list of its ranges of code points, in ascending order and with a gap
between any two, so sets that were put together in different ways are equal when their members are: `[ab]` and `[a-b]`
are one set.

The code points from `firstSurrogate` to `lastSurrogate` are no characters.  A range may run across them, and the
neighbours of a character are found by stepping over them.
-/
namespace PathRouter

open Text (Category)

/-- A set of characters, by its ranges. -/
structure CharSet where
  ranges : List (Nat × Nat)
deriving Repr, DecidableEq

namespace CharSet

def mem (s : CharSet) (c : Char) : Bool :=
  s.ranges.any (fun r => r.1 ≤ c.toNat && c.toNat ≤ r.2)

/-! ## Code points -/

def lastCode : Nat := 0x10FFFF

def firstSurrogate : Nat := 0xD800

def lastSurrogate : Nat := 0xDFFF

/-- The next character. -/
def nextCode (n : Nat) : Nat :=
  if n + 1 = firstSurrogate then lastSurrogate + 1 else n + 1

/-- The character before. -/
def previousCode (n : Nat) : Nat :=
  if n = lastSurrogate + 1 then firstSurrogate - 1 else n - 1

/-! ## Building sets -/

/-- Joins the range `a` to `b` and the ranges after it where they touch; their first ends ascend. -/
def joinFrom (a b : Nat) : List (Nat × Nat) → List (Nat × Nat)
  | [] => [(a, b)]
  | (c, d) :: rest => if c ≤ b + 1 then joinFrom a (max b d) rest else (a, b) :: joinFrom c d rest

/-- The set of ranges whose first ends ascend. -/
def ofRanges : List (Nat × Nat) → CharSet
  | [] => ⟨[]⟩
  | (a, b) :: rest => ⟨joinFrom a b rest⟩

/-- The set of code points, in any order. -/
def ofCodes (ns : List Nat) : CharSet :=
  ofRanges ((ns.mergeSort (· ≤ ·)).map (fun n => (n, n)))

def none : CharSet := ⟨[]⟩

def any : CharSet := ⟨[(0, lastCode)]⟩

def range (first last : Char) : CharSet :=
  if first ≤ last then ⟨[(first.toNat, last.toNat)]⟩ else none

def single (c : Char) : CharSet := ⟨[(c.toNat, c.toNat)]⟩

/-! ## Combining sets -/

def union (s t : CharSet) : CharSet :=
  ofRanges (s.ranges.merge t.ranges (fun a b => a.1 ≤ b.1))

/-- The union of any number of sets. -/
def unions (ss : List CharSet) : CharSet :=
  ofRanges ((ss.flatMap ranges).mergeSort (fun a b => a.1 ≤ b.1))

/-- What two lists of ranges share.  The range that ends first can meet nothing further. -/
def overlaps : List (Nat × Nat) → List (Nat × Nat) → List (Nat × Nat)
  | [], _ => []
  | _, [] => []
  | (a, b) :: rs, (c, d) :: ts =>
    let rest := if b < d then overlaps rs ((c, d) :: ts) else overlaps ((a, b) :: rs) ts
    if max a c ≤ min b d then (max a c, min b d) :: rest else rest
termination_by rs ts => rs.length + ts.length

def inter (s t : CharSet) : CharSet :=
  ⟨overlaps s.ranges t.ranges⟩

/-- From the character after `b` to the next range, and so on to the last character. -/
def gapsAfter (b : Nat) : List (Nat × Nat) → List (Nat × Nat)
  | [] => if b < lastCode then [(nextCode b, lastCode)] else []
  | (c, d) :: rest => (nextCode b, previousCode c) :: gapsAfter d rest

/-- What lies between ranges, before the first and after the last. -/
def gaps : List (Nat × Nat) → List (Nat × Nat)
  | [] => [(0, lastCode)]
  | (a, b) :: rest => if a = 0 then gapsAfter b rest else (0, previousCode a) :: gapsAfter b rest

/-- The characters outside a set.  Between two ranges that end and begin at the surrogates there is no character; there
the complement takes the two characters around them. -/
def compl (s : CharSet) : CharSet :=
  ⟨(gaps s.ranges).map (fun r => (min r.1 r.2, max r.1 r.2))⟩

def diff (s t : CharSet) : CharSet :=
  ⟨overlaps s.ranges ((gaps t.ranges).filter (fun r => r.1 ≤ r.2))⟩

def symmDiff (s t : CharSet) : CharSet :=
  diff (union s t) (inter s t)

def negateIf (b : Bool) (s : CharSet) : CharSet :=
  if b then compl s else s

/-! ## Case -/

/-- With every member, the characters that differ from it in case alone. -/
def folded (s : CharSet) : CharSet :=
  union s (ofCodes (Text.caseOrbits.filter (·.any (s.mem ∘ Char.ofNat))).flatten)

/-- Members that are ASCII letters stand for both cases. -/
def foldedAscii (s : CharSet) : CharSet :=
  union s (ofCodes ((List.range 26).flatMap (fun i =>
    let up := Char.ofNat (65 + i)
    let low := Char.ofNat (97 + i)
    if s.mem up || s.mem low then [up.toNat, low.toNat] else [])))

/-! ## Categories -/

/-- The stretches of a table of runs that have one of the categories; `c` is the category from `start` on. -/
def stretches (cs : List Category) (start : Nat) (c : Category) : List (Nat × Category) → List (Nat × Nat)
  | [] => if cs.contains c then [(start, lastCode)] else []
  | (next, d) :: rest =>
    if start < next && cs.contains c then (start, next - 1) :: stretches cs next d rest
    else stretches cs next d rest

/-- The characters whose category is one of those given. -/
def ofCategories (cs : List Category) : CharSet :=
  let kept := diff (ofRanges (stretches cs 0 .cn Category.runs)) (union (ofRanges Text.laterChars) (single 'ʕ'))
  let unassigned := if cs.contains .cn then ofRanges Text.laterChars else none
  let lower := if cs.contains .ll then single 'ʕ' else none
  unions [kept, unassigned, lower]

/-- All characters that have been assigned. -/
def assigned : CharSet := compl (ofCategories [.cn])

/-- White space. -/
def blank : CharSet := ofRanges Text.blanks

/-- Digits of a decimal system. -/
def decimal : CharSet := ofCategories [.nd]

end CharSet
end PathRouter
