import PathRouter.Regex.Escape
import PathRouter.Regex.Nesting
/-!
# Bracketed classes

`[…]` lists characters, ranges, classes and nested brackets; `&&`, `--` and `~~` combine what stands on their left with
the items on their right, all with the same binding strength and from left to right.  Brackets that are open are kept on
a stack of levels, so reading is one loop over the text.
-/
namespace PathRouter.Regex

inductive SetOp where
  | inter | diff | symmDiff
deriving Repr, DecidableEq

def SetOp.apply : SetOp → CharSet → CharSet → CharSet
  | .inter => .inter
  | .diff => .diff
  | .symmDiff => .symmDiff

/-- One open bracket: whether it is negated, the left side of an operation that waits for its right side, and the items
read since, last first. -/
structure Level where
  negated : Bool
  pending : Option (SetOp × Nested CharSet)
  items : List (Nested CharSet)
deriving Repr, DecidableEq

namespace Level

def push (l : Level) (s : Nested CharSet) : Level :=
  { l with items := s :: l.items }

/-- The items read so far, joined to the operation that waits for them. -/
def joined (fl : Flags) (l : Level) : Nested CharSet :=
  let right := Nested.beside CharSet.unions l.items.reverse
  match l.pending with
  | none => right
  | some (op, left) => ⟨op.apply (fl.fold left.value) (fl.fold right.value), max left.depth right.depth + 1⟩

/-- Starts the right side of `op`. -/
def combine (fl : Flags) (l : Level) (op : SetOp) : Level :=
  { l with pending := some (op, l.joined fl), items := [] }

/-- The set of the finished bracket; without Unicode there are no complements. -/
def close (fl : Flags) (l : Level) : Option (Nested CharSet) :=
  if l.negated && !fl.unicode then none
  else some (Nested.inside (fun s => .negateIf l.negated (fl.fold s)) (l.joined fl))

end Level

/-- Leading hyphens, which are literal: how many, and the rest. -/
def readHyphens (spacing inComment : Bool) : List Char → Nat × List Char
  | [] => (0, [])
  | c :: s =>
    if inComment then readHyphens spacing (c != '\n') s
    else if spacing && Text.isBlank c then readHyphens spacing false s
    else if spacing && c == '#' then readHyphens spacing true s
    else if c == '-' then let (n, r) := readHyphens spacing false s; (n + 1, r)
    else (0, c :: s)

/-- What follows an opening bracket up to the first ordinary item: a caret, literal hyphens, or else a literal `]`. -/
def readOpening (fl : Flags) (s : List Char) : Level × List Char :=
  let s := fl.skip s
  let (negated, s) := match s with
    | '^' :: r => (true, r)
    | _ => (false, s)
  match readHyphens fl.spacing false s with
  | (0, ']' :: r) => (⟨negated, none, [⟨.single ']', 0⟩]⟩, r)
  | (n, r) => (⟨negated, none, List.replicate n ⟨.single '-', 0⟩⟩, r)

/-- A named class such as `[:alpha:]`, read after its opening bracket, and whether a caret negates it. -/
def readAsciiClass (s : List Char) : Option (Bool × CharSet × List Char) :=
  let body (negated : Bool) (s : List Char) : Option (Bool × CharSet × List Char) :=
    match s.span (· != ':') with
    | (name, ':' :: ']' :: r) => (CharSet.asciiClass? (String.ofList name)).map (negated, ·, r)
    | _ => none
  match s with
  | ':' :: '^' :: r => body true r
  | ':' :: r => body false r
  | _ => none

/-- One character or escape in brackets. -/
def readItem (fl : Flags) : List Char → Option (Atom × List Char)
  | [] => none
  | '\\' :: s => readEscape fl s
  | c :: s => some (.literal c, s)

/-- The set of an item; an assertion is none, and without Unicode only ASCII characters are. -/
def Atom.toSet? (fl : Flags) : Atom → Option CharSet
  | .literal c => if fl.unicode || c.toNat < 128 then some (.single c) else none
  | .set s => some s
  | .assertion _ => none

/-- The character that a hyphen is followed by, blanks skipped.  Where a comment follows, this is its first character
that is no blank: the look ahead does not step over comments. -/
def peek (spacing inComment : Bool) : List Char → Option Char
  | [] => none
  | c :: s =>
    if spacing && Text.isBlank c then peek spacing inComment s
    else if spacing && !inComment && c == '#' then peek spacing true s
    else some c

/-- An item, or a range between two literal characters. -/
def readRange (fl : Flags) (s : List Char) : Option (CharSet × List Char) := do
  let (a, r) ← readItem fl s
  let r := fl.skip r
  match r with
  | '-' :: after =>
    let next := peek fl.spacing false after
    if next == some ']' || next == some '-' then
      let k ← a.toSet? fl
      some (k, r)
    else
      let (b, r) ← readItem fl (fl.skip after)
      match a, b with
      | .literal x, .literal y =>
        if x ≤ y && (fl.unicode || y.toNat < 128) then some (.range x y, r) else none
      | _, _ => none
  | _ =>
    let k ← a.toSet? fl
    some (k, r)

/-- What one part of a bracket leads to: further reading with these open brackets, or the finished class. -/
inductive Progress where
  | more (outer : List Level) (level : Level)
  | done (s : Nested CharSet)

/-- Reads one part: an item, an operator, or a bracket that opens or closes.  `level` is the innermost open bracket and
`outer` are those around it. -/
def readPart (fl : Flags) (outer : List Level) (level : Level) (s : List Char) : Option (Progress × List Char) :=
  match fl.skip s with
  | [] => none
  | '[' :: r =>
    match readAsciiClass r with
    | some (negated, k, r) =>
      if negated && !fl.unicode then none
      else some (.more outer (level.push ⟨.negateIf negated (fl.fold k), 0⟩), r)
    | none => let (inner, r) := readOpening fl r; some (.more (level :: outer) inner, r)
  | ']' :: r =>
    match level.close fl, outer with
    | none, _ => none
    | some k, [] => some (.done k, r)
    | some k, l :: ls => some (.more ls (l.push k), r)
  | '&' :: '&' :: r => some (.more outer (level.combine fl .inter), r)
  | '-' :: '-' :: r => some (.more outer (level.combine fl .diff), r)
  | '~' :: '~' :: r => some (.more outer (level.combine fl .symmDiff), r)
  | t => (readRange fl t).map (fun (k, r) => (.more outer (level.push ⟨k, 0⟩), r))

/-- Reads to the end of the outermost bracket.  Every part takes at least one character. -/
def readLevels (fl : Flags) (outer : List Level) (level : Level) (s : List Char) :
    Option (Nested CharSet × List Char) :=
  match readPart fl outer level s with
  | none => none
  | some (.done k, r) => some (k, r)
  | some (.more outer level, r) => if _ : r.length < s.length then readLevels fl outer level r else none
termination_by s.length

/-- Reads a bracketed class after its opening bracket. -/
def readBracket (fl : Flags) (s : List Char) : Option (Nested CharSet × List Char) :=
  let (level, r) := readOpening fl s
  readLevels fl [] level r

end PathRouter.Regex
