import PathRouter.Text.CharClass
import PathRouter.Text.CaseTable
/-!
# Case conversion and case folding

`lower` and `upper` convert whole texts.  They may change the number of characters, and `lower` looks at the context of
one letter: a capital sigma at the end of a word becomes `ς`, any other `σ`.  Two characters differ in case alone
exactly when `foldChar` agrees on them; `caseOrbits` lists the classes of such characters.
-/
namespace PathRouter.Text

/-- The value of the first run that holds `n`, or `n` itself; runs are in ascending order. -/
def applyRuns (n : Nat) : List CaseRun → Nat
  | [] => n
  | r :: rest =>
    if n < r.first then n
    else if n ≤ r.last && (n - r.first) % r.step == 0 then (n + r.shift).toNat
    else applyRuns n rest

/-! ## Upper case -/

/-- The full upper case of one character. -/
def upperChar (c : Char) : List Char :=
  match longUppers.lookup c.toNat with
  | some us => us.map Char.ofNat
  | none => [Char.ofNat (applyRuns c.toNat upperRuns)]

def upper (s : List Char) : List Char :=
  s.flatMap upperChar

/-! ## Lower case -/

/-- Whether the first character that is not ignorable for case has a case. -/
def casedAhead (s : List Char) : Bool :=
  match s.dropWhile isCaseIgnorable with
  | [] => false
  | c :: _ => isCased c

/-- The lower case of a capital sigma between `before` (read backwards) and `after`. -/
def lowerSigma (before after : List Char) : Char :=
  if casedAhead before && !casedAhead after then 'ς' else 'σ'

/-- The full lower case of one character outside any context; only the dotted capital I gives two characters. -/
def lowerChar (c : Char) : List Char :=
  if c == 'İ' then ['i', '\u0307'] else [Char.ofNat (applyRuns c.toNat lowerRuns)]

/-- Lower case of a text whose earlier part, read backwards, is `before`. -/
def lowerAfter (before : List Char) : List Char → List Char
  | [] => []
  | c :: rest =>
    (if c == 'Σ' then [lowerSigma before rest] else lowerChar c) ++ lowerAfter (c :: before) rest

def lower (s : List Char) : List Char :=
  lowerAfter [] s

/-- Lower case of the letters `A` to `Z` alone. -/
def lowerAscii (s : List Char) : List Char :=
  s.map Char.toLower

/-! ## Case folding -/

/-- The representative of the characters that differ in case alone. -/
def foldChar (c : Char) : Char :=
  Char.ofNat (applyRuns c.toNat foldRuns)

/-- The code points that a run maps. -/
def CaseRun.members (r : CaseRun) : List Nat :=
  (List.range ((r.last - r.first) / r.step + 1)).map (fun i => r.first + i * r.step)

/-- The code points that a run maps, each after its image. -/
def CaseRun.pairs (r : CaseRun) : List (Nat × Nat) :=
  r.members.map (fun (n : Nat) => ((n + r.shift).toNat, n))

/-- The classes of two or more characters that differ in case alone, by code points. -/
def caseOrbits : List (List Nat) :=
  let pairs := (foldRuns.flatMap CaseRun.pairs).mergeSort (fun a b => a.1 ≤ b.1)
  (pairs.splitBy (fun a b => a.1 == b.1)).map (fun g => (g.head?.map Prod.fst).toList ++ g.map Prod.snd)

end PathRouter.Text
