import PathRouter.Regex.Flags
import PathRouter.Regex.Property
/-!
# Escapes

What a backslash introduces: a literal character, a class, or an assertion.  Letters and digits without a meaning are
refused, so that they may get one; any other ASCII character stands for itself.
-/
namespace PathRouter.Regex

/-- What an escape stands for. -/
inductive Atom where
  | literal (c : Char)
  | set (s : CharSet)
  | assertion (a : Assertion)
deriving Repr, DecidableEq

/-! ## Characters by number -/

def hexDigit? (c : Char) : Option Nat :=
  if '0' ≤ c ∧ c ≤ '9' then some (c.toNat - 48)
  else if 'a' ≤ c ∧ c ≤ 'f' then some (c.toNat - 87)
  else if 'A' ≤ c ∧ c ≤ 'F' then some (c.toNat - 55)
  else none

/-- The character whose number the hexadecimal digits write. -/
def charOfHex? (ds : List Char) : Option Char := do
  let n ← ds.foldlM (fun n c => (hexDigit? c).map (n * 16 + ·)) 0
  if ds.isEmpty then none else if n.isValidChar then some (Char.ofNat n) else none

/-- The text up to `}`, less what `spacing` skips, and the rest after it. -/
def readBraced (spacing inComment : Bool) : List Char → Option (List Char × List Char)
  | [] => none
  | c :: s =>
    if inComment then readBraced spacing (c != '\n') s
    else if spacing && Text.isBlank c then readBraced spacing false s
    else if spacing && c == '#' then readBraced spacing true s
    else if c == '}' then some ([], s)
    else (readBraced spacing false s).map (fun (t, r) => (c :: t, r))

/-- Exactly `n` characters, less what is skipped before each. -/
def readExactly (fl : Flags) : Nat → List Char → Option (List Char × List Char)
  | 0, s => some ([], s)
  | n + 1, s =>
    match fl.skip s with
    | [] => none
    | c :: r => (readExactly fl n r).map (fun (t, r) => (c :: t, r))

/-- A character by number: in braces, or in exactly `n` digits.  Without Unicode two digits write a byte, and only an
ASCII byte is a character. -/
def readHex (fl : Flags) (n : Nat) (s : List Char) : Option (Atom × List Char) := do
  match fl.skip s with
  | '{' :: r =>
    let (ds, r) ← readBraced fl.spacing false r
    let c ← charOfHex? ds
    some (.literal c, r)
  | r =>
    let (ds, r) ← readExactly fl n r
    let c ← charOfHex? ds
    if n == 2 && !fl.unicode && 128 ≤ c.toNat then none else some (.literal c, r)

/-! ## Classes -/

/-- The class of `d`, `s` or `w`; without Unicode its ASCII members, and then no complement. -/
def letterClass (fl : Flags) (letter : Char) (negated : Bool) : Option CharSet :=
  if fl.unicode then
    let k := if letter == 'd' then CharSet.decimal else if letter == 's' then CharSet.blank else CharSet.word
    some (.negateIf negated k)
  else if negated then none
  else CharSet.asciiClass? (if letter == 'd' then "digit" else if letter == 's' then "space" else "word")

/-- A property, by one letter or by a text in braces. -/
def readProperty (fl : Flags) (negated : Bool) (s : List Char) : Option (Atom × List Char) := do
  let (name, r) ←
    match fl.skip s with
    | '{' :: r => readBraced fl.spacing false r
    | '\\' :: _ => none
    | c :: r => some ([c], r)
    | [] => none
  if fl.unicode then
    let (outside, set) ← CharSet.ofPropertyText? name
    some (.set (.negateIf (negated != outside) (fl.fold set)), r)
  else none

/-! ## Word boundaries -/

def boundary (fl : Flags) (wide ascii : Assertion) : Atom :=
  .assertion (if fl.unicode then wide else ascii)

/-- A boundary, which a name in braces can narrow to the start or the end of a word.  Braces that do not begin with a
letter or a hyphen belong to a repetition and are left. -/
def readBoundary (fl : Flags) (s : List Char) : Option (Atom × List Char) :=
  let plain := (boundary fl .wordBoundary .asciiBoundary, s)
  match s with
  | '{' :: r =>
    match fl.skip r with
    | [] => none
    | c :: _ =>
      if c.isAlpha || c == '-' then
        match readBraced fl.spacing false r with
        | none => none
        | some (name, r) =>
          match String.ofList name with
          | "start" => some (boundary fl .wordStart .asciiStart, r)
          | "end" => some (boundary fl .wordEnd .asciiEnd, r)
          | "start-half" => some (boundary fl .wordStartHalf .asciiStartHalf, r)
          | "end-half" => some (boundary fl .wordEndHalf .asciiEndHalf, r)
          | _ => none
      else some plain
  | _ => some plain

/-! ## Escapes -/

/-- Reads what follows a backslash. -/
def readEscape (fl : Flags) : List Char → Option (Atom × List Char)
  | [] => none
  | c :: s =>
    match c with
    | 'x' => readHex fl 2 s
    | 'u' => readHex fl 4 s
    | 'U' => readHex fl 8 s
    | 'p' => readProperty fl false s
    | 'P' => readProperty fl true s
    | 'd' | 's' | 'w' => (letterClass fl c false).map (fun k => (.set k, s))
    | 'D' | 'S' | 'W' => (letterClass fl c.toLower true).map (fun k => (.set k, s))
    | 'a' => some (.literal '\x07', s)
    | 'f' => some (.literal '\x0c', s)
    | 't' => some (.literal '\t', s)
    | 'n' => some (.literal '\n', s)
    | 'r' => some (.literal '\r', s)
    | 'v' => some (.literal '\x0b', s)
    | 'A' => some (.assertion .textStart, s)
    | 'z' => some (.assertion .textEnd, s)
    | 'b' => readBoundary fl s
    | 'B' => some (boundary fl .notWordBoundary .notAsciiBoundary, s)
    | '<' => some (boundary fl .wordStart .asciiStart, s)
    | '>' => some (boundary fl .wordEnd .asciiEnd, s)
    | _ => if c.toNat < 128 && !c.isAlphanum then some (.literal c, s) else none

end PathRouter.Regex
