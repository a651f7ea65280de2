import PathRouter.Regex.Tree
/-!
# Flags of a pattern

Flags change how the rest of a group is read.  A directive such as `i-s` lists the flags it turns on and, after a
hyphen, those it turns off; no flag may occur twice in it.
-/
namespace PathRouter.Regex

inductive Flag where
  | ignoreCase | multiLine | dotAll | swapGreed | unicode | crlf | spacing
deriving Repr, DecidableEq

def Flag.ofChar? : Char → Option Flag
  | 'i' => some .ignoreCase
  | 'm' => some .multiLine
  | 's' => some .dotAll
  | 'U' => some .swapGreed
  | 'u' => some .unicode
  | 'R' => some .crlf
  | 'x' => some .spacing
  | _ => none

/-- The flags in force at a place of a pattern. -/
structure Flags where
  ignoreCase : Bool := false
  multiLine : Bool := false
  dotAll : Bool := false
  swapGreed : Bool := false
  unicode : Bool := true
  crlf : Bool := false
  spacing : Bool := false
deriving Repr, DecidableEq

namespace Flags

def set (fl : Flags) : Flag × Bool → Flags
  | (.ignoreCase, b) => { fl with ignoreCase := b }
  | (.multiLine, b) => { fl with multiLine := b }
  | (.dotAll, b) => { fl with dotAll := b }
  | (.swapGreed, b) => { fl with swapGreed := b }
  | (.unicode, b) => { fl with unicode := b }
  | (.crlf, b) => { fl with crlf := b }
  | (.spacing, b) => { fl with spacing := b }

def setAll (fl : Flags) (changes : List (Flag × Bool)) : Flags :=
  changes.foldl set fl

/-- Closes a set under case where case is ignored. -/
def fold (fl : Flags) (s : CharSet) : CharSet :=
  if !fl.ignoreCase then s
  else if fl.unicode then s.folded
  else s.foldedAscii

/-- Any character, or any but line ends. -/
def dot (fl : Flags) : Option CharSet :=
  if !fl.unicode then none
  else if fl.dotAll then some .any
  else if fl.crlf then some (CharSet.compl (.union (.single '\r') (.single '\n')))
  else some (CharSet.compl (.single '\n'))

def caret (fl : Flags) : Assertion :=
  if !fl.multiLine then .textStart else if fl.crlf then .lineStartCRLF else .lineStart

def dollar (fl : Flags) : Assertion :=
  if !fl.multiLine then .textEnd else if fl.crlf then .lineEndCRLF else .lineEnd

end Flags

/-- Reads a directive up to the `:` or `)` that ends it and gives the changes, that character and the rest.  `off` says
that a hyphen has been read, `seen` holds the flags read so far. -/
def readFlags (off : Bool) (seen : List Flag) : List Char → Option (List (Flag × Bool) × Char × List Char)
  | [] => none
  | c :: s =>
    if c == ':' || c == ')' then some ([], c, s)
    else if c == '-' then
      if off || s.head? == some ':' || s.head? == some ')' then none else readFlags true seen s
    else
      match Flag.ofChar? c with
      | none => none
      | some f =>
        if seen.contains f then none
        else (readFlags off (f :: seen) s).map (fun (fs, e, r) => ((f, !off) :: fs, e, r))

/-! ## Blanks and comments between the parts of a pattern -/

/-- Skips blanks, and comments from `#` to the end of the line; `inComment` says that one is open. -/
def skipSpace (inComment : Bool) : List Char → List Char
  | [] => []
  | c :: s =>
    if inComment then skipSpace (c != '\n') s
    else if Text.isBlank c then skipSpace false s
    else if c == '#' then skipSpace true s
    else c :: s

/-- Skips what does not count where `spacing` is on. -/
def Flags.skip (fl : Flags) (s : List Char) : List Char :=
  if fl.spacing then skipSpace false s else s

end PathRouter.Regex
