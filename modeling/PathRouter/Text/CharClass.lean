import PathRouter.Text.CategoryTable
import PathRouter.Text.LetterTable
/-!
# Classes of characters

The classes that names, patterns and trimming are defined by.  Each is read off the general category and, where the
category does not decide, off a list of ranges.  Tables are in ascending order, so a search stops at the first entry
past the character: an ASCII character meets only the first entries.

The tables follow edition 17 of the Unicode standard.  Patterns follow the edition before it (`Text.Edition`).
-/
namespace PathRouter.Text

/-- The category of the last run that starts at or below `n`; `c` is the category of the run before the list. -/
def Category.lookup (n : Nat) : Category → List (Nat × Category) → Category
  | c, [] => c
  | c, (start, d) :: rest => if n < start then c else lookup n d rest

def Category.ofChar (c : Char) : Category :=
  Category.lookup c.toNat .cn Category.runs

/-- Whether `n` lies in one of the ranges, which are in ascending order. -/
def inRanges (n : Nat) : List (Nat × Nat) → Bool
  | [] => false
  | (lo, hi) :: rest => if n < lo then false else if n ≤ hi then true else inRanges n rest

/-- Letters, letter numbers, and the other characters that spell words as letters do. -/
def isAlphabetic (c : Char) : Bool :=
  (Category.ofChar c).isLetter || Category.ofChar c == .nl || inRanges c.toNat otherAlphabetic

def isNumeric (c : Char) : Bool :=
  (Category.ofChar c).isNumber

def isAlphanumeric (c : Char) : Bool :=
  isAlphabetic c || isNumeric c

def isBlank (c : Char) : Bool :=
  inRanges c.toNat blanks

/-- Lower-case characters, by category or by use. -/
def isLowercase (c : Char) : Bool :=
  Category.ofChar c == .ll || inRanges c.toNat otherLowercase

/-- Upper-case characters, by category or by use. -/
def isUppercase (c : Char) : Bool :=
  Category.ofChar c == .lu || inRanges c.toNat otherUppercase

/-- Characters that have a case: lower, upper or title. -/
def isCased (c : Char) : Bool :=
  isLowercase c || isUppercase c || Category.ofChar c == .lt

/-- Characters that do not end a word and have no case of their own, such as marks and apostrophes. -/
def isCaseIgnorable (c : Char) : Bool :=
  match Category.ofChar c with
  | .mn | .me | .cf | .lm | .sk => true
  | _ => inRanges c.toNat otherCaseIgnorable

/-! ## Trimming -/

def trimStart (s : List Char) : List Char :=
  s.dropWhile isBlank

def trimEnd (s : List Char) : List Char :=
  (s.reverse.dropWhile isBlank).reverse

def trim (s : List Char) : List Char :=
  trimEnd (trimStart s)

end PathRouter.Text
