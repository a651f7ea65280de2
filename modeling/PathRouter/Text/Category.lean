/-!
# General categories of characters

Every character has exactly one general category; a major class (letters, marks, numbers, …) is a union of categories.
The constructors carry the two-letter abbreviations under which the categories are known.
-/
namespace PathRouter.Text

/-- The general category of a character, by its usual abbreviation. -/
inductive Category where
  | lu | ll | lt | lm | lo | mn | mc | me | nd | nl | no | pc | pd | ps | pe
  | pi | pf | po | sm | sc | sk | so | zs | zl | zp | cc | cf | cs | co | cn
deriving Repr, DecidableEq

namespace Category

/-- Letters of any case or of none. -/
def isLetter : Category → Bool
  | lu | ll | lt | lm | lo => true
  | _ => false

/-- Marks that attach to a letter before them. -/
def isMark : Category → Bool
  | mn | mc | me => true
  | _ => false

/-- Decimal digits, letter numbers and all other numbers. -/
def isNumber : Category → Bool
  | nd | nl | no => true
  | _ => false

end Category
end PathRouter.Text
