import PathRouter.Text.CharClass
/-!
# Two editions of the character standard

Patterns classify characters by edition 16 of the Unicode standard, all else by edition 17.  Going back one edition is
simple: a character that edition 17 added is unassigned, and of the others only `ʕ` changed its category.
-/
namespace PathRouter.Text

/-- Characters that edition 17 added. -/
def laterChars : List (Nat × Nat) := [
  (2191, 2191), (3164, 3164), (3292, 3292), (6863, 6877), (6880, 6891), (8385, 8385), (11158, 11158), (42958, 42959),
  (42962, 42962), (42964, 42964), (42993, 42993), (64451, 64466), (64912, 64913), (64968, 64974), (67904, 67929),
  (69317, 69319), (69328, 69336), (69370, 69371), (72544, 72551), (73136, 73179), (73184, 73193), (93856, 93880),
  (93883, 93907), (94194, 94198), (100344, 100351), (101641, 101662), (101760, 101874), (118010, 118012),
  (118458, 118480), (118496, 118512), (124608, 124638), (124640, 124661), (124670, 124671), (128728, 128728),
  (128887, 128890), (129232, 129240), (129620, 129623), (129674, 129674), (129678, 129678), (129736, 129736),
  (129741, 129741), (129770, 129770), (129775, 129775), (130042, 130042), (177978, 177983), (183970, 183981),
  (205744, 210041)]

/-- Whether edition 16 has the character, or leaves its place unassigned as edition 17 does. -/
def isEarlier (c : Char) : Bool :=
  !inRanges c.toNat laterChars

/-- The general category in edition 16. -/
def earlierCategory (c : Char) : Category :=
  if !isEarlier c then .cn else if c == 'ʕ' then .ll else Category.ofChar c

/-- Digits of a decimal system, in any script. -/
def isDecimalDigit (c : Char) : Bool :=
  earlierCategory c == .nd

/-- The two joiners, which only control how their neighbours are drawn. -/
def isJoinControl (c : Char) : Bool :=
  c == '\u200c' || c == '\u200d'

/-- Characters of a word: alphabetic ones, marks, decimal digits, connectors such as `_`, and joiners. -/
def isWordChar (c : Char) : Bool :=
  isEarlier c &&
    (isAlphabetic c || (Category.ofChar c).isMark || isDecimalDigit c || Category.ofChar c == .pc || isJoinControl c)

end PathRouter.Text
