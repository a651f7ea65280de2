import PathRouter.Text.CharClass
/-!
# Text in quotes

`quote` writes a text between double quotes so that every character of it can be seen: quotes, backslashes, line ends
and characters without a shape of their own are escaped, and all else stands for itself.
-/
namespace PathRouter.Text

/-- Characters that are drawn together with the one before them.  The two half-width voicing marks, which extend a
letter too, have a width of their own. -/
def isExtender (c : Char) : Bool :=
  match Category.ofChar c with
  | .mn | .me => true
  | _ => inRanges c.toNat otherExtenders && c != 'ﾞ' && c != 'ﾟ'

/-- Letters that fill a place in a syllable and are not drawn. -/
def isFiller (c : Char) : Bool :=
  c == '\u115f' || c == '\u1160' || c == '\u3164' || c == '\uffa0'

/-- Characters that show when they are printed: the space, and all that are no control, separator or unassigned
character. -/
def isVisible (c : Char) : Bool :=
  match Category.ofChar c with
  | .cc | .cf | .cs | .co | .cn | .zl | .zp => false
  | .zs => c == ' '
  | _ => true

/-- The escape of a character by its number: `\u` and the number in braces, in hexadecimal. -/
def escapeNumber (c : Char) : List Char :=
  '\\' :: 'u' :: '\x7b' :: Nat.toDigits 16 c.toNat ++ ['\x7d']

/-- A character as it stands between quotes. -/
def quoteChar (c : Char) : List Char :=
  if c == '\x00' then ['\\', '0']
  else if c == '\t' then ['\\', 't']
  else if c == '\n' then ['\\', 'n']
  else if c == '\r' then ['\\', 'r']
  else if c == '\\' || c == '"' then ['\\', c]
  else if isVisible c && !isExtender c && !isFiller c then [c]
  else escapeNumber c

def quote (s : List Char) : List Char :=
  '"' :: s.flatMap quoteChar ++ ['"']

end PathRouter.Text
