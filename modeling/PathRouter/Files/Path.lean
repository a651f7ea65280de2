/-!
# Paths of files

A path is cut at its slashes.  An empty part and the part `.` say nothing about where the path leads, so the last
component is the last part that is neither; what follows it does not change the name or the parent.  A leading slash and
a leading `.` are kept apart, as `start`, because they remain when every part is gone.
-/
namespace PathRouter

/-- Where a path begins. -/
inductive PathStart where
  /-- With its first part. -/
  | bare
  /-- With a `.` that stands alone or before a slash. -/
  | here
  /-- With a slash. -/
  | root
deriving Repr, DecidableEq

def PathStart.text : PathStart → List Char
  | .bare => []
  | .here => ['.']
  | .root => ['/']

/-- A path: its start, and its other text cut at slashes. -/
structure FilePath where
  start : PathStart
  parts : List (List Char)
deriving Repr, DecidableEq

namespace FilePath

/-- Cuts a text at slashes; the empty text has one empty part. -/
def cut : List Char → List (List Char)
  | [] => [[]]
  | c :: s =>
    if c == '/' then [] :: cut s
    else
      match cut s with
      | [] => [[c]]
      | p :: ps => (c :: p) :: ps

def ofText (s : String) : FilePath :=
  match s.toList with
  | [] => ⟨.bare, []⟩
  | ['.'] => ⟨.here, []⟩
  | '/' :: r => ⟨.root, cut r⟩
  | '.' :: '/' :: r => ⟨.here, cut ('/' :: r)⟩
  | r => ⟨.bare, cut r⟩

def text (p : FilePath) : String :=
  String.ofList (p.start.text ++ ['/'].intercalate p.parts)

/-- Parts that lead nowhere else. -/
def isStill (part : List Char) : Bool :=
  part == [] || part == ['.']

/-- The path without the still parts at its end. -/
def trimmed (p : FilePath) : FilePath :=
  { p with parts := (p.parts.reverse.dropWhile isStill).reverse }

/-- The last component, if it is a name. -/
def name? (p : FilePath) : Option (List Char) :=
  match p.trimmed.parts.getLast? with
  | some part => if part = ['.', '.'] then none else some part
  | none => none

/-- What a name has after its last dot, if something stands before that dot. -/
def extensionOf (name : List Char) : Option (List Char) :=
  match name.reverse.dropWhile (· != '.') with
  | _ :: _ :: _ => some (name.reverse.takeWhile (· != '.')).reverse
  | _ => none

def extension? (p : FilePath) : Option String :=
  (p.name?.bind extensionOf).map String.ofList

/-- The path without its last component; a root, and a path with no component at all, have no parent. -/
def parent? (p : FilePath) : Option FilePath :=
  match p.trimmed.parts with
  | [] => if p.start = .here then some ⟨.bare, []⟩ else none
  | part :: parts => some { p with parts := (part :: parts).dropLast }.trimmed

/-- The path of `name` in a directory; a name that starts with a slash is a path of its own. -/
def join (directory name : String) : FilePath :=
  if name.toList.head? = some '/' then ofText name
  else if directory.isEmpty || directory.toList.getLast? = some '/' then ofText (directory ++ name)
  else ofText (directory ++ "/" ++ name)

end FilePath
end PathRouter
