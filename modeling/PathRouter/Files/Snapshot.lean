import PathRouter.Dict
import PathRouter.Files.Path
import PathRouter.Text.Bytes
/-!
# Files

A snapshot holds the tree of files and directories as a value; an operation that writes gives the next snapshot.  A path
is walked part by part, from the root if it starts with a slash and from the working directory if not, and every part that
another one follows has to lead to a directory.

A file may be kept from writing, and so may a directory, in which nothing can be made then.  All else that a process may be
kept from is left out, and so are links and files that are no bytes.
-/
namespace PathRouter

/-- Why a file cannot be read or written. -/
inductive FileFault where
  | notFound
  | notADirectory
  | isADirectory
  | nameTooLong
  | notText
  | nulInName
  | denied
deriving Repr, DecidableEq

def FileFault.message : FileFault → String
  | .notFound => "No such file or directory (os error 2)"
  | .notADirectory => "Not a directory (os error 20)"
  | .isADirectory => "Is a directory (os error 21)"
  | .nameTooLong => "File name too long (os error 36)"
  | .notText => "stream did not contain valid UTF-8"
  | .nulInName => "file name contained an unexpected NUL byte"
  | .denied => "Permission denied (os error 13)"

/-- What stands under a name. -/
inductive FileEntry where
  | directory
  | file (content : List UInt8)
deriving Repr, DecidableEq

/-- A place in the tree: the names that lead to it from the root, innermost first. -/
abbrev Place := List String

/-- The tree of files and directories, under the paths that name them from the root without detours, and where in it the
process works.  If nothing else is said, this is in an empty directory. -/
structure Snapshot where
  entries : Dict FileEntry := Dict.ofList [("work", .directory)]
  workingDirectory : String := "/work"
  /-- The keys of what the process may not write. -/
  readOnly : List String := []

namespace Snapshot

/-- The key of the entry at a place. -/
def key (names : Place) : String :=
  "/".intercalate names.reverse

/-- What stands at a place.  The root is a directory. -/
def at? (s : Snapshot) : Place → Option FileEntry
  | [] => some .directory
  | names => s.entries.get? (key names)

/-- The longest name that a directory can hold, in bytes. -/
def longestName : Nat := 255

/-- One part of a path, walked from a place; the place that it leads to may hold nothing.  Above the root is the root. -/
def enter (s : Snapshot) (place : Place) (part : List Char) : Except FileFault Place :=
  match s.at? place with
  | none => .error .notFound
  | some (.file _) => .error .notADirectory
  | some .directory =>
    if FilePath.isStill part then .ok place
    else if part = ['.', '.'] then .ok place.tail
    else if (String.ofList part).utf8ByteSize > longestName then .error .nameTooLong
    else .ok (String.ofList part :: place)

/-- The place of the working directory, if it is there. -/
def home? (s : Snapshot) : Option Place :=
  match (FilePath.ofText s.workingDirectory).parts.foldlM s.enter [] with
  | .error _ => none
  | .ok place => if s.at? place = some .directory then some place else none

/-- Where the walk of a path begins. -/
def origin (s : Snapshot) (path : FilePath) : Except FileFault Place :=
  if path.start = .root then .ok []
  else
    match s.home? with
    | none => .error .notFound
    | some place => .ok place

/-- The longest path, in bytes. -/
def longestPath : Nat := 4095

/-- Why a path is refused before it is walked, if it is. -/
def refusal? (path : FilePath) : Option FileFault :=
  if path.start = .bare ∧ path.parts = [] then some .notFound
  else if path.parts.any (·.contains '\x00') then some .nulInName
  else if path.text.utf8ByteSize > longestPath then some .nameTooLong
  else none

/-- Where a path leads. -/
def walk (s : Snapshot) (path : FilePath) : Except FileFault Place :=
  match refusal? path with
  | some e => .error e
  | none => (s.origin path).bind (fun place => path.parts.foldlM s.enter place)

/-- What stands at the end of a path. -/
def look (s : Snapshot) (path : FilePath) : Except FileFault FileEntry :=
  match s.walk path with
  | .error e => .error e
  | .ok place =>
    match s.at? place with
    | none => .error .notFound
    | some entry => .ok entry

def isFile (s : Snapshot) (path : FilePath) : Bool :=
  match s.look path with
  | .ok (.file _) => true
  | _ => false

def isDirectory (s : Snapshot) (path : FilePath) : Bool :=
  match s.look path with
  | .ok .directory => true
  | _ => false

def readBytes (s : Snapshot) (path : FilePath) : Except FileFault (List UInt8) :=
  match s.look path with
  | .error e => .error e
  | .ok .directory => .error .isADirectory
  | .ok (.file content) => .ok content

/-- The text of a file. -/
def readText (s : Snapshot) (path : FilePath) : Except FileFault String :=
  match s.readBytes path with
  | .error e => .error e
  | .ok content =>
    match Text.ofBytes? content with
    | none => .error .notText
    | some t => .ok t

theorem isFile_iff {s : Snapshot} {path : FilePath} :
    s.isFile path = true ↔ ∃ content, s.readBytes path = .ok content := by
  unfold isFile readBytes
  cases s.look path with
  | error e => simp
  | ok entry => cases entry <;> simp

theorem readText_of_readBytes {s : Snapshot} {path : FilePath} {content : List UInt8}
    (h : s.readBytes path = .ok content) :
    s.readText path = (Text.ofBytes? content).elim (.error .notText) .ok := by
  simp only [readText, h]
  cases Text.ofBytes? content <;> rfl

/-! ## Searching -/

/-- What a file at a place holds. -/
def fileAt? (s : Snapshot) (place : Place) : Option (List UInt8) :=
  match s.at? place with
  | some (.file content) => some content
  | _ => none

/-- What the nearest file of a name holds: the one in a directory, or else the nearest around the directory. -/
def nearest? (s : Snapshot) (name : String) : Place → Option (List UInt8)
  | [] => s.fileAt? [name]
  | inner :: outer => (s.fileAt? (name :: inner :: outer)).or (s.nearest? name outer)

/-- What the file of a name holds that is nearest to the working directory. -/
def findUp? (s : Snapshot) (name : String) : Option (List UInt8) :=
  s.home?.bind (s.nearest? name)

/-! ## Writing -/

/-- Whether the process may write what stands at a place, or make something there if there is nothing. -/
def mayWrite (s : Snapshot) (place : Place) : Bool :=
  !s.readOnly.contains (key (if (s.at? place).isSome then place else place.tail))

def put (s : Snapshot) (place : Place) (entry : FileEntry) : Snapshot :=
  { s with entries := s.entries.insert (key place) entry }

/-- Enters a part, and makes a directory of its name if there is nothing. -/
def enterOrMake (state : Snapshot × Place) (part : List Char) : Except FileFault (Snapshot × Place) :=
  match state.1.enter state.2 part with
  | .error e => .error e
  | .ok place =>
    match state.1.at? place with
    | some .directory => .ok (state.1, place)
    | some (.file _) => .error .notADirectory
    | none => if state.1.mayWrite place then .ok (state.1.put place .directory, place) else .error .denied

/-- Makes a directory and those on the way to it. -/
def makeDirectories (s : Snapshot) (path : FilePath) : Except FileFault Snapshot :=
  (s.origin path).bind (fun place => (path.parts.foldlM enterOrMake (s, place)).map (·.1))

/-- Whether a path ends with a slash after a name; such a path asks for a directory. -/
def asksForDirectory (path : FilePath) : Bool :=
  path.parts.getLast? == some [] && (path.parts.reverse.dropWhile (· == [])).head?.any
    (fun part => part != ['.'] && part != ['.', '.'])

/-- The place of the file that a path leads to, which may not be there yet but may be written. -/
def target (s : Snapshot) (path : FilePath) : Except FileFault Place :=
  match refusal? path with
  | some e => .error e
  | none =>
    if asksForDirectory path then
      match s.walk { path with parts := (path.parts.reverse.dropWhile (· == [])).reverse } with
      | .error e => .error e
      | .ok _ => .error .isADirectory
    else
      match s.walk path with
      | .error e => .error e
      | .ok place =>
        if s.at? place = some .directory then .error .isADirectory
        else if s.mayWrite place then .ok place
        else .error .denied

/-- Opens a file for writing at its end, and makes it if there is none. -/
def openForAppend (s : Snapshot) (path : FilePath) : Except FileFault Snapshot :=
  match s.target path with
  | .error e => .error e
  | .ok place => .ok (if (s.at? place).isSome then s else s.put place (.file []))

/-- Writes a whole file. -/
def write (s : Snapshot) (path : FilePath) (content : List UInt8) : Except FileFault Snapshot :=
  (s.target path).map (fun place => s.put place (.file content))

/-- The path of what is below a place, from there. -/
def below? (place : Place) (path : String) : Option String :=
  match place with
  | [] => some path
  | place => ((key place ++ "/").toList.isPrefixOf? path.toList).map String.ofList

/-- The paths of all files below the working directory, from there, in ascending order. -/
def files (s : Snapshot) : List String :=
  match s.home? with
  | none => []
  | some place =>
    s.entries.toList.filterMap (fun (path, entry) =>
      match entry with
      | .file _ => below? place path
      | .directory => none)

end Snapshot
end PathRouter
