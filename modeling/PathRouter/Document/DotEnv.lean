import PathRouter.Document.Value
import PathRouter.Environment
import PathRouter.Text.CharClass
/-!
# Files of variable assignments

A `.env` text assigns values to variables, one assignment to a line.  Quotes, escapes and a blank before the end of the
text can carry a line over several physical lines; `logicalLines` puts them together, `line?` reads one of them, and
`expand?` reads a value: quotes, escapes, and `$name` or `${name}`, which stand for a variable of the environment or
else for an earlier assignment of the text.

A text has two uses.  `assignments?` lists what it assigns, and `loadInto?` sets its variables in an environment, where
a variable that is already set keeps its value.
-/
namespace PathRouter.DotEnv

/-! ## Logical lines -/

/-- Where a scan for the end of a line stands. -/
inductive ScanState where
  | complete | escape | blank | weak | weakEscape | strong | strongEscape
deriving Repr, DecidableEq

/-- What a character begins outside quotes. -/
def ScanState.open (c : Char) : ScanState :=
  if c == '\\' then .escape else if c == '"' then .weak else if c == '\'' then .strong else .complete

def ScanState.step : ScanState → Char → ScanState
  | .complete, c => if Text.isBlank c && c != '\n' && c != '\r' then .blank else .open c
  | .blank, c => .open c
  | .escape, _ => .complete
  | .weak, c => if c == '\\' then .weakEscape else if c == '"' then .complete else .weak
  | .weakEscape, _ => .weak
  | .strong, c => if c == '\\' then .strongEscape else if c == '\'' then .complete else .strong
  | .strongEscape, _ => .strong

/-- How the scan of a physical line ends: in a state, or at a comment, with what stands before it. -/
inductive ScanEnd where
  | at (s : ScanState)
  | comment (before : List Char)
deriving Repr, DecidableEq

def scan (st : ScanState) : List Char → ScanEnd
  | [] => .at st
  | c :: s =>
    if st = .blank ∧ c = '#' then .comment []
    else
      match scan (st.step c) s with
      | .comment before => .comment (c :: before)
      | e => e

/-- Cuts a text into physical lines, each with the line feed that ends it. -/
def physicalLines : List Char → List (List Char)
  | [] => []
  | c :: s =>
    if c == '\n' then [c] :: physicalLines s
    else
      match physicalLines s with
      | [] => [[c]]
      | l :: ls => (c :: l) :: ls

/-- Drops the line end of a line. -/
def dropLineEnd (l : List Char) : List Char :=
  match l.reverse with
  | '\n' :: '\r' :: r => r.reverse
  | '\n' :: r => r.reverse
  | _ => l

def isComment (s : List Char) : Bool :=
  s.head? == some '#'

/-- Puts physical lines together.  `buffer` is the line so far and `st` where its scan stands; a text that ends inside a
line has no further lines, which `none` tells. -/
def gather (buffer : List Char) (st : ScanState) : List (List Char) → List (Option (List Char))
  | [] => if st = .complete then [] else [none]
  | p :: rest =>
    if isComment (Text.trimStart (buffer ++ p)) then some [] :: gather [] .complete rest
    else
      match scan st p with
      | .comment before => some (buffer ++ before) :: gather [] .complete rest
      | .at .complete => some (dropLineEnd (buffer ++ p)) :: gather [] .complete rest
      | .at st => gather (buffer ++ p) st rest

def logicalLines (s : List Char) : List (Option (List Char)) :=
  gather [] .complete (physicalLines s)

/-! ## Values -/

/-- A substitution that is being read: none, a bare name, or a name in braces. -/
inductive Naming where
  | none | bare | braced
deriving Repr, DecidableEq

/-- Where the reading of a value stands. -/
structure ValueState where
  output : List Char := []
  strong : Bool := false
  weak : Bool := false
  escaped : Bool := false
  ended : Bool := false
  naming : Naming := .none
  name : List Char := []
deriving Repr, DecidableEq

/-- What a name stands for. -/
def lookup (env : Environment) (known : Dict String) (name : List Char) : List Char :=
  match env.get? (String.ofList name) with
  | some v => v.toList
  | none => ((known.get? (String.ofList name)).getD "").toList

/-- Puts the value of the name that has been read at the end of the output. -/
def ValueState.substitute (env : Environment) (known : Dict String) (st : ValueState) (next : Naming) : ValueState :=
  { st with output := st.output ++ lookup env known st.name, naming := next, name := [] }

def ValueState.emit (st : ValueState) (c : Char) : ValueState :=
  { st with output := st.output ++ [c] }

/-- Takes up one character of a value; none if it has no place there. -/
def ValueState.step (env : Environment) (known : Dict String) (st : ValueState) (c : Char) : Option ValueState :=
  if st.escaped then
    if c == '\\' || c == '\'' || c == '"' || c == '$' || c == ' ' then some { st.emit c with escaped := false }
    else if c == 'n' then some { st.emit '\n' with escaped := false }
    else none
  else if st.strong then some (if c == '\'' then { st with strong := false } else st.emit c)
  else if st.naming ≠ .none then
    if Text.isAlphanumeric c then some { st with name := st.name ++ [c] }
    else if st.naming = .bare then
      if c == '{' && st.name.isEmpty then some { st with naming := .braced }
      else if c == '$' then some (st.substitute env known .bare)
      else some ((st.substitute env known .none).emit c)
    else if c == '}' then some (st.substitute env known .none)
    else some { st with name := st.name ++ [c] }
  else if c == '$' then some { st with naming := .bare }
  else if st.weak then
    some (if c == '"' then { st with weak := false } else if c == '\\' then { st with escaped := true } else st.emit c)
  else if c == '\'' then some { st with strong := true }
  else if c == '"' then some { st with weak := true }
  else if c == '\\' then some { st with escaped := true }
  else if c == ' ' || c == '\t' then some { st with ended := true }
  else some (st.emit c)

/-- Reads the characters of a value.  After an unquoted blank only blanks and a comment may follow. -/
def expandFrom? (env : Environment) (known : Dict String) (st : ValueState) : List Char → Option ValueState
  | [] => some st
  | c :: s =>
    if st.ended then
      if c == ' ' || c == '\t' then expandFrom? env known st s else if c == '#' then some st else none
    else (st.step env known c).bind (fun st => expandFrom? env known st s)

/-- The value that a text writes; none if a quote or a brace is left open or a character has no place. -/
def expand? (env : Environment) (known : Dict String) (s : List Char) : Option String :=
  match expandFrom? env known {} s with
  | none => none
  | some st =>
    if st.naming = .braced ∨ st.strong ∨ st.weak then none
    else some (String.ofList (st.substitute env known .none).output)

/-! ## Assignments -/

def isKeyStart (c : Char) : Bool := c.isAlpha || c == '_'
def isKeyChar (c : Char) : Bool := c.isAlphanum || c == '_' || c == '.'

/-- A key at the start of a text, and the rest after blanks. -/
def key? (s : List Char) : Option (List Char × List Char) :=
  if s.head?.any isKeyStart then some (s.takeWhile isKeyChar, Text.trimStart (s.dropWhile isKeyChar)) else none

/-- The key of an assignment and what follows its equals sign; `export` may stand before the key. -/
def keyAndRest? (s : List Char) : Option (List Char × List Char) :=
  match key? s with
  | none => none
  | some (k, '=' :: r) => some (k, r)
  | some (k, r) =>
    if k = "export".toList then
      match key? r with
      | some (k, '=' :: r) => some (k, r)
      | _ => none
    else none

/-- Reads a logical line: nothing, or an assignment; the outer `none` tells that it is neither. -/
def line? (env : Environment) (known : Dict String) (l : List Char) : Option (Option (String × String)) :=
  let s := Text.trimStart (Text.trimEnd l)
  if s.isEmpty || isComment s then some none
  else
    match keyAndRest? s with
    | none => none
    | some (k, r) =>
      let r := Text.trimStart r
      if r.isEmpty || isComment r then some (some (String.ofList k, ""))
      else (expand? env known r).map (fun v => some (String.ofList k, v))

/-- The assignments of logical lines, in order. -/
def assignmentsOf? (env : Environment) (known : Dict String) :
    List (Option (List Char)) → Option (List (String × String))
  | [] => some []
  | none :: _ => none
  | some l :: rest =>
    match line? env known l with
    | none => none
    | some none => assignmentsOf? env known rest
    | some (some (k, v)) => (assignmentsOf? env (known.insert k v) rest).map ((k, v) :: ·)

/-- What a text assigns, in order. -/
def assignments? (env : Environment) (s : String) : Option (List (String × String)) :=
  assignmentsOf? env ∅ (logicalLines s.toList)

/-- The text as an object; the last assignment of a variable stays. -/
def parse? (env : Environment) (s : String) : Option Value :=
  (assignments? env s).map (fun as => Value.ofMembers (as.map (fun (k, v) => (k, .text v))))

/-- Sets variables that are not set yet, line after line. -/
def loadLines? (env : Environment) (known : Dict String) : List (Option (List Char)) → Option Environment
  | [] => some env
  | none :: _ => none
  | some l :: rest =>
    match line? env known l with
    | none => none
    | some none => loadLines? env known rest
    | some (some (k, v)) =>
      loadLines? (env.setNew k v) (known.insert k v) rest

/-- The environment after a text has set its variables; a byte order mark in front is skipped. -/
def loadInto? (env : Environment) (s : String) : Option Environment :=
  let text := match s.toList with
    | '\ufeff' :: r => r
    | r => r
  loadLines? env ∅ (logicalLines text)

end PathRouter.DotEnv
