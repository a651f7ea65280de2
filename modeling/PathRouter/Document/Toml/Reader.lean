import PathRouter.Document.Toml.Scalar
import PathRouter.Document.Toml.Table
/-!
# Reading TOML documents

Lines hold assignments, headers and comments.  Values nest at most 80 deep, and a key has at most 80 parts.  Line ends
and comments may stand between the items of arrays, and in inline tables anywhere but inside a key; a comma may follow
the last item.
-/
namespace PathRouter.Toml

def maxDepth : Nat := 80

def skipBlank (s : List Char) : List Char :=
  s.dropWhile (fun c => c == ' ' || c == '\t')

/-- Skips a comment after its `#`, up to the line end; none if it has a control character. -/
def comment? : List Char → Option (List Char)
  | [] => some []
  | '\n' :: s => some ('\n' :: s)
  | '\r' :: '\n' :: s => some ('\r' :: '\n' :: s)
  | c :: s => if isControl c then none else comment? s

/-- Skips blanks, line ends and comments. -/
def skipLines? (s : List Char) : Option (List Char) :=
  match s with
  | ' ' :: r | '\t' :: r | '\n' :: r | '\r' :: '\n' :: r => skipLines? r
  | '#' :: r =>
    match comment? r with
    | some r' => if _ : r'.length ≤ r.length then skipLines? r' else none
    | none => none
  | s => some s
termination_by s.length

/-- Skips the end of a line, after an optional comment; none if something else stands there. -/
def lineEnd? (s : List Char) : Option (List Char) := do
  let r ← match skipBlank s with
    | '#' :: r => comment? r
    | r => some r
  match r with
  | [] => some []
  | '\n' :: r | '\r' :: '\n' :: r => some r
  | _ => none

/-! ## Keys -/

def isBareKeyChar (c : Char) : Bool :=
  c.isAlphanum || c == '_' || c == '-'

/-- One part of a key: bare, or in quotes on one line. -/
def keyPart? (s : List Char) : Option (String × List Char) :=
  match s with
  | '"' :: r => (basicString? r).map (fun (k, r) => (String.ofList k, r))
  | '\'' :: r => (literalString? r).map (fun (k, r) => (String.ofList k, r))
  | s =>
    match s.span isBareKeyChar with
    | ([], _) => none
    | (k, r) => some (String.ofList k, r)

/-- A key of at most `count` parts between dots: all parts but the last, the last, and the rest after blanks. -/
def keyParts? : (count : Nat) → List Char → Option (List String × String × List Char)
  | 0, _ => none
  | count + 1, s => do
    let (k, r) ← keyPart? (skipBlank s)
    match skipBlank r with
    | '.' :: r => (keyParts? count r).map (fun (path, last, r) => (k :: path, last, r))
    | r => some ([], k, r)

def key? (s : List Char) : Option (List String × String × List Char) :=
  keyParts? maxDepth s

/-! ## Values -/

mutual

/-- Reads a value; `depth` more levels may open. -/
def value? : (fuel depth : Nat) → List Char → Option (Value × List Char)
  | 0, _, _ => none
  | fuel + 1, depth, s =>
    match s with
    | '"' :: _ | '\'' :: _ => (string? s).map (fun (t, r) => (.text (String.ofList t), r))
    | '[' :: s =>
      match depth with
      | 0 => none
      | depth + 1 => (items? fuel depth s).map (fun (vs, r) => (.array vs, r))
    | '{' :: s =>
      match depth with
      | 0 => none
      | depth + 1 => do
        let (as, r) ← pairs? fuel depth s
        let t ← insertAll as []
        some (.object (members t), r)
    | s =>
      let (w, r) := takeWord s
      (ofWord? w).map (·, r)

/-- Reads the items of an array up to its closing bracket. -/
def items? : (fuel depth : Nat) → List Char → Option (List Value × List Char)
  | 0, _, _ => none
  | fuel + 1, depth, s => do
    match ← skipLines? s with
    | ']' :: r => some ([], r)
    | s =>
      let (v, r) ← value? fuel depth s
      match ← skipLines? r with
      | ',' :: r => (items? fuel depth r).map (fun (vs, r) => (v :: vs, r))
      | ']' :: r => some ([v], r)
      | _ => none

/-- Reads the assignments of an inline table up to its closing brace. -/
def pairs? : (fuel depth : Nat) → List Char → Option (List Assignment × List Char)
  | 0, _, _ => none
  | fuel + 1, depth, s => do
    match ← skipLines? s with
    | '}' :: r => some ([], r)
    | s =>
      let (a, r) ← assignment? skipLines? fuel depth s
      match ← skipLines? r with
      | ',' :: r => (pairs? fuel depth r).map (fun (as, r) => (a :: as, r))
      | '}' :: r => some ([a], r)
      | _ => none

/-- Reads a key, an equals sign and a value; `skip?` skips what may stand around the sign. -/
def assignment? (skip? : List Char → Option (List Char)) : (fuel depth : Nat) → List Char →
    Option (Assignment × List Char)
  | 0, _, _ => none
  | fuel + 1, depth, s => do
    let (path, k, r) ← key? s
    match ← skip? r with
    | '=' :: r =>
      let (v, r) ← value? fuel depth (← skip? r)
      some (⟨path, k, v⟩, r)
    | _ => none

end

/-! ## Documents -/

/-- The header of a line after its opening bracket, and the rest of the line. -/
def header? (s : List Char) : Option (Header × List Char) :=
  match s with
  | '[' :: r => do
    let (path, k, r) ← key? r
    match r with
    | ']' :: ']' :: r => some (⟨path, k, true⟩, r)
    | _ => none
  | r => do
    let (path, k, r) ← key? r
    match r with
    | ']' :: r => some (⟨path, k, false⟩, r)
    | _ => none

/-- Reads lines: the assignments up to the next header, and the sections from there. -/
def lines? : (fuel : Nat) → List Char → Option (List Assignment × List (Header × List Assignment))
  | 0, _ => none
  | fuel + 1, s => do
    match ← skipLines? s with
    | [] => some ([], [])
    | '[' :: r =>
      let (h, r) ← header? r
      let r ← lineEnd? r
      let (as, rest) ← lines? fuel r
      some ([], (h, as) :: rest)
    | s =>
      let (a, r) ← assignment? (some ∘ skipBlank) (2 * s.length + 2) maxDepth s
      let r ← lineEnd? r
      let (as, rest) ← lines? fuel r
      some (a :: as, rest)

/-- The value of a document, after a byte order mark; none if the text is no document. -/
def parse? (s : String) : Option Value := do
  let text := match s.toList with
    | '\ufeff' :: r => r
    | r => r
  let (first, sections) ← lines? (text.length + 1) text
  build first sections

end PathRouter.Toml
