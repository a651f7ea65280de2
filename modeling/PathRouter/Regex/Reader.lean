import PathRouter.Regex.Bracket
import PathRouter.Regex.Form
/-!
# Reading a pattern

A pattern is read in one pass, token by token, into a state: the groups that are open, and in the innermost of them the
alternatives that are finished and the parts of the one being read.  A token changes the state in one step
(`ReadState.push`), so what a piece of a pattern does can be said without the pieces around it.
-/
namespace PathRouter.Regex

/-! ## Tokens -/

inductive Token where
  | part (r : Nested Form)
  | repetition (min : Nat) (max : Option Nat) (greedy : Bool)
  | openCapture (name : Option String)
  | openPlain (changes : List (Flag × Bool))
  | setFlags (changes : List (Flag × Bool))
  | close
  | bar
deriving Repr, DecidableEq

/-- A literal character, in either case where case is ignored. -/
def Flags.literal (fl : Flags) (c : Char) : Form :=
  .ofSet (!fl.unicode) (fl.fold (.single c))

def Atom.toForm (fl : Flags) : Atom → Form
  | .literal c => fl.literal c
  | .set s => .ofSet (!fl.unicode) s
  | .assertion a => .assert a

/-! ### Repetition counts -/

/-- Decimal digits, less what `spacing` skips between them, and the rest. -/
def readDigits (spacing inComment : Bool) : List Char → List Char × List Char
  | [] => ([], [])
  | c :: s =>
    if inComment then readDigits spacing (c != '\n') s
    else if c.isDigit then let (ds, r) := readDigits spacing false s; (c :: ds, r)
    else if spacing && Text.isBlank c then readDigits spacing false s
    else if spacing && c == '#' then readDigits spacing true s
    else ([], c :: s)

/-- A count below 2³², with blanks around it. -/
def readCount (fl : Flags) (s : List Char) : Option (Nat × List Char) :=
  match readDigits fl.spacing false (Text.trimStart s) with
  | ([], _) => none
  | (ds, r) =>
    let n := ds.foldl (fun n c => n * 10 + (c.toNat - 48)) 0
    if n < Nat.pow 2 32 then some (n, Text.trimStart r) else none

/-- Whether a question mark reverses the preference of a repetition. -/
def readGreedy (fl : Flags) : List Char → Bool × List Char
  | '?' :: r => (fl.swapGreed, r)
  | r => (!fl.swapGreed, r)

/-- A repetition count after its opening brace: `n`, `n,` or `n,m`. -/
def readCounted (fl : Flags) (s : List Char) : Option (Token × List Char) := do
  let (min, r) ← readCount fl (fl.skip s)
  let (max, r) ←
    match r with
    | ',' :: r =>
      match fl.skip r with
      | '}' :: r => some (none, r)
      | r => do
        let (m, r) ← readCount fl r
        match r with
        | '}' :: r => if min ≤ m then some (some m, r) else none
        | _ => none
    | '}' :: r => some (some min, r)
    | _ => none
  let (greedy, r) := readGreedy fl (fl.skip r)
  some (.repetition min max greedy, r)

/-! ### Groups -/

/-- Characters of a group name: a letter or `_` first, then also numbers, `.`, `[` and `]`. -/
def isGroupNameChar (first : Bool) (c : Char) : Bool :=
  if first then c == '_' || Text.isAlphabetic c
  else c == '_' || c == '.' || c == '[' || c == ']' || Text.isAlphanumeric c

/-- A group name up to `>`, and the rest after it. -/
def readGroupName (first : Bool) : List Char → Option (List Char × List Char)
  | [] => none
  | c :: s =>
    if c == '>' then some ([], s)
    else if isGroupNameChar first c then (readGroupName false s).map (fun (t, r) => (c :: t, r))
    else none

def readNamed (s : List Char) : Option (Token × List Char) :=
  match readGroupName true s with
  | some (n :: ns, r) => some (.openCapture (some (String.ofList (n :: ns))), r)
  | _ => none

/-- What follows an opening parenthesis: a named group, flags, a group that records nothing, or a plain group.
Conditions on the text ahead or behind are not supported. -/
def readOpen (fl : Flags) (s : List Char) : Option (Token × List Char) :=
  match fl.skip s with
  | '?' :: '=' :: _ | '?' :: '!' :: _ | '?' :: '<' :: '=' :: _ | '?' :: '<' :: '!' :: _ => none
  | '?' :: 'P' :: '<' :: r | '?' :: '<' :: r => readNamed r
  | '?' :: r =>
    match readFlags false [] r with
    | none => none
    | some (changes, ')', r) => if changes.isEmpty then none else some (.setFlags changes, r)
    | some (changes, _, r) => some (.openPlain changes, r)
  | r => some (.openCapture none, r)

/-- Reads the token that starts with `c`. -/
def readToken (fl : Flags) (c : Char) (s : List Char) : Option (Token × List Char) :=
  match c with
  | '(' => readOpen fl s
  | ')' => some (.close, s)
  | '|' => some (.bar, s)
  | '[' => (readBracket fl s).map (fun (k, r) => (.part ⟨.ofSet (!fl.unicode) k.value, k.depth⟩, r))
  | '?' => let (g, r) := readGreedy fl s; some (.repetition 0 (some 1) g, r)
  | '*' => let (g, r) := readGreedy fl s; some (.repetition 0 none g, r)
  | '+' => let (g, r) := readGreedy fl s; some (.repetition 1 none g, r)
  | '{' => readCounted fl s
  | '\\' => (readEscape fl s).map (fun (a, r) => (.part ⟨a.toForm fl, 0⟩, r))
  | '.' => fl.dot.map (fun k => (.part ⟨.ofSet (!fl.unicode) k, 0⟩, s))
  | '^' => some (.part ⟨.assert fl.caret, 0⟩, s)
  | '$' => some (.part ⟨.assert fl.dollar, 0⟩, s)
  | _ => some (.part ⟨fl.literal c, 0⟩, s)

/-! ## The state of reading -/

/-- What surrounds an open group: the group itself, and what was read before it on its level. -/
structure Frame where
  group : Option (Nat × Option String)
  flags : Flags
  branches : List (Nested Form)
  parts : List (Nested (Option Form))
deriving Repr, DecidableEq

/-- The state between two tokens.  `branches` are the finished alternatives and `parts` the parts of the current one,
last first; a part that only sets flags is `none`, and nothing can repeat it. -/
structure ReadState where
  flags : Flags := {}
  branches : List (Nested Form) := []
  parts : List (Nested (Option Form)) := []
  outer : List Frame := []
  groupCount : Nat := 0
  names : List String := []
deriving Repr, DecidableEq

namespace ReadState

/-- The alternative that is being read. -/
def current (st : ReadState) : Nested Form :=
  Nested.beside (fun rs => Form.cats (rs.filterMap id)) st.parts.reverse

/-- All alternatives of the innermost open group. -/
def body (st : ReadState) : Nested Form :=
  Nested.beside Form.alts (st.current :: st.branches).reverse

def push (st : ReadState) : Token → Option ReadState
  | .part r => some { st with parts := ⟨some r.value, r.depth⟩ :: st.parts }
  | .repetition min max greedy =>
    match st.parts with
    | ⟨some r, d⟩ :: rest => some { st with parts := ⟨some (r.counted min max greedy), d + 1⟩ :: rest }
    | _ => none
  | .openCapture name =>
    if name.any st.names.contains then none
    else some { st with
      branches := [], parts := [], groupCount := st.groupCount + 1, names := name.toList ++ st.names
      outer := ⟨some (st.groupCount + 1, name), st.flags, st.branches, st.parts⟩ :: st.outer }
  | .openPlain changes =>
    some { st with
      flags := st.flags.setAll changes, branches := [], parts := []
      outer := ⟨none, st.flags, st.branches, st.parts⟩ :: st.outer }
  | .setFlags changes => some { st with flags := st.flags.setAll changes, parts := ⟨none, 0⟩ :: st.parts }
  | .bar => some { st with branches := st.current :: st.branches, parts := [] }
  | .close =>
    match st.outer with
    | [] => none
    | f :: rest =>
      let inner := st.body.inside (fun r =>
        match f.group with
        | some (i, name) => some (.group i name r)
        | none => some r)
      some { st with flags := f.flags, branches := f.branches, parts := inner :: f.parts, outer := rest }

/-- The expression read, if no group is left open and nothing lies too deep. -/
def finish (st : ReadState) : Option Regex :=
  if st.outer.isEmpty && st.body.depth ≤ maxNesting then some st.body.value.toRegex else none

/-- Reads the rest of a pattern.  Every token takes at least one character. -/
def read (st : ReadState) (s : List Char) : Option Regex :=
  match _h : st.flags.skip s with
  | [] => st.finish
  | c :: r =>
    match readToken st.flags c r with
    | none => none
    | some (t, r') =>
      match st.push t with
      | none => none
      | some st' => if _ : r'.length < s.length then read st' r' else none
termination_by s.length

end ReadState

/-- The expression that a pattern writes; none if it is not well formed. -/
def parse? (pattern : String) : Option Regex :=
  ReadState.read {} pattern.toList

end PathRouter.Regex
