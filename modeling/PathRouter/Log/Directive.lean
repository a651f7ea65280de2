import PathRouter.Log.Condition
import PathRouter.Log.Level
import PathRouter.Text.CharClass
/-!
# Directives of a log filter

A directive sets a threshold for the entries of a target, of a span, or of both:

    threshold
    target
    target=threshold
    target[span]=threshold
    target[span{field=value}]=threshold

All parts but one may be left out; without a threshold every entry passes.  A target may hold any characters but `=` and
`[` once it has begun with a letter, a digit, `-`, `:` or `_`.
-/
namespace PathRouter

/-- What a filter lets through: nothing, or the entries of a level and of those that tell less. -/
inductive LogThreshold where
  | off
  | level (l : LogLevel)
deriving Repr, DecidableEq

namespace LogThreshold

def text : LogThreshold → String
  | .off => "off"
  | .level l => l.name

/-- The threshold of a number from 0 for `off` to 5 for `trace`. -/
def ofNumber? : Nat → Option LogThreshold
  | 0 => some .off
  | 1 => some (.level .error)
  | 2 => some (.level .warn)
  | 3 => some (.level .info)
  | 4 => some (.level .debug)
  | 5 => some (.level .trace)
  | _ => none

/-- Reads a number, a level in any case, or `off`. -/
def ofText? (s : List Char) : Option LogThreshold :=
  ((FieldValue.unsigned? s).bind ofNumber?).or
    (match String.ofList (Text.lowerAscii s) with
    | "off" => some .off
    | name => (LogLevel.ofExactName? name).map .level)

end LogThreshold

/-- A threshold and what it is for.  A span may be asked for without a name, by a field alone. -/
structure LogDirective where
  target : Option (List Char) := none
  span : Option (List Char) := none
  field : Option FieldCondition := none
  threshold : LogThreshold := .level .trace
deriving Repr, DecidableEq

namespace LogDirective

def text (d : LogDirective) : String :=
  let target := String.ofList (d.target.getD [])
  let span :=
    if d.span.isNone && d.field.isNone then ""
    else "[" ++ String.ofList (d.span.getD []) ++
      (match d.field with
      | none => ""
      | some c => "\x7b" ++ c.text ++ "\x7d") ++ "]"
  let named := d.target.isSome || d.span.isSome || d.field.isSome
  target ++ span ++ (if named then "=" else "") ++ d.threshold.text

/-! ## Reading

Parts are found in the text without the blanks around it, and are cut out of the whole text at the same distance from
its start. -/

/-- What follows the first `n` bytes; none if a character stands across them. -/
def dropBytes? : (n : Nat) → List Char → Option (List Char)
  | 0, s => some s
  | _ + 1, [] => some []
  | n + 1, c :: s => if c.utf8Size ≤ n + 1 then dropBytes? (n + 1 - c.utf8Size) s else none
termination_by _ s => s.length

/-- The first `n` bytes; none if they end inside a character. -/
def takeBytes? : (n : Nat) → List Char → Option (List Char)
  | 0, _ => some []
  | _ + 1, [] => some []
  | n + 1, c :: s => if c.utf8Size ≤ n + 1 then (takeBytes? (n + 1 - c.utf8Size) s).map (c :: ·) else none
termination_by _ s => s.length

/-- The bytes from `first` up to `last`. -/
def between? (s : List Char) (first last : Nat) : Option (List Char) :=
  (dropBytes? first s).bind (takeBytes? (last - first))

/-- The first character that `p` accepts, the byte it starts at and what follows it; `start` is the byte the text
starts at. -/
def findFrom? (p : Char → Bool) (start : Nat) : List Char → Option (Nat × Char × List Char)
  | [] => none
  | c :: s => if p c then some (start, c, s) else findFrom? p (start + c.utf8Size) s

/-- Characters that a target may begin with. -/
def isTargetStart (c : Char) : Bool :=
  c == '-' || c == ':' || c == '_' || Text.isAlphanumeric c

/-- The threshold that stands from byte `start` on, if there is one. -/
def readThreshold? (whole : List Char) (start : Nat) : Option LogThreshold := do
  let s ← dropBytes? start whole
  if s.isEmpty then some (.level .trace) else LogThreshold.ofText? s

/-- Reads what follows the bracket of a span. -/
def readEnd? (whole : List Char) (d : LogDirective) (start : Nat) : List Char → Option LogDirective
  | [] => some d
  | '=' :: _ => (readThreshold? whole (start + 1)).map (fun t => { d with threshold := t })
  | _ => none

/-- Reads a span after its opening bracket. -/
def readSpan? (whole : List Char) (target : Option (List Char)) (start : Nat) (s : List Char) :
    Option LogDirective := do
  match ← findFrom? (fun c => c == ']' || c == '{') start s with
  | (i, ']', r) =>
    let span ← between? whole start i
    readEnd? whole { target, span := some span } (i + 1) r
  | (i, _, r) =>
    let span ← between? whole start i
    match ← findFrom? (· == '}') (i + 1) r with
    | (j, _, ']' :: r) =>
      let field ← between? whole (i + 1) j
      if field.isEmpty then none
      else
        let field ← FieldCondition.ofText? field
        readEnd? whole { target, span := if span.isEmpty then none else some span, field := some field } (j + 2) r
    | _ => none

def ofText? (whole : List Char) : Option LogDirective :=
  match Text.trim whole with
  | [] => none
  | '[' :: s => readSpan? whole none 1 s
  | c :: s =>
    if !isTargetStart c then none
    else
      match findFrom? (fun c => c == '=' || c == '[') c.utf8Size s with
      | none =>
        match LogThreshold.ofText? whole with
        | some t => some { threshold := t }
        | none => some { target := some whole }
      | some (i, e, r) =>
        (between? whole 0 i).bind (fun target =>
          if e == '=' then (readThreshold? whole (i + 1)).map (fun t => { target := some target, threshold := t })
          else readSpan? whole (some target) (i + 1) r)

/-! ## Order -/

/-- A length, where a part that is missing is shorter than an empty one. -/
def size : Option (List Char) → Nat
  | none => 0
  | some s => (String.ofList s).utf8ByteSize + 1

/-- Whether a directive depends on the span an entry is in. -/
def isDynamic (d : LogDirective) : Bool :=
  d.span.isSome || d.field.isSome

/-- Compares by what is asked for, the threshold apart: the greater directive asks for more.  It has the longer target,
or else a span where the other has none, or else a field where the other has none; among equals the texts decide. -/
def order (a b : LogDirective) : Ordering :=
  let text (o : Option (List Char)) := String.ofList (o.getD [])
  (compare (size a.target) (size b.target)).then
    ((compare a.span.isSome b.span.isSome).then
      ((compare a.field.isSome b.field.isSome).then
        ((compare (text a.target) (text b.target)).then
          ((compare (text a.span) (text b.span)).then
            (match a.field, b.field with
            | some c, some d => c.order d
            | _, _ => .eq)))))

end LogDirective
end PathRouter
