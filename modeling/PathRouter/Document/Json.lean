import PathRouter.Document.Value
/-!
# JSON documents

The strict grammar: no comments, no trailing commas, control characters escaped, surrogates in pairs.  The last of
several members with one key stays, and objects and arrays nest at most 127 deep.

An integer that fits 64 bits, signed or unsigned, stays an integer.  Any other number is floating-point and is read from
its first digits that fit 64 bits, scaled by powers of ten that are themselves rounded; a number beyond the largest is
refused.
-/
namespace PathRouter.Json

def maxDepth : Nat := 127

def skipBlank (s : List Char) : List Char :=
  s.dropWhile (fun c => c == ' ' || c == '\n' || c == '\t' || c == '\r')

/-- The rest after a word that the text must start with. -/
def afterWord? : (word s : List Char) → Option (List Char)
  | [], s => some s
  | w :: ws, c :: s => if w == c then afterWord? ws s else none
  | _ :: _, [] => none

/-! ## Strings -/

def hexDigit? (c : Char) : Option Nat :=
  if '0' ≤ c ∧ c ≤ '9' then some (c.toNat - 48)
  else if 'a' ≤ c ∧ c ≤ 'f' then some (c.toNat - 87)
  else if 'A' ≤ c ∧ c ≤ 'F' then some (c.toNat - 55)
  else none

/-- Four hexadecimal digits as a number. -/
def unit? (a b c d : Char) : Option Nat :=
  [a, b, c, d].foldlM (fun n x => (hexDigit? x).map (n * 16 + ·)) 0

/-- The character of one or two escaped units, and what remains after them. -/
def charOfUnits? (a b c d : Char) (s : List Char) : Option (Char × List Char) := do
  let n ← unit? a b c d
  if 0xD800 ≤ n ∧ n < 0xDC00 then
    match s with
    | '\\' :: 'u' :: a :: b :: c :: d :: s => do
      let m ← unit? a b c d
      if 0xDC00 ≤ m ∧ m < 0xE000 then
        some (Char.ofNat (0x10000 + (n - 0xD800) * 0x400 + (m - 0xDC00)), s)
      else none
    | _ => none
  else if 0xDC00 ≤ n ∧ n < 0xE000 then none
  else some (Char.ofNat n, s)

def simpleEscape? : Char → Option Char
  | '"' => some '"'
  | '\\' => some '\\'
  | '/' => some '/'
  | 'b' => some '\x08'
  | 'f' => some '\x0c'
  | 'n' => some '\n'
  | 'r' => some '\r'
  | 't' => some '\t'
  | _ => none

/-- The rest of a string after its opening quote. -/
def string? (s : List Char) : Option (List Char × List Char) :=
  match s with
  | [] => none
  | '"' :: s => some ([], s)
  | '\\' :: 'u' :: a :: b :: c :: d :: t =>
    match charOfUnits? a b c d t with
    | some (x, r) => if _ : r.length ≤ t.length then (string? r).map (fun (t, r) => (x :: t, r)) else none
    | none => none
  | '\\' :: e :: s => do
    let x ← simpleEscape? e
    let (t, r) ← string? s
    some (x :: t, r)
  | c :: s => if c.toNat < 32 then none else (string? s).map (fun (t, r) => (c :: t, r))
termination_by s.length

/-! ## Numbers -/

def wordLimit : Nat := Nat.pow 2 64

/-- `10 ^ n`, rounded. -/
def powerOfTen? (n : Nat) : Option Binary64 :=
  Binary64.ofDecimal? false 1 n

/-- `f / 10 ^ n`, with at most `steps` divisions by `10 ^ 308` before the last one. -/
def scaleDownBy (f : Binary64) (n : Nat) : (steps : Nat) → Option Binary64
  | 0 => (powerOfTen? n).bind f.div?
  | steps + 1 =>
    if n ≤ 308 then (powerOfTen? n).bind f.div?
    else if f.isZero then some f
    else ((powerOfTen? 308).bind f.div?).bind (fun g => scaleDownBy g (n - 308) steps)

/-- `f / 10 ^ n`; beyond `10 ^ 308` in steps of `10 ^ 308`. -/
def scaleDown (f : Binary64) (n : Nat) : Option Binary64 :=
  scaleDownBy f n (n / 308)

/-- `f · 10 ^ n`; there is no power beyond `10 ^ 308`. -/
def scaleUp (f : Binary64) (n : Nat) : Option Binary64 :=
  if n ≤ 308 then (powerOfTen? n).bind f.mul?
  else if f.isZero then some f
  else none

/-- The floating-point number of a sign, leading digits and a power of ten. -/
def float (negative : Bool) (significand : Nat) (exponent : Int) : Option Value := do
  let f ← Binary64.ofDecimal? false significand 0
  let g ← if 0 ≤ exponent then scaleUp f exponent.toNat else scaleDown f (-exponent).toNat
  some (.float { g with negative })

/-- The digits at the start of a text, and the rest. -/
def digits (s : List Char) : List Char × List Char :=
  s.span Char.isDigit

def digitValue (c : Char) : Nat := c.toNat - 48

/-- Takes up digits while the number fits 64 bits; gives the number and the digits that were left out. -/
def takeUp (n : Nat) : List Char → Nat × List Char
  | [] => (n, [])
  | c :: ds => if n * 10 + digitValue c < wordLimit then takeUp (n * 10 + digitValue c) ds else (n, c :: ds)

/-- Reads an exponent, if there is one, and makes the number. -/
def withExponent (negative : Bool) (significand : Nat) (exponent : Int) (s : List Char) : Option (Value × List Char) :=
  let read (down : Bool) (s : List Char) : Option (Value × List Char) :=
    match digits s with
    | ([], _) => none
    | (ds, r) =>
      let e := ds.foldl (fun n c => n * 10 + digitValue c) 0
      if e < Nat.pow 2 31 then
        (float negative significand (if down then exponent - e else exponent + e)).map (·, r)
      else if significand ≠ 0 ∧ !down then none
      else some (.float (Binary64.zero negative), r)
  match s with
  | 'e' :: '+' :: s | 'E' :: '+' :: s => read false s
  | 'e' :: '-' :: s | 'E' :: '-' :: s => read true s
  | 'e' :: s | 'E' :: s => read false s
  | s => (float negative significand exponent).map (·, s)

/-- Reads what follows the integer digits.  `skipped` counts integer digits that no longer fitted. -/
def fraction (negative : Bool) (significand : Nat) (skipped : Nat) (s : List Char) : Option (Value × List Char) :=
  match s with
  | '.' :: s =>
    match digits s with
    | ([], _) => none
    | (ds, r) =>
      let (n, left) := takeUp significand ds
      withExponent negative n (skipped - (ds.length - left.length : Nat)) r
  | 'e' :: _ | 'E' :: _ => withExponent negative significand skipped s
  | s =>
    if skipped ≠ 0 then (float negative significand skipped).map (·, s)
    else if !negative then some (.int significand, s)
    else if significand = 0 ∨ Nat.pow 2 63 < significand then (float true significand 0).map (·, s)
    else some (.int (-significand), s)

/-- A number without its sign: one zero, or digits that do not start with one. -/
def number? (negative : Bool) (s : List Char) : Option (Value × List Char) :=
  match digits s with
  | ([], _) => none
  | ('0' :: _ :: _, _) => none
  | (ds, r) =>
    let (n, left) := takeUp 0 ds
    fraction negative n left.length r

/-! ## Values -/

mutual

/-- Reads a value; `depth` more levels may open. -/
def value? : (fuel depth : Nat) → List Char → Option (Value × List Char)
  | 0, _, _ => none
  | fuel + 1, depth, s =>
    match skipBlank s with
    | '"' :: s => (string? s).map (fun (t, r) => (.text (String.ofList t), r))
    | '[' :: s =>
      match depth with
      | 0 => none
      | depth + 1 =>
        match skipBlank s with
        | ']' :: s => some (.array [], s)
        | s => (items? fuel depth s).map (fun (xs, r) => (.array xs, r))
    | '{' :: s =>
      match depth with
      | 0 => none
      | depth + 1 =>
        match skipBlank s with
        | '}' :: s => some (.object [], s)
        | s => (members? fuel depth s).map (fun (ms, r) => (Value.ofMembers ms, r))
    | '-' :: s => number? true s
    | 't' :: s => (afterWord? ['r', 'u', 'e'] s).map (.bool true, ·)
    | 'f' :: s => (afterWord? ['a', 'l', 's', 'e'] s).map (.bool false, ·)
    | 'n' :: s => (afterWord? ['u', 'l', 'l'] s).map (.null, ·)
    | s => number? false s

/-- Reads the items of an array that is not empty, and its closing bracket. -/
def items? : (fuel depth : Nat) → List Char → Option (List Value × List Char)
  | 0, _, _ => none
  | fuel + 1, depth, s => do
    let (v, r) ← value? fuel depth s
    match skipBlank r with
    | ',' :: r => (items? fuel depth r).map (fun (vs, r) => (v :: vs, r))
    | ']' :: r => some ([v], r)
    | _ => none

/-- Reads the members of an object that is not empty, and its closing brace. -/
def members? : (fuel depth : Nat) → List Char → Option (List (String × Value) × List Char)
  | 0, _, _ => none
  | fuel + 1, depth, s =>
    match skipBlank s with
    | '"' :: s => do
      let (k, r) ← string? s
      match skipBlank r with
      | ':' :: r => do
        let (v, r) ← value? fuel depth r
        match skipBlank r with
        | ',' :: r => (members? fuel depth r).map (fun (ms, r) => ((String.ofList k, v) :: ms, r))
        | '}' :: r => some ([(String.ofList k, v)], r)
        | _ => none
      | _ => none
    | _ => none

end

/-- The value of a document; none if the text is no document. -/
def parse? (s : String) : Option Value :=
  match value? (2 * s.toList.length + 2) maxDepth s.toList with
  | some (v, r) => if skipBlank r = [] then some v else none
  | none => none

end PathRouter.Json
