import PathRouter.Number.Binary64
import PathRouter.Regex.Reader
/-!
# Conditions on the fields of a span

A directive may ask for a field of a span, by its name alone or with a value: a truth value, a number, or else a pattern
that the value must match.  A text is read as the first of these that it can be.
-/
namespace PathRouter

/-- What the value of a field must be. -/
inductive FieldValue where
  | bool (b : Bool)
  | unsigned (n : Nat)
  | signed (n : Int)
  | float (x : Binary64)
  | infinite (negative : Bool)
  | notANumber
  | pattern (text : List Char)
deriving Repr, DecidableEq

namespace FieldValue

def text : FieldValue → String
  | .bool b => if b then "true" else "false"
  | .unsigned n => toString n
  | .signed n => toString n
  | .float x => x.plainText
  | .infinite negative => if negative then "-inf" else "inf"
  | .notANumber => "NaN"
  | .pattern text => String.ofList text

/-! ## Reading -/

/-- The number of decimal digits; none if there are none or another character is among them. -/
def digits? (s : List Char) : Option Nat :=
  if s.isEmpty || !s.all Char.isDigit then none
  else some (s.foldl (fun n c => n * 10 + (c.toNat - 48)) 0)

/-- Cuts off a sign. -/
def sign : List Char → Bool × List Char
  | '-' :: s => (true, s)
  | '+' :: s => (false, s)
  | s => (false, s)

/-- Digits with or without a plus, below 2⁶⁴. -/
def unsigned? (s : List Char) : Option Nat :=
  match s with
  | '-' :: _ => none
  | _ => (digits? (sign s).2).filter (· < Nat.pow 2 64)

/-- Digits with or without a sign, from −2⁶³ and below 2⁶³. -/
def signed? (s : List Char) : Option Int :=
  let (negative, ds) := sign s
  ((digits? ds).map (fun n => if negative then -(n : Int) else n)).filter
    (fun n => -(Nat.pow 2 63 : Int) ≤ n && n < Nat.pow 2 63)

/-- The number of decimal digits, zero if there are none. -/
def digitsOrNone? (s : List Char) : Option Nat :=
  if s.isEmpty then some 0 else digits? s

/-- A number with a fraction or an exponent, `inf`, `infinity` or `nan`, in any case.  There must be a digit before or
after the point, and a number beyond the largest is infinite. -/
def float? (s : List Char) : Option FieldValue :=
  let (negative, s) := sign s
  match String.ofList (Text.lowerAscii s) with
  | "inf" | "infinity" => some (.infinite negative)
  | "nan" => some .notANumber
  | _ => do
    let (front, exponent) := s.span (fun c => c != 'e' && c != 'E')
    let (whole, fraction) := front.span (· != '.')
    let fraction := fraction.drop 1
    let down ← match exponent with
      | [] => some (0 : Int)
      | _ :: e =>
        let (down, ds) := sign e
        (digits? ds).map (fun n => if down then -(n : Int) else n)
    let w ← digitsOrNone? whole
    let f ← digitsOrNone? fraction
    if whole.isEmpty && fraction.isEmpty then none
    else
      match Binary64.ofDecimal? negative (w * Nat.pow 10 fraction.length + f) (down - fraction.length) with
      | some x => some (.float x)
      | none => some (.infinite negative)

/-- Whether a pattern looks at word boundaries that go beyond ASCII, which conditions do not support. -/
def looksAtWords : Regex → Bool
  | .empty | .one _ => false
  | .assert a =>
    match a with
    | .wordBoundary | .notWordBoundary | .wordStart | .wordEnd | .wordStartHalf | .wordEndHalf => true
    | _ => false
  | .cat r s | .alt r s => looksAtWords r || looksAtWords s
  | .plus r _ | .star r _ | .group _ _ r => looksAtWords r

def pattern? (s : List Char) : Option FieldValue :=
  ((Regex.parse? (String.ofList s)).filter (fun r => !looksAtWords r)).map (fun _ => .pattern s)

/-- Reads a value; none if the text is nothing else and no pattern either. -/
def ofText? (s : List Char) : Option FieldValue :=
  if s = "true".toList then some (.bool true)
  else if s = "false".toList then some (.bool false)
  else ((unsigned? s).map .unsigned).or (((signed? s).map .signed).or ((float? s).or (pattern? s)))

/-! ## Order -/

/-- The kind of a value as a number: values of different kinds are in the order of their kinds. -/
def kind : FieldValue → Nat
  | .bool _ => 0
  | .float _ | .infinite _ => 1
  | .notANumber => 2
  | .signed _ => 3
  | .unsigned _ => 4
  | .pattern _ => 5

/-- The place of a value among those of its kind, patterns apart. -/
def place : FieldValue → Int
  | .bool b => if b then 1 else 0
  | .float x => x.place
  | .infinite negative => if negative then -Binary64.infinitePlace else Binary64.infinitePlace
  | .signed n => n
  | .unsigned n => n
  | .notANumber | .pattern _ => 0

/-- What decides between patterns. -/
def patternText : FieldValue → String
  | .pattern text => String.ofList text
  | _ => ""

def order (v w : FieldValue) : Ordering :=
  (compare v.kind w.kind).then ((compare v.place w.place).then (compare v.patternText w.patternText))

end FieldValue

/-- A field that a span must have, and what its value must be. -/
structure FieldCondition where
  name : List Char
  value : Option FieldValue
deriving Repr, DecidableEq

namespace FieldCondition

/-- Reads a name, or a name and a value after `=`; what a second `=` separates is passed over. -/
def ofText? (s : List Char) : Option FieldCondition :=
  match s.splitOn '=' with
  | name :: value :: _ => (FieldValue.ofText? value).map (fun v => ⟨name, some v⟩)
  | name :: [] => some ⟨name, none⟩
  | [] => none

def text (c : FieldCondition) : String :=
  String.ofList c.name ++ match c.value with
    | none => ""
    | some v => "=" ++ v.text

/-- A condition with a value is greater than one without. -/
def order (c d : FieldCondition) : Ordering :=
  (compare c.value.isSome d.value.isSome).then
    ((compare (String.ofList c.name) (String.ofList d.name)).then
      (match c.value, d.value with
      | some v, some w => v.order w
      | _, _ => .eq))

end FieldCondition
end PathRouter
