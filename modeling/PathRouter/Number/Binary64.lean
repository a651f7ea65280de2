/-!
# Floating-point numbers with 53 significant bits

A number is a sign, a mantissa below 2⁵³ and a power of two not below −1074; the mantissa has its top bit set unless the
power is the lowest.  All arithmetic is exact on natural numbers and rounds once, to the nearest number and on a tie to
the even mantissa, so what a text reads as and how a number is written can be said without a machine's floats.
-/
namespace PathRouter

/-- The number `mantissa · 2 ^ exponent`, with a sign. -/
structure Binary64 where
  negative : Bool
  mantissa : Nat
  exponent : Int
deriving Repr, DecidableEq

namespace Binary64

def lowest : Int := -1074
def highest : Int := 971

def zero (negative : Bool) : Binary64 := ⟨negative, 0, lowest⟩

def isZero (x : Binary64) : Bool := x.mantissa == 0

/-- The quotient rounded to the nearest natural number, a tie to the even one. -/
def roundDiv (num den : Nat) : Nat :=
  let q := num / den
  let twice := 2 * (num % den)
  if twice < den then q else if den < twice then q + 1 else if q % 2 = 0 then q else q + 1

/-- The number of binary digits of `n`. -/
def bits (n : Nat) : Nat := if n = 0 then 0 else n.log2 + 1

/-- The nearest number to `num / den`; none if it is beyond the largest. -/
def ofQuotient? (negative : Bool) (num den : Nat) : Option Binary64 :=
  if num = 0 then some (zero negative)
  else
    -- the quotient has `size` or `size + 1` binary digits before the point
    let size : Int := (bits num : Int) - bits den
    let scaled (e : Int) : Nat :=
      if e < 0 then roundDiv (num * Nat.pow 2 (-e).toNat) den else roundDiv num (den * Nat.pow 2 e.toNat)
    let e0 := max lowest (size - 53)
    let m0 := scaled e0
    let (m, e) := if m0 < Nat.pow 2 53 then (m0, e0) else
      let m1 := scaled (e0 + 1)
      if m1 < Nat.pow 2 53 then (m1, e0 + 1) else (m1 / 2, e0 + 2)
    if highest < e then none else some ⟨negative, m, e⟩

/-- The nearest number to `digits · 10 ^ exponent`; none if it is beyond the largest. -/
def ofDecimal? (negative : Bool) (digits : Nat) (exponent : Int) : Option Binary64 :=
  let size : Int := (toString digits).length
  if digits = 0 ∨ size + exponent < -400 then some (zero negative)
  else if 400 < exponent then none
  else if exponent < 0 then ofQuotient? negative digits (Nat.pow 10 (-exponent).toNat)
  else ofQuotient? negative (digits * Nat.pow 10 exponent.toNat) 1

/-- The magnitude as a quotient. -/
def quotient (x : Binary64) : Nat × Nat :=
  if x.exponent < 0 then (x.mantissa, Nat.pow 2 (-x.exponent).toNat)
  else (x.mantissa * Nat.pow 2 x.exponent.toNat, 1)

/-- The rounded product; none if it is beyond the largest number. -/
def mul? (x y : Binary64) : Option Binary64 :=
  let (a, b) := x.quotient
  let (c, d) := y.quotient
  ofQuotient? (x.negative != y.negative) (a * c) (b * d)

/-- The rounded quotient by a number other than zero; none if it is beyond the largest number. -/
def div? (x y : Binary64) : Option Binary64 :=
  let (a, b) := x.quotient
  let (c, d) := y.quotient
  ofQuotient? (x.negative != y.negative) (a * d) (b * c)

/-! ## Shortest decimals

The decimals that read back as a number are those between the midpoints to its neighbours, the midpoints included if the
mantissa is even.  For a growing number of digits the two decimals next to the number are tried; the first that reads
back is a shortest one. -/

/-- Whether `c / d` rounds to the number of magnitude `x`. -/
def readsBack (x : Binary64) (c d : Nat) : Bool :=
  -- all values are multiplied by `4 · d`, and the number by its power of two
  let scale (n : Nat) : Nat := if x.exponent < 0 then n else n * Nat.pow 2 x.exponent.toNat
  let value := scale (4 * x.mantissa * d)
  let above := scale (2 * d)
  let below := if x.mantissa = Nat.pow 2 52 ∧ lowest < x.exponent then scale d else above
  let c4 := 4 * c * (if x.exponent < 0 then Nat.pow 2 (-x.exponent).toNat else 1)
  if x.mantissa % 2 = 0 then value ≤ c4 + below && c4 ≤ value + above
  else value < c4 + below && c4 < value + above

/-- `digits · 10 ^ exponent` as a quotient. -/
def decimalQuotient (digits : Nat) (exponent : Int) : Nat × Nat :=
  if exponent < 0 then (digits, Nat.pow 10 (-exponent).toNat) else (digits * Nat.pow 10 exponent.toNat, 1)

/-- The least `k` with magnitude below `10 ^ k`, searched downwards from `k`. -/
def magnitude (num den : Nat) : (fuel : Nat) → (k : Int) → Int
  | 0, k => k
  | fuel + 1, k =>
    let (c, d) := decimalQuotient 1 (k - 1)
    if num * d < c * den then magnitude num den fuel (k - 1) else k

/-- Drops zeros at the end of the digits. -/
def dropZeros : (fuel : Nat) → Nat → Int → Nat × Int
  | 0, n, e => (n, e)
  | fuel + 1, n, e => if n % 10 = 0 then dropZeros fuel (n / 10) (e + 1) else (n, e)

/-- The shortest decimal that reads back, trying `17 - fuel`, … digits below `10 ^ top`; of two the nearer. -/
def shortestFrom (x : Binary64) (top : Int) : (fuel : Nat) → Nat × Int
  | 0 => (0, 0)
  | fuel + 1 =>
    let e := top - (17 - fuel : Nat)
    let (num, den) := x.quotient
    let (c, d) := decimalQuotient 1 e
    let q := (num * d) / (den * c)
    let low := decimalQuotient q e
    let high := decimalQuotient (q + 1) e
    let lowOk := q ≠ 0 && x.readsBack low.1 low.2
    let highOk := x.readsBack high.1 high.2
    -- twice the remainder against the step between the two decimals
    let nearLow := 2 * (num * d - q * (den * c)) ≤ den * c
    if lowOk && (nearLow || !highOk) then (q, e)
    else if highOk then (q + 1, e)
    else shortestFrom x top fuel

/-- The digits and the power of ten of the shortest decimal that reads back as the magnitude. -/
def shortest (x : Binary64) : Nat × Int :=
  if x.isZero then (0, 0)
  else
    let (num, den) := x.quotient
    let top := magnitude num den 700 330
    let (n, e) := shortestFrom x top 17
    dropZeros 20 n e

/-! ## Text

Numbers from 10⁻⁵ up to 10¹⁶ are written out, with at least one digit after the point; all others have one digit before
the point and an exponent with its sign.  `plainText` writes every number out, and no point without digits after it. -/

def text (x : Binary64) : String :=
  let (n, e) := x.shortest
  let digits := (toString n).toList
  let count : Int := digits.length
  let point := count + e
  let zeros (k : Int) : List Char := List.replicate k.toNat '0'
  let body : List Char :=
    if n = 0 then ['0', '.', '0']
    else if 0 ≤ e ∧ point ≤ 16 then digits ++ zeros e ++ ['.', '0']
    else if 0 < point ∧ point ≤ 16 then digits.take point.toNat ++ '.' :: digits.drop point.toNat
    else if -5 < point ∧ point ≤ 0 then ['0', '.'] ++ zeros (-point) ++ digits
    else
      let mantissa := match digits with
        | [d] => [d]
        | d :: ds => d :: '.' :: ds
        | [] => []
      mantissa ++ 'e' :: (if 0 < point then ['+'] else []) ++ (toString (point - 1)).toList
  String.ofList (if x.negative then '-' :: body else body)

def plainText (x : Binary64) : String :=
  let (n, e) := x.shortest
  let digits := (toString n).toList
  let point : Int := digits.length + e
  let zeros (k : Int) : List Char := List.replicate k.toNat '0'
  let body : List Char :=
    if 0 ≤ e then digits ++ zeros e
    else if 0 < point then digits.take point.toNat ++ '.' :: digits.drop point.toNat
    else ['0', '.'] ++ zeros (-point) ++ digits
  String.ofList (if x.negative then '-' :: body else body)

/-! ## Order -/

/-- A number's place among all numbers: of two numbers the greater has the greater place, and the two zeros share one.
Mantissas are as long as the exponent allows, so the exponent decides first. -/
def place (x : Binary64) : Int :=
  let size : Int := if x.isZero then 0 else (x.exponent - lowest) * Nat.pow 2 53 + x.mantissa
  if x.negative then -size else size

/-- The place of the infinities, beyond all numbers. -/
def infinitePlace : Int := (highest - lowest + 1) * Nat.pow 2 53

end Binary64
end PathRouter
