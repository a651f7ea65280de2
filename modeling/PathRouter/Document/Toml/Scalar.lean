import PathRouter.Document.Value
/-!
# TOML scalars

Strings in their four forms, and the words that stand for truth values, numbers and dates.  A word is read as a whole
(`Scalar.ofWord?`).  An integer fits 64 bits, signed or unsigned; a number that is infinite or no number is null; a
finite number beyond the largest is refused.  A date is kept as text with `T` before the time and without zeros at the
end of the fraction.
-/
namespace PathRouter.Toml

/-! ## Strings -/

/-- Control characters, which are not allowed in strings and comments; the tab is not one of them. -/
def isControl (c : Char) : Bool :=
  (c.toNat < 32 && c != '\t') || c.toNat == 127

def hexDigit? (c : Char) : Option Nat :=
  if '0' ≤ c ∧ c ≤ '9' then some (c.toNat - 48)
  else if 'a' ≤ c ∧ c ≤ 'f' then some (c.toNat - 87)
  else if 'A' ≤ c ∧ c ≤ 'F' then some (c.toNat - 55)
  else none

/-- The character whose number is written in the first `n` characters, and the rest. -/
def charByNumber? (n : Nat) (s : List Char) : Option (Char × List Char) := do
  let digits := s.take n
  let code ← digits.foldlM (fun k c => (hexDigit? c).map (k * 16 + ·)) 0
  if digits.length = n ∧ code.isValidChar then some (Char.ofNat code, s.drop n) else none

/-- What follows a backslash: the character that is meant, and the rest. -/
def escape? : List Char → Option (Char × List Char)
  | 'b' :: s => some ('\x08', s)
  | 't' :: s => some ('\t', s)
  | 'n' :: s => some ('\n', s)
  | 'f' :: s => some ('\x0c', s)
  | 'r' :: s => some ('\r', s)
  | 'e' :: s => some ('\x1b', s)
  | '"' :: s => some ('"', s)
  | '\\' :: s => some ('\\', s)
  | 'x' :: s => charByNumber? 2 s
  | 'u' :: s => charByNumber? 4 s
  | 'U' :: s => charByNumber? 8 s
  | _ => none

/-- The rest of a one-line string with escapes, after its opening quote. -/
def basicString? (s : List Char) : Option (List Char × List Char) :=
  match s with
  | [] => none
  | '"' :: r => some ([], r)
  | '\\' :: t =>
    match escape? t with
    | some (x, r) => if _ : r.length ≤ t.length then (basicString? r).map (fun (t, r) => (x :: t, r)) else none
    | none => none
  | c :: r => if isControl c then none else (basicString? r).map (fun (t, r) => (c :: t, r))
termination_by s.length

/-- The rest of a one-line string without escapes, after its opening quote. -/
def literalString? : List Char → Option (List Char × List Char)
  | [] => none
  | '\'' :: r => some ([], r)
  | c :: r => if isControl c then none else (literalString? r).map (fun (t, r) => (c :: t, r))

/-- Quotes at the place where a string over several lines may end: how many of them belong to the string, and the rest
after the three that close it.  None if there are fewer than three. -/
def closing? (q : Char) : List Char → Option (Nat × List Char)
  | a :: b :: c :: s =>
    if a == q && b == q && c == q then
      match s with
      | d :: e :: r => if d == q then (if e == q then some (2, r) else some (1, e :: r)) else some (0, s)
      | [d] => if d == q then some (1, []) else some (0, s)
      | [] => some (0, [])
    else none
  | _ => none

/-- Drops one line end in front. -/
def dropLineEnd : List Char → List Char
  | '\n' :: s => s
  | '\r' :: '\n' :: s => s
  | s => s

/-- Whether a character may stand in a string over several lines; a carriage return only before a line feed. -/
def isLongStringChar (c : Char) (rest : List Char) : Bool :=
  c == '\n' || !isControl c || (c == '\r' && rest.head? == some '\n')

/-- Skips blanks and line ends. -/
def skipBreaks : List Char → List Char
  | ' ' :: s | '\t' :: s | '\n' :: s | '\r' :: '\n' :: s => skipBreaks s
  | s => s

/-- Skips blanks and line ends after a backslash at the end of a line; none if the line does not end there. -/
def lineBreak? (s : List Char) : Option (List Char) :=
  match s.dropWhile (fun c => c == ' ' || c == '\t') with
  | '\n' :: r | '\r' :: '\n' :: r => some (skipBreaks r)
  | _ => none

/-- The rest of a string over several lines with escapes. -/
def longBasic? (s : List Char) : Option (List Char × List Char) :=
  match closing? '"' s with
  | some (n, r) => some (List.replicate n '"', r)
  | none =>
    match s with
    | [] => none
    | '\\' :: t =>
      match lineBreak? t with
      | some r => if _ : r.length ≤ t.length then longBasic? r else none
      | none =>
        match escape? t with
        | some (x, r) => if _ : r.length ≤ t.length then (longBasic? r).map (fun (t, r) => (x :: t, r)) else none
        | none => none
    | c :: r => if isLongStringChar c r then (longBasic? r).map (fun (t, r) => (c :: t, r)) else none
termination_by s.length

/-- The rest of a string over several lines without escapes. -/
def longLiteral? : List Char → Option (List Char × List Char)
  | [] => none
  | c :: r =>
    match closing? '\'' (c :: r) with
    | some (n, r) => some (List.replicate n '\'', r)
    | none => if isLongStringChar c r then (longLiteral? r).map (fun (t, r) => (c :: t, r)) else none

/-- A string of any form. -/
def string? : List Char → Option (List Char × List Char)
  | '"' :: '"' :: '"' :: s => longBasic? (dropLineEnd s)
  | '"' :: s => basicString? s
  | '\'' :: '\'' :: '\'' :: s => longLiteral? (dropLineEnd s)
  | '\'' :: s => literalString? s
  | _ => none

/-! ## Numbers -/

/-- The digits of a number with single underscores between digits allowed; none if there is none or another character
stands among them. -/
def digits? (isDigit : Char → Bool) (s : List Char) : Option (List Char) :=
  let parts := s.splitOn '_'
  if parts.all (fun p => !p.isEmpty && p.all isDigit) then some parts.flatten else none

def value (base : Nat) (ds : List Char) : Nat :=
  ds.foldl (fun n c => n * base + (hexDigit? c).getD 0) 0

/-- Cuts off a sign. -/
def sign : List Char → Bool × List Char
  | '-' :: s => (true, s)
  | '+' :: s => (false, s)
  | s => (false, s)

/-- Decimal digits without a leading zero, unless zero is all there is. -/
def decimal? (s : List Char) : Option (List Char) :=
  match digits? Char.isDigit s with
  | some ('0' :: _ :: _) => none
  | r => r

def integer? (s : List Char) : Option Int :=
  match s with
  | '0' :: 'x' :: s => (digits? (fun c => (hexDigit? c).isSome) s).map (fun ds => (value 16 ds : Int))
  | '0' :: 'o' :: s => (digits? (fun c => '0' ≤ c && c ≤ '7') s).map (fun ds => (value 8 ds : Int))
  | '0' :: 'b' :: s => (digits? (fun c => c == '0' || c == '1') s).map (fun ds => (value 2 ds : Int))
  | _ =>
    let (negative, s) := sign s
    (decimal? s).map (fun ds => if negative then -(value 10 ds : Int) else value 10 ds)

/-- A number with a fraction, an exponent or both. -/
def float? (s : List Char) : Option (Option Binary64) :=
  let (negative, s) := sign s
  if s = "inf".toList ∨ s = "nan".toList then some none
  else
    let (front, exponent) := s.span (fun c => c != 'e' && c != 'E')
    let (whole, fraction) := front.span (· != '.')
    let read : Option (Nat × Int) := do
      let w ← decimal? whole
      let f ← match fraction with
        | [] => some []
        | _ :: f => digits? Char.isDigit f
      let e ← match exponent with
        | [] => if fraction.isEmpty then none else some 0
        | _ :: e => do
          let (down, e) := sign e
          let ds ← digits? Char.isDigit e
          some (if down then -(value 10 ds : Int) else value 10 ds)
      some (value 10 (w ++ f), e - f.length)
    match read with
    | some (n, e) => (Binary64.ofDecimal? negative n e).map some
    | none => none

/-! ## Dates -/

/-- The number of exactly two decimal digits, and the rest. -/
def twoDigits? : List Char → Option (Nat × List Char)
  | a :: b :: s => if a.isDigit && b.isDigit then some (value 10 [a, b], s) else none
  | _ => none

def daysIn (year month : Nat) : Nat :=
  if month = 2 then (if (year % 4 = 0 ∧ year % 100 ≠ 0) ∨ year % 400 = 0 then 29 else 28)
  else if month = 4 ∨ month = 6 ∨ month = 9 ∨ month = 11 then 30
  else 31

/-- A day at the start of a text: its ten characters, and the rest. -/
def day? (s : List Char) : Option (List Char × List Char) := do
  let (century, r) ← twoDigits? s
  let (year, r) ← twoDigits? r
  match r with
  | '-' :: r =>
    let (month, r) ← twoDigits? r
    match r with
    | '-' :: r =>
      let (day, r) ← twoDigits? r
      if 1 ≤ month ∧ month ≤ 12 ∧ 1 ≤ day ∧ day ≤ daysIn (century * 100 + year) month then some (s.take 10, r)
      else none
    | _ => none
  | _ => none

/-- The fraction of a second: nine digits count, and zeros at the end do not. -/
def fraction (ds : List Char) : List Char :=
  match ((ds.take 9).reverse.dropWhile (· == '0')).reverse with
  | [] => []
  | kept => '.' :: kept

/-- A time of day at the start of a text, as it is kept, and the rest.  Seconds may be left out. -/
def time? (s : List Char) : Option (List Char × List Char) := do
  let (hour, r) ← twoDigits? s
  match r with
  | ':' :: r =>
    let (minute, r) ← twoDigits? r
    if 23 < hour ∨ 59 < minute then none
    else
      match r with
      | ':' :: r =>
        let front := s.take 8
        let (second, r) ← twoDigits? r
        if 60 < second then none
        else
          match r with
          | '.' :: r =>
            match r.span Char.isDigit with
            | ([], _) => none
            | (ds, r) => some (front ++ fraction ds, r)
          | r => some (front, r)
      | r => some (s.take 5 ++ [':', '0', '0'], r)
  | _ => none

/-- The offset of a time from the standard one, as it is kept; nothing may follow it. -/
def offset? : List Char → Option (List Char)
  | [] => some []
  | ['Z'] | ['z'] => some ['Z']
  | c :: s => do
    let (hour, r) ← twoDigits? s
    match r with
    | ':' :: r =>
      let (minute, r) ← twoDigits? r
      if (c = '+' ∨ c = '-') ∧ hour ≤ 23 ∧ minute ≤ 59 ∧ r = [] then
        some ((if hour = 0 ∧ minute = 0 then '+' else c) :: s)
      else none
    | _ => none

/-- A day, a time, or a day and a time with or without an offset. -/
def date? (s : List Char) : Option (List Char) :=
  match day? s with
  | some (d, []) => some d
  | some (d, c :: r) =>
    if c = 'T' ∨ c = 't' ∨ c = ' ' then do
      let (t, r) ← time? r
      let o ← offset? r
      some (d ++ 'T' :: t ++ o)
    else none
  | none =>
    match time? s with
    | some (t, []) => some t
    | _ => none

/-! ## Words -/

def isWordChar (c : Char) : Bool :=
  c.isAlphanum || c == '+' || c == '-' || c == '_' || c == '.' || c == ':'

/-- The word at the start of a text, and the rest.  A day takes the time after it, over one space. -/
def takeWord (s : List Char) : List Char × List Char :=
  let (w, r) := s.span isWordChar
  match w.length, r with
  | 10, ' ' :: a :: b :: ':' :: t =>
    if (day? w).isSome && a.isDigit && b.isDigit then
      let (time, r) := (a :: b :: ':' :: t).span isWordChar
      (w ++ ' ' :: time, r)
    else (w, r)
  | _, _ => (w, r)

/-- What a word stands for. -/
def ofWord? (w : List Char) : Option Value :=
  if w = "true".toList then some (.bool true)
  else if w = "false".toList then some (.bool false)
  else
    match date? w with
    | some d => some (.date (String.ofList d))
    | none =>
      match integer? w with
      | some n => if -(Nat.pow 2 63 : Int) ≤ n ∧ n < Nat.pow 2 64 then some (.int n) else none
      | none =>
        match float? w with
        | some (some x) => some (.float x)
        | some none => some .null
        | none => none

end PathRouter.Toml
