/-! # Binary floating-point numbers of 64 bits

Only what reading them from decimal text takes: a number is kept as an exact multiple of a power of
two, and a decimal number is rounded to the nearest of them, a half to the even neighbour. -/

namespace DepTriage

/-- A number of the format. The mantissa of a finite one is less than `2 ^ 53`, and at least
`2 ^ 52` unless the exponent is the least one, `-1074`. -/
inductive Binary64 where
  | nan
  | infinite (negative : Bool)
  | finite (negative : Bool) (mantissa : Nat) (exponent : Int)
deriving DecidableEq, Repr, Inhabited

namespace Binary64

def isFinite : Binary64 → Bool
  | finite .. => true
  | _ => false

/-- The numbers as comparison sees them, but for `nan`, which equals itself here. -/
instance : BEq Binary64 where
  beq
    | finite _ 0 _, finite _ 0 _ => true
    | a, b => decide (a = b)

/-- A quotient rounded to the nearest natural number, a half to the even one. -/
def roundDiv (num den : Nat) : Nat :=
  let q := num / den
  let twice := 2 * (num % den)
  if twice < den then q
  else if den < twice then q + 1
  else q + q % 2

/-- The quotient `num / den`, rounded. -/
def ofQuotient (negative : Bool) (num den : Nat) : Binary64 :=
  if num = 0 then finite negative 0 (-1074)
  else
    let guess : Int := (num.log2 : Int) - den.log2 - 53
    let exponent := max guess (-1074)
    let scaled (e : Int) : Nat := roundDiv (num * Nat.pow 2 (-e).toNat) (den * Nat.pow 2 e.toNat)
    let exponent := if scaled exponent < Nat.pow 2 53 then exponent else exponent + 1
    let mantissa := scaled exponent
    let (mantissa, exponent) :=
      if mantissa < Nat.pow 2 53 then (mantissa, exponent) else (mantissa / 2, exponent + 1)
    if 971 < exponent then infinite negative else finite negative mantissa exponent

/-- The number `digits * 10 ^ exponent`, rounded. -/
def ofDecimal (negative : Bool) (digits : Nat) (exponent : Int) : Binary64 :=
  let length : Int := (Nat.toDigits 10 digits).length
  if digits = 0 || exponent + length < -330 then finite negative 0 (-1074)
  else if 310 < exponent + length then infinite negative
  else ofQuotient negative (digits * Nat.pow 10 exponent.toNat) (Nat.pow 10 (-exponent).toNat)

/-! ## Reading -/

/-- The value of the digits in front, onto `value`, their number, and what follows them. -/
def takeDigits : List Char → (value count : Nat) → Nat × Nat × List Char
  | c :: cs, value, count =>
    if c.isDigit then takeDigits cs (10 * value + (c.toNat - '0'.toNat)) (count + 1)
    else (value, count, c :: cs)
  | [], value, count => (value, count, [])

/-- An exponent mark with its digits, which may be absent as a whole. -/
def readExponent? : List Char → Option Int
  | [] => some 0
  | c :: cs =>
    if c != 'e' && c != 'E' then none
    else
      let (negative, cs) := match cs with
        | '-' :: cs => (true, cs)
        | '+' :: cs => (false, cs)
        | cs => (false, cs)
      match takeDigits cs 0 0 with
      | (value, count, []) =>
        if count = 0 then none else some (if negative then -(value : Int) else value)
      | _ => none

/-- A number without sign: digits, of which a point may stand before, among or after, and an
exponent; or a word. -/
def readUnsigned? (negative : Bool) (cs : List Char) : Option Binary64 :=
  match (String.ofList cs).toLower with
  | "inf" | "infinity" => some (infinite negative)
  | "nan" => some nan
  | _ =>
    let (whole, wholeCount, rest) := takeDigits cs 0 0
    let (digits, places, rest) := match rest with
      | '.' :: rest => takeDigits rest whole 0
      | rest => (whole, 0, rest)
    if wholeCount + places = 0 then none
    else (readExponent? rest).map fun e => ofDecimal negative digits (e - places)

/-- A number in decimal text, with an optional sign. -/
def read? : List Char → Option Binary64
  | '-' :: cs => readUnsigned? true cs
  | '+' :: cs => readUnsigned? false cs
  | cs => readUnsigned? false cs

/-- The number without its fraction, or the nearest bound if it is negative or above `greatest`;
`nan` counts as zero. -/
def truncate (greatest : Nat) : Binary64 → Nat
  | nan => 0
  | infinite negative => if negative then 0 else greatest
  | finite negative mantissa exponent =>
    let whole := mantissa * Nat.pow 2 exponent.toNat / Nat.pow 2 (-exponent).toNat
    if negative then 0 else min greatest whole

end Binary64

end DepTriage
