import Roaming.Text.Blank

/-!
# Decimal numerals and their binary64 values

A numeral is an optional sign and either digits with at most one point among or around them, at
least one digit in all, and an optional power of ten after `e` or `E`; or one of the words `inf`,
`infinity` and `nan` in any case. `Decimal.read?` gives the number a numeral stands for, exactly;
`Decimal.toFloat` rounds it once, to the nearest binary64 with ties to the even one.
-/

namespace Roaming

/-- The number a numeral stands for; a finite one is `coefficient · 10 ^ exponent`. -/
inductive Decimal where
  /-- A finite number with its sign, which zero keeps. -/
  | finite (negative : Bool) (coefficient : Nat) (exponent : Int)
  /-- An infinity with its sign. -/
  | infinite (negative : Bool)
  /-- Not a number. -/
  | notANumber
deriving DecidableEq

namespace Decimal

open Text

/-- A sign in front of a numeral: whether it is a minus, and what follows. -/
def signed : List Char → Bool × List Char
  | '-' :: cs => (true, cs)
  | '+' :: cs => (false, cs)
  | cs => (false, cs)

/-- The power of ten at the end of a numeral: nothing at all, or a mark, a sign and a numeral. -/
def powerOfTen? : List Char → Option Int
  | [] => some 0
  | c :: cs =>
    if c = 'e' || c = 'E' then
      let (negative, digits) := signed cs
      if isNumeral digits then
        some (if negative then -(numeralValue digits : Int) else numeralValue digits)
      else none
    else none

/-- Digits, a point and digits, either side possibly empty but not both, and a power of ten. -/
def finite? (negative : Bool) (cs : List Char) : Option Decimal :=
  let whole := cs.takeWhile isDigit
  let afterWhole := cs.dropWhile isDigit
  let (fraction, tail) := match afterWhole with
    | '.' :: rest => (rest.takeWhile isDigit, rest.dropWhile isDigit)
    | rest => ([], rest)
  if whole.isEmpty && fraction.isEmpty then none
  else (powerOfTen? tail).map fun power =>
    .finite negative (numeralValue (whole ++ fraction)) (power - fraction.length)

/-- The number a numeral stands for, if the characters are a numeral. -/
def read? (cs : List Char) : Option Decimal :=
  let (negative, body) := signed cs
  let word := String.ofList (body.map Char.toLower)
  if word = "inf" || word = "infinity" then some (.infinite negative)
  else if word = "nan" then some .notANumber
  else finite? negative body

/-- The positive infinity of binary64. -/
def infinity : Float :=
  Float.ofBits 0x7FF0000000000000

/-- The nearest binary64 of `coefficient · 10 ^ exponent`. Beyond the first two bounds the value is
settled by size alone, so that no power of ten is larger than the numeral calls for: a number from
`10 ^ 400` on is infinite, and one below `2 ^ -1100` is zero. -/
def magnitude (coefficient : Nat) (exponent : Int) : Float :=
  if coefficient = 0 then 0.0
  else if exponent > 400 then infinity
  else if 3 * exponent.natAbs > coefficient.log2 + 1101 && exponent < 0 then 0.0
  else Float.ofScientific coefficient (exponent < 0) exponent.natAbs

/-- The binary64 nearest to the number, ties going to the even one. -/
def toFloat : Decimal → Float
  | .finite negative coefficient exponent =>
    let size := magnitude coefficient exponent
    if negative then -size else size
  | .infinite negative => if negative then -infinity else infinity
  | .notANumber => Float.ofBits 0x7FF8000000000000

/-- The binary64 that the characters of a numeral stand for. -/
def readFloat? (cs : List Char) : Option Float :=
  (read? cs).map toFloat

end Decimal

end Roaming
