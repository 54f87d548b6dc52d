import SoccerWorld.Numeric.Shortest

/-!
# Texts of doubles

Three ways to write a double: for documents, with a point or an exponent in every text; for
messages, in positional notation throughout; and with a fixed number of places.
-/

namespace SoccerWorld
namespace DecimalText

/-- The decimal digits of a natural number. -/
def digits (n : Nat) : List Char :=
  Nat.toDigits 10 n

/-- `n` zeros. -/
def zeros (n : Nat) : List Char :=
  List.replicate n '0'

/-- Digits with a point `places` from their end, and at least one digit before the point. -/
def withPoint (ds : List Char) (places : Nat) : List Char :=
  if places = 0 then ds
  else
    let padded := zeros (places + 1 - ds.length) ++ ds
    padded.take (padded.length - places) ++ '.' :: padded.drop (padded.length - places)

/-- A decimal in positional notation, without a point if it is an integer. -/
def positional (x : Shortest.Decimal) : List Char :=
  if x.digits = 0 then ['0']
  else if 0 ≤ x.exponent then digits x.digits ++ zeros x.exponent.toNat
  else withPoint (digits x.digits) (-x.exponent).toNat

/-- A decimal as one digit, further digits after a point, and a signed exponent. -/
def scientific (x : Shortest.Decimal) : List Char :=
  let ds := digits x.digits
  let exponent : Int := x.exponent + (ds.length - 1 : Nat)
  let mantissa := if ds.length = 1 then ds else ds.take 1 ++ '.' :: ds.drop 1
  let sign := if exponent < 0 then '-' else '+'
  mantissa ++ 'e' :: sign :: digits exponent.natAbs

/-- A minus sign before the text of a negative double. -/
def signed (x : Float) (size : List Char) : String :=
  String.ofList (if Binary64.isNegative x then '-' :: size else size)

/-- The text in a document: positional from 1e-5 up to 1e16, with an exponent outside.  A
positional text has a point.  Of two equally near decimals it shows the even one. -/
def document (x : Float) : String :=
  let decimal := Shortest.ofFloat .toEven x
  let place : Int := decimal.exponent + ((digits decimal.digits).length - 1 : Nat)
  signed x
    (if decimal.digits = 0 then ['0', '.', '0']
    else if place < -5 || 16 ≤ place then scientific decimal
    else if 0 ≤ decimal.exponent then positional decimal ++ ['.', '0']
    else positional decimal)

/-- The text of a double that is not finite. -/
def special (x : Float) : String :=
  if x.isNaN then "NaN" else if Binary64.isNegative x then "-inf" else "inf"

/-- The text in a message: positional, with a point only where there are places.  Of two equally
near decimals it shows the larger. -/
def message (x : Float) : String :=
  if !x.isFinite then special x else signed x (positional (Shortest.ofFloat .up x))

/-- `numerator / denominator` rounded to an integer, a half to the even neighbour. -/
def roundHalfEven (numerator denominator : Nat) : Nat :=
  let quotient := numerator / denominator
  let twice := 2 * (numerator % denominator)
  if twice < denominator then quotient
  else if denominator < twice then quotient + 1
  else if quotient % 2 = 0 then quotient else quotient + 1

/-- The text with a fixed number of places, rounded from the exact value. -/
def fixed (places : Nat) (x : Float) : String :=
  if !x.isFinite then special x
  else
    let size := Binary64.magnitude x
    let scaled := size.significand * Nat.pow 10 places * Nat.pow 2 size.exponent.toNat
    let unit := Nat.pow 2 (-size.exponent).toNat
    signed x (withPoint (digits (roundHalfEven scaled unit)) places)

end DecimalText
end SoccerWorld
