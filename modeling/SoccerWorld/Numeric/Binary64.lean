import SoccerWorld.Numeric.Scalar

/-!
# Doubles as scalars

A finite double is a sign and a magnitude `significand * 2 ^ exponent`.  On that reading this file
gives what the machine's own operations leave out: the exact truncated remainder, the length of a
hypotenuse without overflow, the total order of the encodings, and the double nearest to a decimal.
The instance `Scalar Float` puts them beside the machine's operations.
-/

namespace SoccerWorld
namespace Binary64

/-- The size of a finite double: `significand * 2 ^ exponent`. -/
structure Magnitude where
  /-- At most 53 binary digits. -/
  significand : Nat
  /-- No less than -1074. -/
  exponent : Int

/-- Place value of the sign in an encoding. -/
def signPlace : Nat :=
  9223372036854775808

/-- Place value of the exponent field in an encoding, and least significand of a normal double. -/
def fieldPlace : Nat :=
  4503599627370496

/-- The size of a finite double, read off its encoding. -/
def magnitude (x : Float) : Magnitude :=
  let bits : Nat := x.toBits.toNat % signPlace
  let field : Nat := bits / fieldPlace
  let fraction : Nat := bits % fieldPlace
  if field = 0 then ⟨fraction, -1074⟩ else ⟨fraction + fieldPlace, (field : Int) - 1075⟩

/-- The sign bit, set for negative zero too. -/
def isNegative (x : Float) : Bool :=
  signPlace ≤ x.toBits.toNat

/-- The positive infinity. -/
def infinity : Float :=
  1.0 / 0.0

/-- The not-a-number. -/
def undefined : Float :=
  0.0 / 0.0

/-- Place of a double in the total order of the encodings: sign first, then size. -/
def rank (x : Float) : Int :=
  let bits := x.toBits.toNat
  if signPlace ≤ bits then -((bits % signPlace : Nat) : Int) - 1 else (bits : Int)

/-- Remainder of two finite magnitudes, exact because it is a multiple of the finer unit. -/
def Magnitude.remainder (x y : Magnitude) : Magnitude :=
  let unit := min x.exponent y.exponent
  let dividend := x.significand * Nat.pow 2 (x.exponent - unit).toNat
  let divisor := y.significand * Nat.pow 2 (y.exponent - unit).toNat
  ⟨dividend % divisor, unit⟩

/-- The double of a magnitude that a double can hold. -/
def Magnitude.toFloat (x : Magnitude) : Float :=
  Float.scaleB (Float.ofNat x.significand) x.exponent

/-- The exact remainder of the division truncated toward zero, with the sign of the dividend. -/
def remainder (x y : Float) : Float :=
  if !x.isFinite || y.isNaN || y == 0.0 then undefined
  else if !y.isFinite then x
  else
    let rest := ((magnitude x).remainder (magnitude y)).toFloat
    if isNegative x then -rest else rest

/-- One corrected square root of the sum of two squares, for `0 ≤ short ≤ long` of moderate size. -/
def hypotenuseCore (long short : Float) : Float :=
  let h := Float.sqrt (long * long + short * short)
  let excess :=
    if h ≤ 2.0 * short then
      let delta := h - short
      long * (2.0 * delta - long) + (delta - 2.0 * (long - short)) * delta
    else
      let delta := h - long
      2.0 * delta * (long - 2.0 * short) + ((4.0 * delta - short) * short + delta * delta)
  h - excess / (2.0 * h)

/-- Length of the hypotenuse; the legs are rescaled where their squares would leave the range. -/
def hypotenuse (x y : Float) : Float :=
  if x.isInf || y.isInf then infinity
  else if x.isNaN || y.isNaN then undefined
  else
    let a := x.abs
    let b := y.abs
    let long := if a < b then b else a
    let short := if a < b then a else b
    if short ≤ Float.scaleB long (-54) then long + short
    else if Float.scaleB 1.0 511 < long then
      Float.scaleB (hypotenuseCore (Float.scaleB long (-600)) (Float.scaleB short (-600))) 600
    else if short < Float.scaleB 1.0 (-459) then
      Float.scaleB (hypotenuseCore (Float.scaleB long 600) (Float.scaleB short 600)) (-600)
    else hypotenuseCore long short

/-- Number of decimal digits of a natural number, one for zero. -/
def decimalLength (n : Nat) : Nat :=
  (Nat.toDigits 10 n).length

/-- The double nearest to `± digits * 10 ^ exponent`, infinite beyond the range. -/
def ofDecimal (negative : Bool) (digits : Nat) (exponent : Int) : Float :=
  let size :=
    if digits = 0 then 0.0
    else
      -- The decimal lies below `10 ^ top` and not below `10 ^ (top - 1)`.
      let top := (decimalLength digits : Int) + exponent
      if 310 < top then infinity
      else if top < -330 then 0.0
      else if exponent < 0 then Float.ofScientific digits true (-exponent).toNat
      else Float.ofScientific digits false exponent.toNat
  if negative then -size else size

end Binary64

instance : Scalar Float where
  lt x y := x < y
  le x y := x ≤ y
  precedes x y := Binary64.rank x ≤ Binary64.rank y
  isFinite := Float.isFinite
  abs := Float.abs
  sqrt := Float.sqrt
  sin := Float.sin
  cos := Float.cos
  asin := Float.asin
  atan2 := Float.atan2
  hypotenuse := Binary64.hypotenuse
  remainder := Binary64.remainder
  floor x := (Float.floor x).toInt64.toInt
  ceiling x := (Float.ceil x).toInt64.toInt
  ofInt := Float.ofInt
  degreesPerRadian := 57.29577951308232
  radiansPerDegree := 0.017453292519943295
  neg_halfTurn_lt_zero := by decide
  zero_le_halfTurn := by decide

end SoccerWorld
