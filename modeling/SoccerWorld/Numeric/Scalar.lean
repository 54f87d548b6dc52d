/-!
# Scalars

The arithmetic that the pitch, the players and the predictor are computed with.  Every formula of
the library is written once over a `Scalar`, in a fixed order of operations.

This file gives:

* `Scalar`: the operations that the formulas use;
* the choices that the formulas share: `Scalar.minimum`, `Scalar.maximum`, `Scalar.clamp`,
  `Scalar.power`, `Scalar.toWord`.

It fixes no instance and states no law.  Doubles are `SoccerWorld.Numeric.Binary64`.
-/

namespace SoccerWorld

/-- Numbers with the elementary functions of plane geometry.  Comparisons are Boolean, so that a
scalar may have values (such as a not-a-number) for which every comparison fails. -/
class Scalar (R : Type) extends Add R, Sub R, Mul R, Div R, Neg R, OfScientific R where
  /-- Strictly below. -/
  lt : R → R → Bool
  /-- Below or equal. -/
  le : R → R → Bool
  /-- A total order that agrees with `lt` on comparable scalars; used to sort. -/
  precedes : R → R → Bool
  /-- Neither infinite nor a not-a-number. -/
  isFinite : R → Bool
  /-- Absolute value. -/
  abs : R → R
  /-- Square root. -/
  sqrt : R → R
  /-- Sine of an angle in radians. -/
  sin : R → R
  /-- Cosine of an angle in radians. -/
  cos : R → R
  /-- Inverse sine in radians. -/
  asin : R → R
  /-- Polar angle in radians of the point whose ordinate is the first argument. -/
  atan2 : R → R → R
  /-- Length of the hypotenuse over two legs. -/
  hypotenuse : R → R → R
  /-- Remainder of the division truncated toward zero. -/
  remainder : R → R → R
  /-- Greatest integer not above. -/
  floor : R → Int
  /-- Least integer not below. -/
  ceiling : R → Int
  /-- The scalar nearest to an integer. -/
  ofInt : Int → R
  /-- Degrees in one radian. -/
  degreesPerRadian : R
  /-- Radians in one degree. -/
  radiansPerDegree : R
  /-- Zero lies above minus one half turn. -/
  neg_halfTurn_lt_zero : lt (-(180.0)) 0.0 = true
  /-- Zero does not lie above one half turn. -/
  zero_le_halfTurn : le 0.0 180.0 = true

namespace Scalar

variable {R : Type} [Scalar R]

/-- Equality as the comparisons see it. -/
def same (x y : R) : Bool :=
  le x y && le y x

/-- A scalar that does not even compare with itself. -/
def isUndefined (x : R) : Bool :=
  !le x x

/-- The smaller of two scalars; an undefined one gives way to the other. -/
def minimum (x y : R) : R :=
  if isUndefined x then y else if lt y x then y else x

/-- The larger of two scalars; an undefined one gives way to the other. -/
def maximum (x y : R) : R :=
  if isUndefined x then y else if lt x y then y else x

/-- `x` moved into the range from `low` to `high`; an undefined `x` stays undefined. -/
def clamp (x low high : R) : R :=
  if lt x low then low else if lt high x then high else x

/-- `acc` times `base` to the power `n`, by repeated squaring. -/
def powerFrom (acc base : R) (n : Nat) : R :=
  if n = 0 then acc
  else powerFrom (if n % 2 = 1 then acc * base else acc) (base * base) (n / 2)
termination_by n
decreasing_by omega

/-- `base` to the power `n`, by repeated squaring from the lowest binary digit of `n`. -/
def power (base : R) (n : Nat) : R :=
  powerFrom 1.0 base n

/-- The larger of `x` and zero. -/
def positivePart (x : R) : R :=
  maximum x 0.0

end Scalar

/-- The 32-bit word nearest to an integer. -/
def Word.ofInt (n : Int) : UInt32 :=
  if n < 0 then 0
  else if n < 4294967296 then UInt32.ofNat n.toNat
  else 4294967295

/-- The next word; the largest word stays as it is. -/
def Word.succ (n : UInt32) : UInt32 :=
  if n = 4294967295 then n else n + 1

/-- The difference of two words, no lower than zero. -/
def Word.sub (a b : UInt32) : UInt32 :=
  if a ≤ b then 0 else a - b

/-- The nearest word is the number itself, cut off at zero and at the largest word. -/
theorem Word.toNat_ofInt (n : Int) : ((Word.ofInt n).toNat : Int) = min (max n 0) 4294967295 := by
  unfold Word.ofInt
  split
  · show (0 : Int) = _
    omega
  · split
    · rw [UInt32.toNat_ofNat']
      omega
    · show (4294967295 : Int) = _
      omega

/-- A word and its successor differ by one below the largest word. -/
theorem Word.toNat_succ (n : UInt32) :
    (Word.succ n).toNat = min (n.toNat + 1) 4294967295 := by
  unfold Word.succ
  split
  · next h => subst h; decide
  · next h =>
      have hne : n.toNat ≠ 4294967295 := fun hn => h (UInt32.toNat.inj hn)
      have hlt : n.toNat < 4294967296 := n.toNat_lt
      rw [UInt32.toNat_add]
      simp
      omega

/-- The difference of words is the difference of their numbers, cut off at zero. -/
theorem Word.toNat_sub (a b : UInt32) : (Word.sub a b).toNat = a.toNat - b.toNat := by
  unfold Word.sub
  split
  · next h =>
      have hle : a.toNat ≤ b.toNat := UInt32.le_iff_toNat_le.mp h
      simp
      omega
  · next h =>
      have hle : b ≤ a := by
        rw [UInt32.le_iff_toNat_le]
        have hnot : ¬ a.toNat ≤ b.toNat := fun hn => h (UInt32.le_iff_toNat_le.mpr hn)
        omega
      exact UInt32.toNat_sub_of_le _ _ hle

end SoccerWorld
