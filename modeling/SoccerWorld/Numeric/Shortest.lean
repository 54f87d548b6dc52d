import SoccerWorld.Numeric.Binary64

/-!
# The shortest decimal of a double

Among the decimals that read back as a given double, the one with the fewest digits, and of those
the nearest; of two equally near ones the rule for ties chooses.  All steps are exact computations
with natural numbers.

A double `significand * 2 ^ exponent` is the nearest double of every real between its lower and its
upper midpoint.  The multiples of a power of ten form a grid; the first grid, from coarse to fine,
with a point between the midpoints gives the fewest digits, and if any point of a grid lies there,
so does one of the two grid points around the double itself.
-/

namespace SoccerWorld
namespace Shortest

/-- Which of two equally near decimals is taken. -/
inductive Tie where
  /-- The one with an even last digit. -/
  | toEven
  /-- The larger one. -/
  | up
deriving DecidableEq, Repr

/-- A decimal `digits * 10 ^ exponent`. -/
structure Decimal where
  /-- The significant digits as a number. -/
  digits : Nat
  /-- Power of ten that scales them. -/
  exponent : Int
deriving DecidableEq, Repr

/-- Integers proportional to a double, its midpoints and the points of one grid. -/
structure Grid where
  /-- Proportional to the double. -/
  value : Nat
  /-- Proportional to its lower midpoint. -/
  lower : Nat
  /-- Proportional to its upper midpoint. -/
  upper : Nat
  /-- Proportional to the distance of the grid's points. -/
  spacing : Nat
  /-- The midpoints themselves read back as the double. -/
  closed : Bool

/-- The double `x` on the grid of the multiples of `10 ^ power`.  The lower midpoint is half as far
away where the significand is the least of its binade. -/
def Grid.ofMagnitude (x : Binary64.Magnitude) (power : Int) : Grid :=
  -- Everything is taken four times, and times the powers of two and ten that make it an integer.
  let scale := Nat.pow 2 (x.exponent - 2).toNat * Nat.pow 10 (-power).toNat
  let isLeast := x.significand = Binary64.fieldPlace ∧ -1074 < x.exponent
  let gap := if isLeast then 1 else 2
  { value := 4 * x.significand * scale
    lower := (4 * x.significand - gap) * scale
    upper := (4 * x.significand + 2) * scale
    spacing := Nat.pow 2 (2 - x.exponent).toNat * Nat.pow 10 power.toNat
    closed := x.significand % 2 = 0 }

/-- The `n`-th point of the grid reads back as the double. -/
def Grid.accepts (grid : Grid) (n : Nat) : Bool :=
  if grid.closed then grid.lower ≤ n * grid.spacing && n * grid.spacing ≤ grid.upper
  else grid.lower < n * grid.spacing && n * grid.spacing < grid.upper

/-- The point of the grid that reads back as the double and is nearest to it. -/
def Grid.nearest? (grid : Grid) (tie : Tie) : Option Nat :=
  let below := grid.value / grid.spacing
  let above := below + 1
  match grid.accepts below, grid.accepts above with
  | true, true =>
      let toBelow := grid.value - below * grid.spacing
      let toAbove := above * grid.spacing - grid.value
      if toBelow < toAbove then some below
      else if toAbove < toBelow then some above
      else if tie = .toEven && below % 2 = 0 then some below
      else some above
  | true, false => some below
  | false, true => some above
  | false, false => none

/-- The shortest decimal on the grids of `10 ^ power` and up to `finer` finer ones. -/
def search (x : Binary64.Magnitude) (tie : Tie) (power : Int) : (finer : Nat) → Decimal
  | 0 => ⟨x.significand * Nat.pow 2 x.exponent.toNat, 0⟩
  | finer + 1 =>
      match (Grid.ofMagnitude x power).nearest? tie with
      | some n => ⟨n, power⟩
      | none => search x tie (power - 1) finer

/-- The shortest decimal of a magnitude; the search begins above it and ends, at the latest, with
seventeen digits. -/
def ofMagnitude (tie : Tie) (x : Binary64.Magnitude) : Decimal :=
  if x.significand = 0 then ⟨0, 0⟩
  else
    let binaryLength : Int := (Nat.log2 x.significand : Int) + 1 + x.exponent
    search x tie (binaryLength * 30103 / 100000 + 1) 24

/-- The shortest decimal of the size of a finite double. -/
def ofFloat (tie : Tie) (x : Float) : Decimal :=
  ofMagnitude tie (Binary64.magnitude x)

end Shortest
end SoccerWorld
