/-!
# Sides, uniform numbers and identities

Who a player is: a side of the match together with a uniform number from 1 to 11.
-/

namespace SoccerWorld

/-- A side of the match as the simulator assigns it. -/
inductive Side where
  | left
  | right
  /-- Not assigned. -/
  | neutral
deriving DecidableEq, Repr

namespace Side

/-- The other side; an unassigned side has no other. -/
def opposite : Side → Side
  | left => right
  | right => left
  | neutral => neutral

/-- The side is one of the two that play. -/
def isAssigned : Side → Bool
  | neutral => false
  | _ => true

/-- The side's name in texts for readers. -/
def name : Side → String
  | left => "Left"
  | right => "Right"
  | neutral => "Neutral"

@[simp]
theorem opposite_opposite (side : Side) : side.opposite.opposite = side := by
  cases side <;> rfl

@[simp]
theorem isAssigned_opposite (side : Side) : side.opposite.isAssigned = side.isAssigned := by
  cases side <;> rfl

end Side

/-- A uniform number. -/
structure Unum where
  /-- The number on the shirt. -/
  number : Nat
  /-- Numbers start at one. -/
  one_le : 1 ≤ number
  /-- Numbers end at eleven. -/
  le_eleven : number ≤ 11
deriving DecidableEq

namespace Unum

/-- The uniform number `n`, for `n` from 1 to 11. -/
def ofNat? (n : Nat) : Option Unum :=
  if h : 1 ≤ n ∧ n ≤ 11 then some ⟨n, h.1, h.2⟩ else none

/-- Position of the number in a list of eleven. -/
def index (unum : Unum) : Nat :=
  unum.number - 1

/-- The text for a number that is no uniform number. -/
def rangeMessage (n : Nat) : String :=
  "uniform number " ++ toString n ++ " out of range 1..=11"

/-- Every uniform number in ascending order. -/
def all : List Unum :=
  (List.range 11).filterMap fun i => ofNat? (i + 1)

theorem ofNat?_number (unum : Unum) : ofNat? unum.number = some unum := by
  simp [ofNat?, unum.one_le, unum.le_eleven]

theorem ofNat?_eq_some_iff {n : Nat} {unum : Unum} : ofNat? n = some unum ↔ unum.number = n := by
  constructor
  · intro hSome
    unfold ofNat? at hSome
    split at hSome
    · simp only [Option.some.injEq] at hSome
      rw [← hSome]
    · contradiction
  · intro hNumber
    rw [← hNumber]
    exact ofNat?_number unum

theorem ofNat?_eq_none_iff {n : Nat} : ofNat? n = none ↔ n < 1 ∨ 11 < n := by
  unfold ofNat?
  split <;> simp <;> omega

theorem mem_all (unum : Unum) : unum ∈ all := by
  have hLow := unum.one_le
  have hHigh := unum.le_eleven
  simp only [all, List.mem_filterMap, List.mem_range]
  refine ⟨unum.number - 1, by omega, ?_⟩
  rw [Nat.sub_add_cancel hLow]
  exact ofNat?_number unum

end Unum

/-- A player that both teams can name. -/
structure Identity where
  /-- The player's side. -/
  side : Side
  /-- The player's uniform number. -/
  unum : Unum
deriving DecidableEq

end SoccerWorld
