import SoccerWorld.Match.Identity

/-!
# Touches of the ball

What is recorded of a player that may have touched the ball last, and of the player to whom the
last touch is attributed.  Players are given by their position in the snapshot's list.
-/

namespace SoccerWorld

/-- How the ball may have been touched. -/
inductive TouchKind where
  | kick
  | tackle
deriving DecidableEq, Repr

/-- A player that may have touched the ball last. -/
structure Touch (R : Type) where
  /-- Position of the player in the snapshot's list. -/
  player : Nat
  /-- The player's side. -/
  side : Side
  /-- The player's uniform number. -/
  unum : Unum
  /-- How the ball may have been touched. -/
  kind : TouchKind
  /-- Distance between player and ball in the cycle before. -/
  prevDist : R
  /-- Distance between player and ball in this cycle. -/
  currDist : R

/-- To whom the last touch is attributed. -/
structure Attribution (R : Type) where
  /-- Position of the kicker in the snapshot's list; absent if unknown or ambiguous. -/
  kicker : Option Nat := none
  /-- The side credited with the touch. -/
  kickerSide : Option Side := none
  /-- All plausible touches, nearest in the cycle before first. -/
  candidates : List (Touch R) := []

namespace Touch

variable {R : Type}

/-- Both sides have a plausible touch. -/
def isContested (candidates : List (Touch R)) : Bool :=
  candidates.any (fun touch => touch.side = Side.left) &&
    candidates.any (fun touch => touch.side = Side.right)

end Touch

end SoccerWorld
