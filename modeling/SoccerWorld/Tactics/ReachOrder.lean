/-!
# Order of players by reach step

Players are sorted stably: ascending reach steps first, players without a reach step last.
-/

namespace SoccerWorld

/-- Place of a reach step in the order; a player that was not evaluated comes last. -/
def reachKey : Option UInt32 → UInt32
  | some step => step
  | none => 4294967295

/-- Stable sort by an optional reach step. -/
def sortByReach {α : Type} (step : α → Option UInt32) (xs : List α) : List α :=
  xs.mergeSort fun a b => decide (reachKey (step a) ≤ reachKey (step b))

end SoccerWorld
