import SoccerWorld.Locomotion.Basic

/-!
# The player types of a match

A type number is resolved to a motion; an unknown number, or none, gives the default type.
-/

namespace SoccerWorld

/-- The motions of a match by type number. -/
structure TypeRegistry (R : Type) [Scalar R] where
  /-- Motion of players of unknown type. -/
  fallback : Locomotion R
  /-- Motions by type number; an earlier entry hides later ones of its number. -/
  entries : List (Int × Locomotion R) := []

namespace TypeRegistry

variable {R : Type} [Scalar R]

/-- The registry of a match in which all players are of the default type. -/
def homogeneous (rules : Rules R) : TypeRegistry R where
  fallback := Locomotion.ofType {} rules

/-- The registry with one more motion, which hides an earlier one of its number. -/
def insert (registry : TypeRegistry R) (motion : Locomotion R) : TypeRegistry R :=
  if motion.type.id = PlayerType.defaultId then { registry with fallback := motion }
  else { registry with entries := (motion.type.id, motion) :: registry.entries }

/-- The registry of the given types; of two with one number the later counts. -/
def ofTypes (rules : Rules R) (types : List (PlayerType R)) : TypeRegistry R :=
  types.foldl (fun registry type => registry.insert (Locomotion.ofType type rules))
    (homogeneous rules)

/-- The motion of a type number, if one was reported. -/
def get (registry : TypeRegistry R) (typeId : Option Int) : Locomotion R :=
  match typeId with
  | none => registry.fallback
  | some id =>
      if id = PlayerType.defaultId then registry.fallback
      else (registry.entries.lookup id).getD registry.fallback

end TypeRegistry

end SoccerWorld
