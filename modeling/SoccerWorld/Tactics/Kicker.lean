import SoccerWorld.Config.Tuning
import SoccerWorld.Locomotion.Registry
import SoccerWorld.Snapshot.Basic

/-!
# Who touched the ball last

At a set play the touch belongs to the executing side's player nearest to the ball.  Otherwise a
player may have touched the ball if it kicks, or begins to tackle, in this cycle, was near enough
to the ball in the cycle before, and is not farther from it now than the ball can fly.  Of such
players the one nearest in the cycle before is the kicker, unless both sides have one.
-/

namespace SoccerWorld

/-- The parameters by which touches are attributed. -/
structure TouchRules (R : Type) [Scalar R] where
  /-- Rules of the match. -/
  rules : Rules R
  /-- Motions by player type. -/
  types : TypeRegistry R
  /-- Tuning of the attribution. -/
  tuning : TouchTuning R

namespace TouchRules

variable {R : Type} [Scalar R]

/-- A kick is plausible at these distances: strictly within the kickable radius before. -/
def isPlausibleKick (touchRules : TouchRules R) (player : Player R) (prevDist currDist : R) :
    Bool :=
  let kickable := (touchRules.types.get player.typeId).type.kickableRadius
  Scalar.lt prevDist kickable && Scalar.lt currDist (kickable + touchRules.rules.ballSpeedMax)

/-- A tackle is plausible at these distances: at most the tacklable radius before. -/
def isPlausibleTackle (touchRules : TouchRules R) (prevDist currDist : R) : Bool :=
  let tacklable := touchRules.rules.tacklableRadius touchRules.tuning.tackleEpsilon
  Scalar.le prevDist tacklable && Scalar.le currDist (tacklable + touchRules.rules.ballSpeedMax)

/-- The kind of a plausible touch; a kick is tried before a tackle. -/
def touchKind? (touchRules : TouchRules R) (player : Player R) (prevDist currDist : R) :
    Option TouchKind :=
  if player.kicking && touchRules.isPlausibleKick player prevDist currDist then some .kick
  else if player.tackleStarted && touchRules.isPlausibleTackle prevDist currDist then
    some .tackle
  else none

/-- The plausible touch of the player at a position of the list, if there is one.  The player must
have been seen in this cycle and must have been there under its identity in the cycle before. -/
def touch? (touchRules : TouchRules R) (ball : Ball R) (previous : Snapshot R)
    (player : Player R) (index : Nat) : Option (Touch R) :=
  if player.ages.seen ≠ 0 then none
  else do
    let identity ← player.identity?
    let before ← previous.find? identity
    let prevDist := (before.position - previous.ball.position).norm
    let currDist := (player.position - ball.position).norm
    let kind ← touchRules.touchKind? player prevDist currDist
    pure ⟨index, identity.side, identity.unum, kind, prevDist, currDist⟩

/-- All plausible touches, nearest in the cycle before first and ties in the order of the list. -/
def candidates (touchRules : TouchRules R) (players : List (Player R)) (ball : Ball R)
    (previous : Snapshot R) : List (Touch R) :=
  (players.zipIdx.filterMap fun (player, index) =>
    touchRules.touch? ball previous player index).mergeSort fun a b =>
      Scalar.precedes a.prevDist b.prevDist

/-- The attribution that follows from the plausible touches. -/
def attributeTouches (candidates : List (Touch R)) : Attribution R :=
  if Touch.isContested candidates then { candidates := candidates }
  else
    { kicker := candidates.head?.map Touch.player
      kickerSide := candidates.head?.map Touch.side
      candidates := candidates }

/-- Position of the first entry with the least key. -/
def firstNearest : List (Nat × R) → Option (Nat × R)
  | [] => none
  | entry :: rest =>
      match firstNearest rest with
      | none => some entry
      | some best => if Scalar.precedes entry.2 best.2 then some entry else some best

/-- The attribution at a set play of a side. -/
def attributeRestart (players : List (Player R)) (ball : Ball R) (side : Side) :
    Attribution R :=
  -- Squares are in the order of the distances themselves.
  let distances := players.zipIdx.filterMap fun (player, index) =>
    if player.side = side && player.unum.isSome then
      some (index, (player.position - ball.position).normSquared)
    else none
  { kicker := (firstNearest distances).map Prod.fst, kickerSide := some side }

/-- To whom the last touch is attributed, for players in their final order. -/
def attribution (touchRules : TouchRules R) (players : List (Player R)) (ball : Ball R)
    (playMode : PlayMode) (previous : Option (Snapshot R)) : Attribution R :=
  match playMode.restartSide with
  | some side => attributeRestart players ball side
  | none =>
      match previous with
      | none => {}
      | some previous => attributeTouches (touchRules.candidates players ball previous)

end TouchRules

end SoccerWorld
