import SoccerWorld.Snapshot.Build

/-!
# The world model of an agent

An observer together with the latest snapshot.  An update builds the next snapshot against the
latest one and replaces it; a reset forgets it.

Functions whose names end in a question mark give nothing where memory for the ball's trajectory
cannot be allocated.
-/

namespace SoccerWorld

/-- An observer and what it last saw. -/
structure WorldModel (R : Type) [Scalar R] where
  /-- Who observes. -/
  observer : Observer R
  /-- The latest snapshot, if there was an update since the beginning or the last reset. -/
  current : Option (Snapshot R)

/-- One event in the life of a world model. -/
inductive WorldEvent (R : Type) [Scalar R] where
  /-- An observation arrives. -/
  | update (observation : CycleObservation R) (deadline : Deadline)
  /-- The past is forgotten. -/
  | reset

namespace WorldModel

variable {R : Type} [Scalar R]

/-- A world model that has seen nothing. -/
def start (observer : Observer R) : WorldModel R :=
  ⟨observer, none⟩

/-- The snapshot that an observation leads to. -/
def next (model : WorldModel R) (observation : CycleObservation R) (deadline : Deadline) :
    Snapshot R :=
  model.observer.build observation model.current deadline

/-- The model after an observation. -/
def update (model : WorldModel R) (observation : CycleObservation R) (deadline : Deadline) :
    WorldModel R :=
  { model with current := some (model.next observation deadline) }

/-- The model after an observation, as far as memory can be allocated. -/
def update? (model : WorldModel R) (observation : CycleObservation R) (deadline : Deadline) :
    Option (WorldModel R) :=
  (model.observer.build? observation model.current deadline).map fun snapshot =>
    { model with current := some snapshot }

/-- The model without its past. -/
def reset (model : WorldModel R) : WorldModel R :=
  { model with current := none }

/-- The model after one event. -/
def step (model : WorldModel R) : WorldEvent R → WorldModel R
  | .update observation deadline => model.update observation deadline
  | .reset => model.reset

/-- The model after one event, as far as memory can be allocated. -/
def step? (model : WorldModel R) : WorldEvent R → Option (WorldModel R)
  | .update observation deadline => model.update? observation deadline
  | .reset => some model.reset

/-- The model after a list of events. -/
def run (model : WorldModel R) (events : List (WorldEvent R)) : WorldModel R :=
  events.foldl step model

/-- The model after a list of events, as far as memory can be allocated. -/
def run? (model : WorldModel R) (events : List (WorldEvent R)) : Option (WorldModel R) :=
  events.foldlM step? model

/-- The model after each of a list of events. -/
def trace (model : WorldModel R) : List (WorldEvent R) → List (WorldModel R)
  | [] => []
  | event :: rest => model.step event :: (model.step event).trace rest

end WorldModel

end SoccerWorld
