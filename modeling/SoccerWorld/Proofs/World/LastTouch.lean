import SoccerWorld.Proofs.Tactics.LastTouch
import SoccerWorld.Proofs.World.Sightings

/-!
# The last touch in a new snapshot

`Touch.IsBy` says from the two snapshots alone who may have touched the ball: a numbered player that
the observation sees, that the snapshot before knew, and that was near enough to the ball to kick or
to tackle it.  Main statement: the attribution of every build is the one that follows from these
players and the play mode (`Observer.attributesTouch_build`).
-/

namespace SoccerWorld

variable {R : Type} [Scalar R]

namespace Touch

/-- The player kicks, stood strictly within its kickable radius, and is not farther from the ball
now than the ball can fly. -/
structure IsKick (observer : Observer R) (player : Player R) (touch : Touch R) : Prop where
  kicking : player.kicking = true
  before : Scalar.lt touch.prevDist
    (observer.types.get player.typeId).type.kickableRadius = true
  now : Scalar.lt touch.currDist
    ((observer.types.get player.typeId).type.kickableRadius +
      observer.config.rules.ballSpeedMax) = true

/-- The player begins to tackle, stood within the tacklable radius or on its edge, and is not
farther from the ball now than the ball can fly. -/
structure IsTackle (observer : Observer R) (player : Player R) (touch : Touch R) : Prop where
  started : player.tackleCycles = 1
  before : Scalar.le touch.prevDist
    (observer.config.rules.tacklableRadius observer.config.touch.tackleEpsilon) = true
  now : Scalar.le touch.currDist
    (observer.config.rules.tacklableRadius observer.config.touch.tackleEpsilon +
      observer.config.rules.ballSpeedMax) = true

/-- The touch is one of `player`, which the snapshot before holds as `old`. -/
structure IsBy (observer : Observer R) (observation : CycleObservation R) (before now : Snapshot R)
    (touch : Touch R) (player old : Player R) : Prop where
  position : now.player? touch.player = some player
  identity : player.identity? = some ⟨touch.side, touch.unum⟩
  sighted : observation.Sees ⟨touch.side, touch.unum⟩
  known : old ∈ before.players
  sameIdentity : old.identity? = some ⟨touch.side, touch.unum⟩
  prevDist_eq : touch.prevDist = (old.position - before.ball.position).norm
  currDist_eq : touch.currDist = (player.position - now.ball.position).norm
  /-- A kick is preferred to a tackle. -/
  kind_eq : (touch.kind = .kick ∧ touch.IsKick observer player) ∨
    (touch.kind = .tackle ∧ ¬ touch.IsKick observer player ∧ touch.IsTackle observer player)

end Touch

/-- The attribution of a snapshot, as it follows from the play mode, the players and the snapshot
before. -/
structure Snapshot.AttributesTouch (observer : Observer R) (observation : CycleObservation R)
    (previous : Option (Snapshot R)) (now : Snapshot R) : Prop where
  setPlay : ∀ kind side, observation.playMode = .restart kind side → side.isAssigned = true →
    now.attribution.IsSetPlay now.players now.ball side
  first : (∀ kind side, observation.playMode = .restart kind side → side.isAssigned = false) →
    previous = none → now.attribution.candidates = [] ∧ now.attribution.kicker = none ∧
      now.attribution.kickerSide = none
  later : (∀ kind side, observation.playMode = .restart kind side → side.isAssigned = false) →
    ∀ before, previous = some before → now.attribution.IsOfTouches fun touch =>
      ∃ player old, touch.IsBy observer observation before now player old
  ambiguous_iff : now.isKickerAmbiguous = true ↔
    ∃ a ∈ now.attribution.candidates, ∃ b ∈ now.attribution.candidates, a.side ≠ b.side

namespace PlayMode

theorem restartSide_eq_some_iff {mode : PlayMode} {side : Side} :
    mode.restartSide = some side ↔
      (∃ kind, mode = .restart kind side) ∧ side.isAssigned = true := by
  cases mode with
  | restart kind own =>
      show (if own.isAssigned = true then some own else none) = some side ↔ _
      constructor
      · intro hSome
        split at hSome
        · next hAssigned =>
            obtain rfl := Option.some.inj hSome
            exact ⟨⟨kind, rfl⟩, hAssigned⟩
        · contradiction
      · rintro ⟨⟨kind', hMode⟩, hAssigned⟩
        obtain ⟨-, rfl⟩ := PlayMode.restart.inj hMode
        exact if_pos hAssigned
  | _ => simp [restartSide]

theorem restartSide_eq_none {mode : PlayMode}
    (hMode : ∀ kind side, mode = .restart kind side → side.isAssigned = false) :
    mode.restartSide = none := by
  cases hSome : mode.restartSide with
  | none => rfl
  | some side =>
      obtain ⟨⟨kind, hRestart⟩, hAssigned⟩ := restartSide_eq_some_iff.mp hSome
      rw [hMode kind side hRestart] at hAssigned
      contradiction

end PlayMode

namespace Observer

/-- The rules by which an observer attributes touches. -/
def touchRules (observer : Observer R) : TouchRules R :=
  ⟨observer.config.rules, observer.types, observer.config.touch⟩

theorem attribution_build (observer : Observer R) (observation : CycleObservation R)
    (previous : Option (Snapshot R)) (deadline : Deadline) :
    (observer.build observation previous deadline).attribution =
      observer.touchRules.attribution (observer.build observation previous deadline).players
        (observer.build observation previous deadline).ball observation.playMode previous := rfl

theorem touchKind?_eq_some_iff (observer : Observer R) (player : Player R) (touch : Touch R) :
    observer.touchRules.touchKind? player touch.prevDist touch.currDist = some touch.kind ↔
      (touch.kind = .kick ∧ touch.IsKick observer player) ∨
        (touch.kind = .tackle ∧ ¬ touch.IsKick observer player ∧
          touch.IsTackle observer player) := by
  have hKick : (player.kicking &&
      observer.touchRules.isPlausibleKick player touch.prevDist touch.currDist) = true ↔
        touch.IsKick observer player := by
    simp only [TouchRules.isPlausibleKick, Bool.and_eq_true]
    exact ⟨fun h => ⟨h.1, h.2.1, h.2.2⟩, fun h => ⟨h.kicking, h.before, h.now⟩⟩
  have hTackle : (player.tackleStarted &&
      observer.touchRules.isPlausibleTackle touch.prevDist touch.currDist) = true ↔
        touch.IsTackle observer player := by
    simp only [TouchRules.isPlausibleTackle, Player.tackleStarted, Bool.and_eq_true,
      decide_eq_true_eq]
    exact ⟨fun h => ⟨h.1, h.2.1, h.2.2⟩, fun h => ⟨h.started, h.before, h.now⟩⟩
  unfold TouchRules.touchKind?
  by_cases hIsKick : touch.IsKick observer player
  · rw [if_pos (hKick.mpr hIsKick)]
    simp [hIsKick, eq_comm]
  · rw [if_neg fun hTrue => hIsKick (hKick.mp hTrue)]
    by_cases hIsTackle : touch.IsTackle observer player
    · rw [if_pos (hTackle.mpr hIsTackle)]
      simp [hIsKick, hIsTackle, eq_comm]
    · rw [if_neg fun hTrue => hIsTackle (hTackle.mp hTrue)]
      simp [hIsKick, hIsTackle]

variable (observer : Observer R) (observation : CycleObservation R) (deadline : Deadline)
  {before : Snapshot R}

/-- The listed touches of a build are those of players that were seen, known and near enough. -/
theorem mem_candidates_build_iff (hBefore : before.IsCoherent) (touch : Touch R) :
    touch ∈ observer.touchRules.candidates
        (observer.build observation (some before) deadline).players
        (observer.build observation (some before) deadline).ball before ↔
      ∃ player old, touch.IsBy observer observation before
        (observer.build observation (some before) deadline) player old := by
  have hPrevious : ∀ snapshot, some before = some snapshot → snapshot.IsCoherent := by
    rintro snapshot ⟨⟩
    exact hBefore
  rw [TouchRules.mem_candidates_iff]
  constructor
  · rintro ⟨player, hPlayer, hTouch⟩
    obtain ⟨hZero, unum, old, kind, hUnum, hFind, hKind, hEq⟩ :=
      (observer.touchRules.touch?_eq_some_iff _ before player _ touch).mp hTouch
    obtain ⟨hKnown, hOldIdentity⟩ := (hBefore.find?_eq_some_iff _ old).mp hFind
    have hSide : touch.side = player.side := congrArg Touch.side hEq
    have hTouchUnum : touch.unum = unum := congrArg Touch.unum hEq
    have hIdentity : player.identity? = some ⟨touch.side, touch.unum⟩ :=
      Player.identity?_eq_some_iff.mpr ⟨hSide.symm, by rw [hUnum, hTouchUnum]⟩
    have hPrevDist : touch.prevDist = (old.position - before.ball.position).norm :=
      congrArg Touch.prevDist hEq
    have hCurrDist : touch.currDist = (player.position -
        (observer.build observation (some before) deadline).ball.position).norm :=
      congrArg Touch.currDist hEq
    have hTouchKind : touch.kind = kind := congrArg Touch.kind hEq
    rw [← hPrevDist, ← hCurrDist, ← hTouchKind, touchKind?_eq_some_iff] at hKind
    rw [← hSide, ← hTouchUnum] at hOldIdentity
    refine ⟨player, old, hPlayer, hIdentity, ?_, hKnown, hOldIdentity, hPrevDist, hCurrDist, hKind⟩
    exact (observer.seen_eq_zero_iff observation deadline hPrevious
      (List.mem_of_getElem? hPlayer) hIdentity).mp hZero
  · rintro ⟨player, old, hBy⟩
    obtain ⟨hSide, hUnum⟩ := Player.identity?_eq_some_iff.mp hBy.identity
    have hKind := (observer.touchKind?_eq_some_iff player touch).mpr hBy.kind_eq
    have hFind := (hBefore.find?_eq_some_iff _ old).mpr ⟨hBy.known, hBy.sameIdentity⟩
    refine ⟨player, hBy.position, ?_⟩
    rw [TouchRules.touch?_eq_some_iff]
    refine ⟨?_, touch.unum, old, touch.kind, hUnum, ?_, ?_, ?_⟩
    · exact (observer.seen_eq_zero_iff observation deadline hPrevious
        (List.mem_of_getElem? hBy.position) hBy.identity).mpr hBy.sighted
    · rw [hSide]
      exact hFind
    · rw [← hBy.prevDist_eq, ← hBy.currDist_eq]
      exact hKind
    · rw [← hBy.prevDist_eq, ← hBy.currDist_eq, hSide]

/-- Listed touches are of players on the sides that play. -/
theorem isAssigned_of_mem_attribution
    {snapshot : Snapshot R} (hCoherent : snapshot.IsCoherent) :
    ∀ touch ∈ snapshot.attribution.candidates, touch.side.isAssigned = true := by
  intro touch hTouch
  obtain ⟨player, hPlayer, hTouchSide, -⟩ := hCoherent.candidates touch hTouch
  rw [← hTouchSide]
  exact hCoherent.isAssigned player (List.mem_of_getElem? hPlayer)

section Touches

variable [Scalar.IsOrdered R] (hSide : observer.perspective.ourSide.isAssigned = true)
  {previous : Option (Snapshot R)}
  (hPrevious : ∀ snapshot, previous = some snapshot → snapshot.IsCoherent)

include hSide hPrevious

/-- Without a set play the attribution is one of touches, of none in the first cycle. -/
theorem isOfTouches_build (hMode : observation.playMode.restartSide = none) :
    (observer.build observation previous deadline).attribution.IsOfTouches fun touch =>
      touch ∈ (observer.build observation previous deadline).attribution.candidates := by
  have hCoherent := observer.isCoherent_build observation deadline hSide hPrevious
  have hAssigned := isAssigned_of_mem_attribution hCoherent
  cases previous with
  | none =>
      have hEq : (observer.build observation none deadline).attribution =
          TouchRules.attributeTouches [] := by
        rw [attribution_build, TouchRules.attribution_first hMode]
        rfl
      rw [hEq]
      exact TouchRules.attributeTouches_isOfTouches [] (by simp) (by simp) (by simp)
  | some before =>
      have hEq : (observer.build observation (some before) deadline).attribution =
          TouchRules.attributeTouches (observer.touchRules.candidates
            (observer.build observation (some before) deadline).players
            (observer.build observation (some before) deadline).ball before) := by
        rw [attribution_build, TouchRules.attribution_later before hMode]
      rw [hEq, TouchRules.candidates_attributeTouches] at hAssigned ⊢
      exact TouchRules.attributeTouches_isOfTouches _ hAssigned
        (observer.touchRules.nodup_player_candidates _ _ before)
        (observer.touchRules.pairwise_candidates _ _ before)

/-- A snapshot calls the kicker ambiguous exactly if both sides have a touch. -/
theorem isKickerAmbiguous_build_iff :
    (observer.build observation previous deadline).isKickerAmbiguous = true ↔
      ∃ a ∈ (observer.build observation previous deadline).attribution.candidates,
        ∃ b ∈ (observer.build observation previous deadline).attribution.candidates,
          a.side ≠ b.side := by
  have hCoherent := observer.isCoherent_build observation deadline hSide hPrevious
  have hContested := Touch.isContested_eq_true_iff (isAssigned_of_mem_attribution hCoherent)
  rw [Snapshot.isKickerAmbiguous, Bool.and_eq_true, hContested]
  constructor
  · exact And.right
  · intro hBoth
    refine ⟨?_, hBoth⟩
    -- Where touches are listed at all, they decide about the kicker.
    cases hMode : observation.playMode.restartSide with
    | some side =>
        obtain ⟨a, ha, -⟩ := hBoth
        rw [attribution_build, TouchRules.attribution_of_setPlay hMode] at ha
        contradiction
    | none =>
        have hTouches := observer.isOfTouches_build observation deadline hSide hPrevious hMode
        rw [← Option.not_isSome, Bool.not_eq_true', Bool.eq_false_iff, ne_eq,
          hTouches.isSome_kicker_iff]
        rintro ⟨-, hSame⟩
        obtain ⟨a, ha, b, hb, hDifferent⟩ := hBoth
        exact hDifferent (hSame a ha b hb)

end Touches

/-- Every build attributes the last touch as the play mode, the players and the snapshot before
demand. -/
theorem attributesTouch_build [Scalar.IsOrdered R]
    (hSide : observer.perspective.ourSide.isAssigned = true) (previous : Option (Snapshot R))
    (hPrevious : ∀ snapshot, previous = some snapshot → snapshot.IsReachable) :
    (observer.build observation previous deadline).AttributesTouch observer observation
      previous := by
  have hKnown : ∀ snapshot, previous = some snapshot → snapshot.IsCoherent :=
    fun snapshot hSnapshot => (hPrevious snapshot hSnapshot).isCoherent
  refine ⟨?_, ?_, ?_, observer.isKickerAmbiguous_build_iff observation deadline hSide hKnown⟩
  · intro kind side hMode hAssigned
    have hRestart : observation.playMode.restartSide = some side :=
      PlayMode.restartSide_eq_some_iff.mpr ⟨⟨kind, hMode⟩, hAssigned⟩
    rw [attribution_build, TouchRules.attribution_of_setPlay hRestart]
    exact TouchRules.attributeRestart_isSetPlay _ _ side
  · rintro hMode rfl
    rw [attribution_build, TouchRules.attribution_first (PlayMode.restartSide_eq_none hMode)]
    exact ⟨rfl, rfl, rfl⟩
  · rintro hMode before rfl
    have hRestart := PlayMode.restartSide_eq_none hMode
    have hTouches := observer.isOfTouches_build observation deadline hSide hKnown hRestart
    refine { hTouches with mem_candidates_iff := ?_ }
    intro touch
    rw [attribution_build, TouchRules.attribution_later before hRestart,
      TouchRules.candidates_attributeTouches]
    exact observer.mem_candidates_build_iff observation deadline (hKnown before rfl) touch

/-- Two players of different sides stand at the ball. -/
def beforeKick : CycleObservation Float where
  cycle := 1
  ball := some ⟨Vec2.zero, Vec2.zero⟩
  players :=
    [{ side := Side.left, unum := some 7, position := ⟨0.5, 0.0⟩ },
      { side := Side.right, unum := some 4, position := ⟨-0.5, 0.0⟩ }]

/-- One of them kicks and the other begins to tackle. -/
def duringKick : CycleObservation Float where
  cycle := 2
  ball := some ⟨⟨1.0, 0.0⟩, ⟨1.0, 0.0⟩⟩
  players :=
    [{ side := Side.left, unum := some 7, position := ⟨0.5, 0.0⟩, kicking := true },
      { side := Side.right, unum := some 4, position := ⟨-0.5, 0.0⟩, tackling := true }]

theorem attributesTouch_build_duringKick :
    Side.left.isAssigned = true ∧
      ∃ (observer : Observer Float) (before : Snapshot Float),
        (∀ snapshot, some before = some snapshot → snapshot.IsReachable) ∧
          (observer.build duringKick (some before) .ahead).AttributesTouch observer duringKick
            (some before) := by
  have hFirst : ((create Side.left (WorldConfig.standard (R := Float)) none).build beforeKick none
      .ahead).IsReachable := by
    refine Snapshot.IsReachable.build _ rfl _ _ ?_ _
    intro snapshot hNone
    contradiction
  have hReachable : ∀ snapshot, some ((create Side.left (WorldConfig.standard (R := Float))
      none).build beforeKick none .ahead) = some snapshot → snapshot.IsReachable := by
    rintro snapshot ⟨⟩
    exact hFirst
  exact ⟨rfl, create Side.left WorldConfig.standard none, _, hReachable,
    attributesTouch_build (create Side.left WorldConfig.standard none) duringKick .ahead rfl _
      hReachable⟩

end Observer

end SoccerWorld
