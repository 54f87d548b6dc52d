import SoccerWorld.Proofs.Snapshot.Untimed
import SoccerWorld.Proofs.Tactics.Offside
import SoccerWorld.Proofs.World.LastTouch

/-!
# Deadlines decide about reach steps only

Two runs over the same observations, with any deadlines, publish snapshots that agree
(`WorldModel.agrees_trace`): the ball, what is known of every player, the offside lines, the faults
and the plausible touches are the same.  Reach steps differ, and with them the order of the players,
the positions in it, and who is fastest.

`Snapshot.Agrees` lists what is the same.  One build leads from snapshots with the same ball and the
same players to snapshots that agree (`Observer.agrees_build`).
-/

namespace SoccerWorld

variable {R : Type} [Scalar R]

/-- The touch without the position of its player. -/
def Touch.unplaced (touch : Touch R) : Touch R :=
  { touch with player := 0 }

omit [Scalar R] in
theorem Touch.congr_unplaced {β : Sort _} (f : Touch R → β)
    (hf : ∀ touch, f touch.unplaced = f touch) {touch other : Touch R}
    (hSame : touch.unplaced = other.unplaced) : f touch = f other := by
  rw [← hf touch, hSame, hf other]

omit [Scalar R] in
theorem Touch.exists_unplaced_eq {touches others : List (Touch R)}
    (hSame : (touches.map unplaced).Perm (others.map unplaced)) {touch : Touch R}
    (hTouch : touch ∈ others) : ∃ same ∈ touches, same.unplaced = touch.unplaced := by
  have hMem : touch.unplaced ∈ touches.map unplaced :=
    hSame.mem_iff.mpr (List.mem_map_of_mem hTouch)
  exact List.mem_map.mp hMem

omit [Scalar R] in
theorem Touch.exists_sides_ne_of_perm {touches others : List (Touch R)}
    (hSame : (touches.map unplaced).Perm (others.map unplaced))
    (hBoth : ∃ a ∈ touches, ∃ b ∈ touches, a.side ≠ b.side) :
    ∃ a ∈ others, ∃ b ∈ others, a.side ≠ b.side := by
  obtain ⟨a, ha, b, hb, hDifferent⟩ := hBoth
  obtain ⟨a', ha', haEq⟩ := exists_unplaced_eq hSame.symm ha
  obtain ⟨b', hb', hbEq⟩ := exists_unplaced_eq hSame.symm hb
  refine ⟨a', ha', b', hb', ?_⟩
  rw [congr_unplaced Touch.side (fun _ => rfl) haEq, congr_unplaced Touch.side (fun _ => rfl) hbEq]
  exact hDifferent

/-- The event with its deadline passed. -/
def WorldEvent.untimed : WorldEvent R → WorldEvent R
  | update observation _ => update observation .passed
  | reset => reset

namespace Snapshot

/-- The listed touches, each with its player instead of the player's position. -/
def namedTouches (snapshot : Snapshot R) : List (Option (Player R) × Touch R) :=
  snapshot.attribution.candidates.map fun touch =>
    ((snapshot.player? touch.player).map Player.unevaluated, touch.unplaced)

/-- Who the kicker is. -/
def kickerIdentity? (snapshot : Snapshot R) : Option Identity :=
  (snapshot.attribution.kicker.bind snapshot.player?).bind Player.identity?

/-- The least distance that counts for the last touch is attained by one player: at a set play the
distance of a numbered player of the side, otherwise that of a touch in the cycle before. -/
def HasOneNearest (snapshot : Snapshot R) : Prop :=
  match snapshot.playMode.restartSide with
  | some side =>
      ∃ player ∈ snapshot.players, player.IsNumberedOf side ∧
        ∀ rival ∈ snapshot.players, rival.IsNumberedOf side →
          Scalar.precedes (rival.squaredDistance snapshot.ball)
            (player.squaredDistance snapshot.ball) = true →
          rival.identity? = player.identity?
  | none =>
      ∃ first ∈ snapshot.attribution.candidates, ∀ touch ∈ snapshot.attribution.candidates,
        Scalar.precedes touch.prevDist first.prevDist = true → touch.player = first.player

/-- Two snapshots differ at most in reach steps, in the order of the players, in positions in that
order, and in who is fastest. -/
structure Agrees (one other : Snapshot R) : Prop where
  cycle_eq : one.cycle = other.cycle
  perspective_eq : one.perspective = other.perspective
  selfUnum_eq : one.selfUnum = other.selfUnum
  playMode_eq : one.playMode = other.playMode
  ball_eq : one.ball = other.ball
  trajectory_eq : one.trajectory = other.trajectory
  diagnostics_eq : one.diagnostics = other.diagnostics
  ourOffsideLine_eq : one.ourOffsideLine = other.ourOffsideLine
  theirOffsideLine_eq : one.theirOffsideLine = other.theirOffsideLine
  /-- The same of every identity. -/
  find?_eq : ∀ identity, (one.find? identity).map Player.unevaluated =
    (other.find? identity).map Player.unevaluated
  /-- The same players without a known number. -/
  unnumbered : SamePlayers (one.players.filter fun player => player.unum.isNone)
    (other.players.filter fun player => player.unum.isNone)
  players : SamePlayers one.players other.players
  /-- The same touches. -/
  touches : one.namedTouches.Perm other.namedTouches
  /-- Touches are in the same order, but for those of equal distance. -/
  prevDist_eq : one.attribution.candidates.map Touch.prevDist =
    other.attribution.candidates.map Touch.prevDist
  kickerSide_eq : one.attribution.kickerSide = other.attribution.kickerSide
  ambiguous_eq : one.isKickerAmbiguous = other.isKickerAmbiguous
  isSome_kicker_eq : one.attribution.kicker.isSome = other.attribution.kicker.isSome
  /-- The same kicker, where no two players are equally near. -/
  kicker_eq : one.HasOneNearest → one.kickerIdentity? = other.kickerIdentity?

end Snapshot

/-! ## The same touches -/

namespace TouchRules

variable (touchRules : TouchRules R) {one other : Snapshot R}

/-- A touch is recorded in the same way after snapshots that know the same of every identity. -/
theorem touch?_congr (hBall : one.ball = other.ball)
    (hFind : ∀ identity, (one.find? identity).map Player.unevaluated =
      (other.find? identity).map Player.unevaluated)
    (ball : Ball R) (player : Player R) (index : Nat) :
    touchRules.touch? ball one player index = touchRules.touch? ball other player index := by
  unfold touch?
  split
  · rfl
  · cases player.identity? with
    | none => rfl
    | some identity =>
        have hKnown := hFind identity
        simp only [Option.bind_eq_bind, Option.bind_some]
        cases hOne : one.find? identity with
        | none =>
            rw [hOne, Option.map_none, eq_comm, Option.map_eq_none_iff] at hKnown
            rw [hKnown]
            rfl
        | some before =>
            rw [hOne, Option.map_some, eq_comm, Option.map_eq_some_iff] at hKnown
            obtain ⟨before', hOther, hSame⟩ := hKnown
            have hPosition := Player.congr_unevaluated Player.position (fun _ => rfl) hSame
            rw [hOther]
            simp only [Option.bind_some, hPosition, hBall]

/-- The touch of a player, with the player itself in place of its position. -/
def namedTouch? (ball : Ball R) (previous : Snapshot R) (player : Player R) :
    Option (Option (Player R) × Touch R) :=
  (touchRules.touch? ball previous player 0).map fun touch => (some player.unevaluated, touch)

theorem map_unplaced_touch? (ball : Ball R) (previous : Snapshot R) (player : Player R)
    (index : Nat) :
    (touchRules.touch? ball previous player index).map Touch.unplaced =
      touchRules.touch? ball previous player 0 := by
  ext touch
  rw [Option.map_eq_some_iff, touch?_eq_some_iff]
  constructor
  · rintro ⟨placed, hPlaced, rfl⟩
    obtain ⟨hSeen, unum, before, kind, hUnum, hFind, hKind, rfl⟩ :=
      (touchRules.touch?_eq_some_iff ball previous player index placed).mp hPlaced
    exact ⟨hSeen, unum, before, kind, hUnum, hFind, hKind, rfl⟩
  · rintro ⟨hSeen, unum, before, kind, hUnum, hFind, hKind, rfl⟩
    refine ⟨_, (touchRules.touch?_eq_some_iff ball previous player index _).mpr
      ⟨hSeen, unum, before, kind, hUnum, hFind, hKind, rfl⟩, rfl⟩

/-- Listed touches by player: no position is left in them. -/
theorem map_candidates_perm (players : List (Player R)) (ball : Ball R) (previous : Snapshot R) :
    ((touchRules.candidates players ball previous).map fun touch =>
        ((players[touch.player]?).map Player.unevaluated, touch.unplaced)).Perm
      (players.filterMap (touchRules.namedTouch? ball previous)) := by
  have hNamed : ((players.zipIdx.filterMap fun entry =>
      touchRules.touch? ball previous entry.1 entry.2).map fun touch =>
        ((players[touch.player]?).map Player.unevaluated, touch.unplaced)) =
      players.zipIdx.filterMap fun entry => touchRules.namedTouch? ball previous entry.1 := by
    rw [List.map_filterMap]
    refine List.filterMap_congr ?_
    rintro ⟨player, index⟩ hEntry
    have hPlayer := List.mk_mem_zipIdx_iff_getElem?.mp hEntry
    dsimp only
    rw [namedTouch?, ← touchRules.map_unplaced_touch? ball previous player index, Option.map_map]
    refine Option.map_congr ?_
    intro touch hTouch
    rw [touchRules.player_of_touch? ball previous hTouch, hPlayer]
    rfl
  have hPlain : (players.zipIdx.filterMap fun entry =>
      touchRules.namedTouch? ball previous entry.1) =
      players.filterMap (touchRules.namedTouch? ball previous) := by
    have hUnzip := List.zipIdx_map_fst 0 players
    conv_rhs => rw [← hUnzip, List.filterMap_map]
    rfl
  rw [← hPlain, ← hNamed]
  exact (List.mergeSort_perm _ _).map _

end TouchRules

/-! ## The same kicker -/

/-- Two attributions that list touches at the same distances, and name a kicker for the same side or
none. -/
structure Attribution.IsLike (one other : Attribution R) : Prop where
  prevDist_eq : one.candidates.map Touch.prevDist = other.candidates.map Touch.prevDist
  kickerSide_eq : one.kickerSide = other.kickerSide
  isSome_kicker_eq : one.kicker.isSome = other.kicker.isSome

namespace Attribution.IsOfTouches

variable {one other : Attribution R} {isTouch isOtherTouch : Touch R → Prop}
  (hOne : one.IsOfTouches isTouch) (hOther : other.IsOfTouches isOtherTouch)
  (hSame : (one.candidates.map Touch.unplaced).Perm (other.candidates.map Touch.unplaced))

/-- There is a kicker exactly if the touches are of one side. -/
theorem isSome_kicker_iff_sides (hOne : one.IsOfTouches isTouch) :
    one.kicker.isSome = true ↔ one.candidates.map Touch.side ≠ [] ∧
      ∀ a ∈ one.candidates.map Touch.side, ∀ b ∈ one.candidates.map Touch.side, a = b := by
  rw [hOne.isSome_kicker_iff, List.forall_mem_map, ne_eq, ne_eq, List.map_eq_nil_iff]
  simp only [List.forall_mem_map]

include hOne hOther hSame

theorem prevDist_eq_of_perm [Scalar.IsOrdered R] :
    one.candidates.map Touch.prevDist = other.candidates.map Touch.prevDist := by
  have hPerm := hSame.map Touch.prevDist
  rw [List.map_map, List.map_map] at hPerm
  have hSorted : ∀ {attribution : Attribution R} {isTouch : Touch R → Prop},
      attribution.IsOfTouches isTouch → (attribution.candidates.map Touch.prevDist).Pairwise
        fun a b => Scalar.precedes a b = true := by
    intro attribution isTouch hTouches
    rw [List.pairwise_map]
    exact hTouches.sorted.imp And.left
  refine List.Perm.eq_of_pairwise ?_ (hSorted hOne) (hSorted hOther) hPerm
  intro a b _ _ hab hba
  exact Scalar.IsOrdered.precedes_antisymm a b hab hba

theorem isSome_kicker_eq_of_perm : one.kicker.isSome = other.kicker.isSome := by
  have hSides : (one.candidates.map Touch.side).Perm (other.candidates.map Touch.side) := by
    have hMap := hSame.map Touch.side
    rw [List.map_map, List.map_map] at hMap
    exact hMap
  have hLength := hSides.length_eq
  have hMem : ∀ side, side ∈ one.candidates.map Touch.side ↔
      side ∈ other.candidates.map Touch.side := fun side => hSides.mem_iff
  rw [Bool.eq_iff_iff, hOne.isSome_kicker_iff_sides, hOther.isSome_kicker_iff_sides, ne_eq, ne_eq,
    ← List.length_eq_zero_iff, ← List.length_eq_zero_iff, hLength]
  simp only [hMem]

theorem kickerSide_eq_of_perm : one.kickerSide = other.kickerSide := by
  have hKickers := hOne.isSome_kicker_eq_of_perm hOther hSame
  cases hKicker : one.kicker with
  | none =>
      rw [hKicker, Option.isSome_none, eq_comm, Option.isSome_eq_false_iff,
        Option.isNone_iff_eq_none] at hKickers
      rw [hOne.kickerSide_eq_none_iff.mpr hKicker, hOther.kickerSide_eq_none_iff.mpr hKickers]
  | some index =>
      rw [hKicker, Option.isSome_some, eq_comm, Option.isSome_iff_exists] at hKickers
      obtain ⟨index', hKicker'⟩ := hKickers
      obtain ⟨first, hFirst, -, hSide, -⟩ := hOne.first_of_kicker index hKicker
      obtain ⟨first', hFirst', -, hSide', -⟩ := hOther.first_of_kicker index' hKicker'
      -- Where there is a kicker all touches are of its side, also in the other order.
      obtain ⟨same, hMem, hEqual⟩ := Touch.exists_unplaced_eq hSame (List.mem_of_head? hFirst')
      have hOneSided := (hOne.isSome_kicker_iff.mp (by rw [hKicker]; rfl)).2
      have hSideEq := Touch.congr_unplaced Touch.side (fun _ => rfl) hEqual
      rw [hSide, hSide', hOneSided first (List.mem_of_head? hFirst) same hMem, hSideEq]

theorem isLike [Scalar.IsOrdered R] : one.IsLike other :=
  ⟨hOne.prevDist_eq_of_perm hOther hSame, hOne.kickerSide_eq_of_perm hOther hSame,
    hOne.isSome_kicker_eq_of_perm hOther hSame⟩

end Attribution.IsOfTouches

/-- At a set play of the same players there is a kicker in both cases or in none. -/
theorem Attribution.IsSetPlay.isLike {one other : Attribution R} {ball otherBall : Ball R}
    {players others : List (Player R)} {side : Side} (hOne : one.IsSetPlay players ball side)
    (hOther : other.IsSetPlay others otherBall side) (hPlayers : SamePlayers players others) :
    one.IsLike other := by
  have hNone : ∀ {players others : List (Player R)}, SamePlayers players others →
      (∀ player ∈ players, ¬ player.IsNumberedOf side) →
        ∀ player ∈ others, ¬ player.IsNumberedOf side := by
    intro players others hSame hAbsent player hPlayer
    obtain ⟨twin, hTwin, hTwinEq⟩ := hSame.symm.exists_mem hPlayer
    have hNumbered := Player.congr_unevaluated (Player.IsNumberedOf side) (fun _ => rfl) hTwinEq
    rw [← hNumbered]
    exact hAbsent twin hTwin
  refine ⟨?_, ?_, ?_⟩
  · rw [hOne.candidates_eq, hOther.candidates_eq]
  · rw [hOne.kickerSide_eq, hOther.kickerSide_eq]
  · rw [Bool.eq_iff_iff, ← not_iff_not, Bool.not_eq_true, Bool.not_eq_true,
      Option.isSome_eq_false_iff, Option.isSome_eq_false_iff, Option.isNone_iff_eq_none,
      Option.isNone_iff_eq_none, hOne.kicker_eq_none_iff, hOther.kicker_eq_none_iff]
    exact ⟨hNone hPlayers, hNone hPlayers.symm⟩

namespace Snapshot

variable {one other : Snapshot R}

theorem kickerIdentity?_eq_of_mem (hCoherent : one.IsCoherent) {touch : Touch R}
    (hTouch : touch ∈ one.attribution.candidates)
    (hKicker : one.attribution.kicker = some touch.player) :
    one.kickerIdentity? = some ⟨touch.side, touch.unum⟩ := by
  obtain ⟨player, hPlayer, hSide, hUnum⟩ := hCoherent.candidates touch hTouch
  rw [kickerIdentity?, hKicker, Option.bind_some, hPlayer, Option.bind_some]
  exact Player.identity?_eq_some_iff.mpr ⟨hSide, hUnum⟩

/-- Touches at one position of a coherent snapshot are touches of one player. -/
theorem touch_identity_eq (hCoherent : one.IsCoherent) {touch first : Touch R}
    (hTouch : touch ∈ one.attribution.candidates) (hFirst : first ∈ one.attribution.candidates)
    (hPlayer : touch.player = first.player) :
    touch.side = first.side ∧ touch.unum = first.unum := by
  obtain ⟨player, hAt, hSide, hUnum⟩ := hCoherent.candidates touch hTouch
  obtain ⟨player', hAt', hSide', hUnum'⟩ := hCoherent.candidates first hFirst
  rw [hPlayer, hAt'] at hAt
  obtain rfl := Option.some.inj hAt
  rw [hUnum] at hUnum'
  exact ⟨hSide.symm.trans hSide', Option.some.inj hUnum'⟩

/-- The first of the same touches is the same player, where one player was nearest. -/
theorem kickerIdentity?_eq_of_touches {isTouch isOtherTouch : Touch R → Prop}
    (hOne : one.IsCoherent) (hOther : other.IsCoherent)
    (hTouches : one.attribution.IsOfTouches isTouch)
    (hTouches' : other.attribution.IsOfTouches isOtherTouch)
    (hSame : (one.attribution.candidates.map Touch.unplaced).Perm
      (other.attribution.candidates.map Touch.unplaced))
    (hNearest : ∃ first ∈ one.attribution.candidates, ∀ touch ∈ one.attribution.candidates,
      Scalar.precedes touch.prevDist first.prevDist = true → touch.player = first.player) :
    one.kickerIdentity? = other.kickerIdentity? := by
  have hKickers := hTouches.isSome_kicker_eq_of_perm hTouches' hSame
  cases hKicker : one.attribution.kicker with
  | none =>
      rw [hKicker, Option.isSome_none, eq_comm, Option.isSome_eq_false_iff,
        Option.isNone_iff_eq_none] at hKickers
      rw [kickerIdentity?, kickerIdentity?, hKicker, hKickers]
      rfl
  | some index =>
      rw [hKicker, Option.isSome_some, eq_comm, Option.isSome_iff_exists] at hKickers
      obtain ⟨index', hKicker'⟩ := hKickers
      obtain ⟨nearest, hNearestMem, hOnly⟩ := hNearest
      obtain ⟨first, hHead, rfl, -, hLeast⟩ := hTouches.first_of_kicker index hKicker
      obtain ⟨first', hHead', rfl, -, hLeast'⟩ := hTouches'.first_of_kicker index' hKicker'
      have hFirst := List.mem_of_head? hHead
      have hFirst' := List.mem_of_head? hHead'
      -- `same` is the other snapshot's first touch, and `twin` is the nearest one over there.
      obtain ⟨same, hSameMem, hSameEq⟩ :=
        Touch.exists_unplaced_eq hSame hFirst'
      obtain ⟨twin, hTwin, hTwinEq⟩ :=
        Touch.exists_unplaced_eq hSame.symm hNearestMem
      have hSameDist := Touch.congr_unplaced Touch.prevDist (fun _ => rfl) hSameEq
      have hTwinDist := Touch.congr_unplaced Touch.prevDist (fun _ => rfl) hTwinEq
      have hSameNear : Scalar.precedes same.prevDist nearest.prevDist = true := by
        rw [hSameDist, ← hTwinDist]
        exact hLeast' twin hTwin
      have hFirstNear := hLeast nearest hNearestMem
      have hPlayer : same.player = first.player :=
        (hOnly same hSameMem hSameNear).trans (hOnly first hFirst hFirstNear).symm
      obtain ⟨hSide, hUnum⟩ := touch_identity_eq hOne hSameMem hFirst hPlayer
      have hSide' := Touch.congr_unplaced Touch.side (fun _ => rfl) hSameEq
      have hUnum' := Touch.congr_unplaced Touch.unum (fun _ => rfl) hSameEq
      rw [kickerIdentity?_eq_of_mem hOne hFirst hKicker,
        kickerIdentity?_eq_of_mem hOther hFirst' hKicker', ← hSide, ← hUnum, hSide', hUnum']

/-- At a set play the nearest of the same players is the same player, where one was nearest. -/
theorem kickerIdentity?_eq_of_setPlay {side : Side}
    (hPlayers : SamePlayers one.players other.players) (hBall : one.ball = other.ball)
    (hSetPlay : one.attribution.IsSetPlay one.players one.ball side)
    (hSetPlay' : other.attribution.IsSetPlay other.players other.ball side)
    (hNearest : ∃ player ∈ one.players, player.IsNumberedOf side ∧
      ∀ rival ∈ one.players, rival.IsNumberedOf side →
        Scalar.precedes (rival.squaredDistance one.ball) (player.squaredDistance one.ball) = true →
          rival.identity? = player.identity?) :
    one.kickerIdentity? = other.kickerIdentity? := by
  obtain ⟨nearest, hMem, hNumbered, hOnly⟩ := hNearest
  obtain ⟨twin, hTwin, hTwinEq⟩ := hPlayers.exists_mem hMem
  have hTwinNumbered : twin.IsNumberedOf side :=
    (Player.congr_unevaluated (Player.IsNumberedOf side) (fun _ => rfl) hTwinEq).mpr hNumbered
  cases hKicker : one.attribution.kicker with
  | none => exact absurd hNumbered (hSetPlay.kicker_eq_none_iff.mp hKicker nearest hMem)
  | some index =>
      cases hKicker' : other.attribution.kicker with
      | none =>
          exact absurd hTwinNumbered (hSetPlay'.kicker_eq_none_iff.mp hKicker' twin hTwin)
      | some index' =>
          obtain ⟨player, hPlayer, hPlayerNumbered, hLeast⟩ :=
            (hSetPlay.kicker_eq_some_iff index).mp hKicker
          obtain ⟨player', hPlayer', hPlayerNumbered', hLeast'⟩ :=
            (hSetPlay'.kicker_eq_some_iff index').mp hKicker'
          obtain ⟨position, hPosition⟩ := List.mem_iff_getElem?.mp hMem
          obtain ⟨position', hPosition'⟩ := List.mem_iff_getElem?.mp hTwin
          -- `same` is the other snapshot's nearest player, as this snapshot has it.
          obtain ⟨same, hSame, hSameEq⟩ :=
            hPlayers.symm.exists_mem (List.mem_of_getElem? hPlayer')
          have hSameNumbered : same.IsNumberedOf side :=
            (Player.congr_unevaluated (Player.IsNumberedOf side) (fun _ => rfl) hSameEq).mpr
              hPlayerNumbered'
          have hSameDistance := Player.congr_unevaluated (Player.squaredDistance one.ball)
            (fun _ => rfl) hSameEq
          have hTwinDistance := Player.congr_unevaluated (Player.squaredDistance one.ball)
            (fun _ => rfl) hTwinEq
          have hSameIdentity := Player.congr_unevaluated Player.identity? (fun _ => rfl) hSameEq
          have hPlayerNear := (hLeast position nearest hPosition hNumbered).1
          have hSameNear := (hLeast' position' twin hPosition' hTwinNumbered).1
          rw [← hBall, hTwinDistance, ← hSameDistance] at hSameNear
          have hFirst := hOnly player (List.mem_of_getElem? hPlayer) hPlayerNumbered hPlayerNear
          have hSecond := hOnly same hSame hSameNumbered hSameNear
          rw [kickerIdentity?, kickerIdentity?, hKicker, hKicker', Option.bind_some,
            Option.bind_some, player?, player?, hPlayer, hPlayer', Option.bind_some,
            Option.bind_some, hFirst, ← hSecond, hSameIdentity]

end Snapshot

/-! ## Two builds with the same players -/

namespace Observer

/-- At a set play there are no touches, and one side's nearest player counts. -/
theorem isSetPlay_build [Scalar.IsOrdered R] (observer : Observer R)
    (observation : CycleObservation R) {side : Side}
    (hMode : observation.playMode.restartSide = some side) (previous : Option (Snapshot R))
    (deadline : Deadline) :
    (observer.build observation previous deadline).attribution.IsSetPlay
      (observer.build observation previous deadline).players
      (observer.build observation previous deadline).ball side := by
  rw [attribution_build, TouchRules.attribution_of_setPlay hMode]
  exact TouchRules.attributeRestart_isSetPlay _ _ side

section SameTouches

variable [Scalar.IsOrdered R] (observer : Observer R)
  {observation observation' : CycleObservation R} {previous previous' : Option (Snapshot R)}
  {deadline deadline' : Deadline} (hMode : observation.playMode = observation'.playMode)
  (hSide : observer.perspective.ourSide.isAssigned = true)
  (hPrevious : ∀ snapshot, previous = some snapshot → snapshot.IsCoherent)
  (hPrevious' : ∀ snapshot, previous' = some snapshot → snapshot.IsCoherent)
  (hPlayers : SamePlayers (observer.build observation previous deadline).players
    (observer.build observation' previous' deadline').players)
  (hSame : ((observer.build observation previous deadline).attribution.candidates.map
      Touch.unplaced).Perm
    ((observer.build observation' previous' deadline').attribution.candidates.map
      Touch.unplaced))

include hSide hPrevious hPrevious' hSame

theorem isKickerAmbiguous_eq_of_perm :
    (observer.build observation previous deadline).isKickerAmbiguous =
      (observer.build observation' previous' deadline').isKickerAmbiguous := by
  rw [Bool.eq_iff_iff, observer.isKickerAmbiguous_build_iff observation deadline hSide hPrevious,
    observer.isKickerAmbiguous_build_iff observation' deadline' hSide hPrevious']
  exact ⟨Touch.exists_sides_ne_of_perm hSame, Touch.exists_sides_ne_of_perm hSame.symm⟩

include hMode hPlayers

theorem isLike_of_samePlayers :
    (observer.build observation previous deadline).attribution.IsLike
      (observer.build observation' previous' deadline').attribution := by
  cases hRestart : observation.playMode.restartSide with
  | some side =>
      have hRestart' := hMode ▸ hRestart
      have hOne := observer.isSetPlay_build observation hRestart previous deadline
      have hOther := observer.isSetPlay_build observation' hRestart' previous' deadline'
      exact hOne.isLike hOther hPlayers
  | none =>
      have hRestart' := hMode ▸ hRestart
      have hOne := observer.isOfTouches_build observation deadline hSide hPrevious hRestart
      have hOther := observer.isOfTouches_build observation' deadline' hSide hPrevious' hRestart'
      exact hOne.isLike hOther hSame

theorem kickerIdentity?_eq_of_samePlayers
    (hBall : (observer.build observation previous deadline).ball =
      (observer.build observation' previous' deadline').ball)
    (hNearest : (observer.build observation previous deadline).HasOneNearest) :
    (observer.build observation previous deadline).kickerIdentity? =
      (observer.build observation' previous' deadline').kickerIdentity? := by
  have hPlayMode : (observer.build observation previous deadline).playMode =
      observation.playMode := rfl
  unfold Snapshot.HasOneNearest at hNearest
  rw [hPlayMode] at hNearest
  cases hRestart : observation.playMode.restartSide with
  | some side =>
      have hRestart' := hMode ▸ hRestart
      rw [hRestart] at hNearest
      exact Snapshot.kickerIdentity?_eq_of_setPlay hPlayers hBall
        (observer.isSetPlay_build observation hRestart previous deadline)
        (observer.isSetPlay_build observation' hRestart' previous' deadline') hNearest
  | none =>
      have hRestart' := hMode ▸ hRestart
      rw [hRestart] at hNearest
      exact Snapshot.kickerIdentity?_eq_of_touches
        (observer.isCoherent_build observation deadline hSide hPrevious)
        (observer.isCoherent_build observation' deadline' hSide hPrevious')
        (observer.isOfTouches_build observation deadline hSide hPrevious hRestart)
        (observer.isOfTouches_build observation' deadline' hSide hPrevious' hRestart') hSame
        hNearest

end SameTouches

/-- The coordinates from which an offside line is drawn are the same. -/
theorem teamLine_perm (isTeam : Side → Bool) {players others : List (Player R)}
    (hPlayers : SamePlayers players others) :
    (teamLine isTeam players).Perm (teamLine isTeam others) := by
  unfold teamLine
  have hTeam := hPlayers.filter (fun player => isTeam player.side) fun _ => rfl
  exact hTeam.map_perm fun _ => rfl

section SamePlayers

variable (observer : Observer R) {observation observation' : CycleObservation R}
  {previous previous' : Option (Snapshot R)} {deadline deadline' : Deadline}
  (hPast : SamePast previous previous') (hMode : observation.playMode = observation'.playMode)
  (hBall : (observer.build observation previous deadline).ball =
    (observer.build observation' previous' deadline').ball)
  (hPlayers : SamePlayers (observer.build observation previous deadline).players
    (observer.build observation' previous' deadline').players)

include hPast hMode hBall hPlayers

theorem namedTouches_perm_of_samePlayers :
    (observer.build observation previous deadline).namedTouches.Perm
      (observer.build observation' previous' deadline').namedTouches := by
  unfold Snapshot.namedTouches
  rw [attribution_build, attribution_build, ← hMode, ← hBall]
  cases hRestart : observation.playMode.restartSide with
  | some side =>
      rw [TouchRules.attribution_of_setPlay hRestart, TouchRules.attribution_of_setPlay hRestart]
      exact List.Perm.refl _
  | none =>
      cases hPast with
      | none =>
          rw [TouchRules.attribution_first hRestart, TouchRules.attribution_first hRestart]
          exact List.Perm.refl _
      | @some one other hOne hOther hPastBall hPastPlayers =>
          generalize hNow : (observer.build observation (some one) deadline).ball = ball
          have hNamed : observer.touchRules.namedTouch? ball one =
              observer.touchRules.namedTouch? ball other := by
            funext player
            unfold TouchRules.namedTouch?
            rw [observer.touchRules.touch?_congr hPastBall
              (Snapshot.map_find?_eq_of_samePlayers hOne hOther hPastPlayers)]
          have hPerm := observer.touchRules.map_candidates_perm
            (observer.build observation (some one) deadline).players ball one
          have hPerm' := observer.touchRules.map_candidates_perm
            (observer.build observation' (some other) deadline').players ball other
          have hTouches := hPlayers.filterMap_perm (f := observer.touchRules.namedTouch? ball one)
            fun _ => rfl
          rw [TouchRules.attribution_later one hRestart,
            TouchRules.attribution_later other hRestart, TouchRules.candidates_attributeTouches,
            TouchRules.candidates_attributeTouches]
          rw [← hNamed] at hPerm'
          exact (hPerm.trans hTouches).trans hPerm'.symm

theorem candidates_perm_of_samePlayers :
    ((observer.build observation previous deadline).attribution.candidates.map
        Touch.unplaced).Perm
      ((observer.build observation' previous' deadline').attribution.candidates.map
        Touch.unplaced) := by
  have hTouches := observer.namedTouches_perm_of_samePlayers hPast hMode hBall hPlayers
  have hUnplaced := hTouches.map Prod.snd
  unfold Snapshot.namedTouches at hUnplaced
  rw [List.map_map, List.map_map] at hUnplaced
  exact hUnplaced

/-- Builds with the same ball and the same players agree, but for the faults, which are those of
the records. -/
theorem agrees_of_samePlayers [Scalar.IsOrdered R]
    (hSide : observer.perspective.ourSide.isAssigned = true)
    (hCycle : observation.cycle = observation'.cycle) :
    (observer.build observation previous deadline).Agrees
      { observer.build observation' previous' deadline' with
        diagnostics := (observer.build observation previous deadline).diagnostics } := by
  obtain ⟨hPrevious, hPrevious'⟩ := hPast.coherent
  have hFind := Snapshot.map_find?_eq_of_samePlayers
    (observer.isCoherent_build observation deadline hSide hPrevious)
    (observer.isCoherent_build observation' deadline' hSide hPrevious') hPlayers
  have hTouches := observer.candidates_perm_of_samePlayers hPast hMode hBall hPlayers
  have hLike := observer.isLike_of_samePlayers hMode hSide hPrevious hPrevious' hPlayers hTouches
  have hTrajectory : observer.trajectoryOf (observer.build observation previous deadline).ball =
      observer.trajectoryOf (observer.build observation' previous' deadline').ball := by
    rw [hBall]
  exact {
    cycle_eq := hCycle
    perspective_eq := rfl
    selfUnum_eq := rfl
    playMode_eq := hMode
    ball_eq := hBall
    trajectory_eq := hTrajectory
    diagnostics_eq := rfl
    ourOffsideLine_eq := Offside.lineTowardNegative_perm (teamLine_perm _ hPlayers)
    theirOffsideLine_eq := Offside.lineTowardPositive_perm (teamLine_perm _ hPlayers)
    find?_eq := hFind
    unnumbered := hPlayers.filter _ fun _ => rfl
    players := hPlayers
    touches := observer.namedTouches_perm_of_samePlayers hPast hMode hBall hPlayers
    prevDist_eq := hLike.prevDist_eq
    kickerSide_eq := hLike.kickerSide_eq
    ambiguous_eq := observer.isKickerAmbiguous_eq_of_perm hSide hPrevious hPrevious' hTouches
    isSome_kicker_eq := hLike.isSome_kicker_eq
    kicker_eq := observer.kickerIdentity?_eq_of_samePlayers hMode hSide hPrevious hPrevious'
      hPlayers hTouches hBall }

end SamePlayers

/-! ## One build -/

section Agreement

variable (observer : Observer R) (observation : CycleObservation R)
  {previous previous' : Option (Snapshot R)} (hPast : SamePast previous previous')
  (deadline deadline' : Deadline) (hSide : observer.perspective.ourSide.isAssigned = true)

include hPast hSide

/-- After snapshots with the same ball and the same players, one observation leads to snapshots that
agree, whatever the deadlines are. -/
theorem agrees_build [Scalar.IsOrdered R] :
    (observer.build observation previous deadline).Agrees
      (observer.build observation previous' deadline') :=
  observer.agrees_of_samePlayers hPast rfl
    (observer.ball_build_eq observation hPast deadline deadline')
    (observer.samePlayers_build observation hPast deadline deadline') hSide rfl

/-- What two runs know stays the same. -/
theorem samePast_build :
    SamePast (some (observer.build observation previous deadline))
      (some (observer.build observation previous' deadline')) := by
  obtain ⟨hPrevious, hPrevious'⟩ := hPast.coherent
  exact SamePast.some (observer.isCoherent_build observation deadline hSide hPrevious)
    (observer.isCoherent_build observation deadline' hSide hPrevious')
    (observer.ball_build_eq observation hPast deadline deadline')
    (observer.samePlayers_build observation hPast deadline deadline')

end Agreement

end Observer

/-! ## Every run -/

namespace WorldModel

/-- Two models of one observer that know the same ball and the same players. -/
structure IsTwin (model other : WorldModel R) : Prop where
  observer_eq : model.observer = other.observer
  isAssigned : model.observer.perspective.ourSide.isAssigned = true
  past : Observer.SamePast model.current other.current

/-- One event, with any two deadlines, leads to snapshots that agree, and to models that know the
same. -/
theorem IsTwin.step [Scalar.IsOrdered R] {model other : WorldModel R}
    (hTwin : model.IsTwin other) {event event' : WorldEvent R}
    (hSame : event.untimed = event'.untimed) :
    Option.Rel Snapshot.Agrees (model.step event).current (other.step event').current ∧
      (model.step event).IsTwin (other.step event') := by
  have hObserver : (model.step event).observer = (other.step event').observer := by
    rw [observer_step, observer_step, hTwin.observer_eq]
  have hAssigned : (model.step event).observer.perspective.ourSide.isAssigned = true := by
    rw [observer_step]
    exact hTwin.isAssigned
  cases event with
  | reset =>
      cases event' with
      | reset => exact ⟨Option.Rel.none, hObserver, hAssigned, Observer.SamePast.none⟩
      | update observation' deadline' => contradiction
  | update observation deadline =>
      cases event' with
      | reset => contradiction
      | update observation' deadline' =>
          obtain ⟨rfl, -⟩ := WorldEvent.update.inj hSame
          have hAgrees := model.observer.agrees_build observation hTwin.past deadline deadline'
            hTwin.isAssigned
          have hPast := model.observer.samePast_build observation hTwin.past deadline deadline'
            hTwin.isAssigned
          have hNext : (other.step (.update observation deadline')).current =
              some (model.observer.build observation other.current deadline') := by
            rw [hTwin.observer_eq]
            rfl
          refine ⟨?_, hObserver, hAssigned, ?_⟩
          · rw [hNext]
            exact Option.Rel.some hAgrees
          · rw [hNext]
            exact hPast

/-- Along two runs over the same observations and resets, whatever the deadlines are, snapshots
agree event by event. -/
theorem agrees_trace [Scalar.IsOrdered R] (ourSide : Side) (hSide : ourSide.isAssigned = true)
    (config : WorldConfig R) (selfUnum : Option Nat) (events events' : List (WorldEvent R))
    (hSame : events.map WorldEvent.untimed = events'.map WorldEvent.untimed) :
    List.Forall₂ (fun model other => Option.Rel Snapshot.Agrees model.current other.current)
      ((start (Observer.create ourSide config selfUnum)).trace events)
      ((start (Observer.create ourSide config selfUnum)).trace events') := by
  have hRun : ∀ {model other : WorldModel R} {events events' : List (WorldEvent R)},
      model.IsTwin other → events.map WorldEvent.untimed = events'.map WorldEvent.untimed →
        List.Forall₂ (fun model other => Option.Rel Snapshot.Agrees model.current other.current)
          (model.trace events) (other.trace events') := by
    intro model other events
    induction events generalizing model other with
    | nil =>
        intro events' _ hSame
        rw [List.map_nil, eq_comm, List.map_eq_nil_iff] at hSame
        subst hSame
        exact List.Forall₂.nil
    | cons event events ih =>
        intro events' hTwin hSame
        cases events' with
        | nil => contradiction
        | cons event' events' =>
            obtain ⟨hEvent, hEvents⟩ := List.cons.inj hSame
            obtain ⟨hAgrees, hNext⟩ := hTwin.step hEvent
            exact List.Forall₂.cons hAgrees (ih hNext hEvents)
  exact hRun ⟨rfl, hSide, Observer.SamePast.none⟩ hSame

/-- Two players stand before the ball, and both kick in the next cycle. -/
def eventsWithKicks (first second : Deadline) : List (WorldEvent Float) :=
  let left : PlayerObservation Float :=
    { side := Side.left, unum := some 7, position := ⟨0.5, 0.0⟩ }
  let right : PlayerObservation Float :=
    { side := Side.right, unum := some 4, position := ⟨-0.5, 0.0⟩ }
  [.update { cycle := 1, ball := some ⟨Vec2.zero, Vec2.zero⟩, players := [left, right] } first,
    .update
      { cycle := 2
        ball := some ⟨⟨1.0, 0.0⟩, ⟨1.0, 0.0⟩⟩
        players := [{ left with kicking := true }, { right with kicking := true }] } second]

theorem agrees_trace_eventsWithKicks :
    Side.left.isAssigned = true ∧
      (eventsWithKicks .ahead .passed).map WorldEvent.untimed =
        (eventsWithKicks .passed .ahead).map WorldEvent.untimed ∧
      List.Forall₂ (fun model other => Option.Rel Snapshot.Agrees model.current other.current)
        ((start (Observer.create Side.left WorldConfig.standard none)).trace
          (eventsWithKicks .ahead .passed))
        ((start (Observer.create Side.left WorldConfig.standard none)).trace
          (eventsWithKicks .passed .ahead)) :=
  ⟨rfl, rfl, agrees_trace Side.left rfl WorldConfig.standard none _ _ rfl⟩

end WorldModel

end SoccerWorld
