import SoccerWorld.Proofs.Snapshot.Rearrangement
import SoccerWorld.Proofs.World.Deadlines
import SoccerWorld.Proofs.World.Ranking

/-!
# The order of the records matters only for ties

The records of a cycle arrive in some order, the players are listed in it before they are sorted,
and everything that a snapshot refers to by position depends on that list.  Main statement: where no
two well-formed records are of one player, builds from the same records in two orders know the same
of the ball, of every player and of every touch (`Observer.isRearrangement_build`).  What the order
decides are ties: which of several equally fast players comes first, and which of several equally
near players is the kicker.
-/

namespace SoccerWorld

variable {R : Type} [Scalar R]

/-- Two observations differ at most in the order of their records. -/
structure CycleObservation.IsReordering (one other : CycleObservation R) : Prop where
  cycle_eq : one.cycle = other.cycle
  playMode_eq : one.playMode = other.playMode
  ball_eq : one.ball = other.ball
  players : one.players.Perm other.players

namespace Snapshot

/-- Who stands at a position of the list. -/
def identityAt? (snapshot : Snapshot R) (index : Option Nat) : Option Identity :=
  (index.bind snapshot.player?).bind Player.identity?

/-- The least reach step among some of the players is attained by one player, whose number is
known. -/
def HasOneFastest (snapshot : Snapshot R) (isRival : Player R → Prop) : Prop :=
  ∃ player ∈ snapshot.players, isRival player ∧ player.unum.isSome = true ∧
    ∀ rival ∈ snapshot.players, isRival rival →
      reachKey rival.reachStep ≤ reachKey player.reachStep → rival.identity? = player.identity?

/-- Two snapshots differ at most in the order of equally fast players, in the positions that follow
from it, and in the order of the faults. -/
structure IsRearrangement (one other : Snapshot R) : Prop where
  cycle_eq : one.cycle = other.cycle
  perspective_eq : one.perspective = other.perspective
  selfUnum_eq : one.selfUnum = other.selfUnum
  playMode_eq : one.playMode = other.playMode
  ball_eq : one.ball = other.ball
  trajectory_eq : one.trajectory = other.trajectory
  ourOffsideLine_eq : one.ourOffsideLine = other.ourOffsideLine
  theirOffsideLine_eq : one.theirOffsideLine = other.theirOffsideLine
  /-- The same of every identity, its reach step included. -/
  find?_eq : ∀ identity, one.find? identity = other.find? identity
  players : one.players.Perm other.players
  /-- The same players without a known number. -/
  unnumbered : (one.players.filter fun player => player.unum.isNone).Perm
    (other.players.filter fun player => player.unum.isNone)
  /-- The same reach steps from place to place. -/
  reachStep_eq : one.players.map Player.reachStep = other.players.map Player.reachStep
  diagnostics : one.diagnostics.Perm other.diagnostics
  /-- The same touches. -/
  touches : one.namedTouches.Perm other.namedTouches
  /-- Touches are in the same order, but for those of equal distance. -/
  prevDist_eq : one.attribution.candidates.map Touch.prevDist =
    other.attribution.candidates.map Touch.prevDist
  kickerSide_eq : one.attribution.kickerSide = other.attribution.kickerSide
  ambiguous_eq : one.isKickerAmbiguous = other.isKickerAmbiguous
  isSome_kicker_eq : one.attribution.kicker.isSome = other.attribution.kicker.isSome
  /-- The same kicker, where no two players are equally near. -/
  kicker_eq : one.HasOneNearest → one.kickerIdentity? = other.kickerIdentity?
  /-- The same fastest player, where one player is fastest and can be named. -/
  fastestPlayer_eq : one.HasOneFastest (fun _ => True) →
    one.identityAt? one.fastestPlayer = other.identityAt? other.fastestPlayer
  fastestTeammate_eq : one.HasOneFastest (Player.IsNumberedOf one.ourSide) →
    one.identityAt? one.fastestTeammate = other.identityAt? other.fastestTeammate
  fastestOpponent_eq : one.HasOneFastest (Player.IsNumberedOf one.perspective.theirSide) →
    one.identityAt? one.fastestOpponent = other.identityAt? other.fastestOpponent

/-! ## The same players -/

variable {one other : Snapshot R}

/-- Coherent snapshots with the same players find the same of every identity. -/
theorem find?_eq_of_perm (hOne : one.IsCoherent) (hOther : other.IsCoherent)
    (hPlayers : one.players.Perm other.players) (identity : Identity) :
    one.find? identity = other.find? identity := by
  ext player
  rw [hOne.find?_eq_some_iff, hOther.find?_eq_some_iff, hPlayers.mem_iff]

/-- This position is that of a player of the kind than which no other of the kind is faster. -/
def IsFastestAt (snapshot : Snapshot R) (isRival : Player R → Prop) (fastest : Option Nat) : Prop :=
  ∃ player, fastest.bind snapshot.player? = some player ∧ isRival player ∧
    ∀ rival ∈ snapshot.players, isRival rival →
      reachKey player.reachStep ≤ reachKey rival.reachStep

/-- In two lists of the same players a player that alone is fastest is found by its identity. -/
theorem identityAt?_eq_of_isFastestAt {isRival : Player R → Prop} {fastest fastest' : Option Nat}
    (hPlayers : one.players.Perm other.players)
    (hFastest : one.IsFastestAt isRival fastest) (hFastest' : other.IsFastestAt isRival fastest')
    (hOnly : one.HasOneFastest isRival) :
    one.identityAt? fastest = other.identityAt? fastest' := by
  obtain ⟨least, hLeast, hRival, -, hUnique⟩ := hOnly
  obtain ⟨player, hPlayer, hPlayerRival, hBelow⟩ := hFastest
  obtain ⟨player', hPlayer', hPlayerRival', hBelow'⟩ := hFastest'
  have hMem : player ∈ one.players := by
    obtain ⟨index, -, hIndex⟩ := Option.bind_eq_some_iff.mp hPlayer
    exact List.mem_of_getElem? hIndex
  have hMem' : player' ∈ one.players := by
    obtain ⟨index, -, hIndex⟩ := Option.bind_eq_some_iff.mp hPlayer'
    exact hPlayers.mem_iff.mpr (List.mem_of_getElem? hIndex)
  have hFirst := hUnique player hMem hPlayerRival (hBelow least hLeast hRival)
  have hSecond := hUnique player' hMem' hPlayerRival'
    (hBelow' least (hPlayers.mem_iff.mp hLeast) hRival)
  rw [identityAt?, identityAt?, hPlayer, hPlayer', Option.bind_some, Option.bind_some, hFirst,
    hSecond]

/-- The fastest of a team is a numbered player of the team than which no other is faster. -/
theorem isFastestAt_of_isFastestOf {snapshot : Snapshot R} {team : Side → Prop} {side : Side}
    {byReach : List Nat} {fastest : Option Nat}
    (hFastest : IsFastestOf snapshot.players team byReach fastest)
    (hTeam : ∀ player ∈ snapshot.players, team player.side ↔ player.side = side)
    (hSome : ∃ player ∈ snapshot.players, player.IsNumberedOf side) :
    snapshot.IsFastestAt (Player.IsNumberedOf side) fastest := by
  cases hIndex : fastest with
  | none =>
      obtain ⟨player, hPlayer, hPlayerSide, hUnum⟩ := hSome
      rw [hFastest.eq_none_iff.mp hIndex player hPlayer ((hTeam player hPlayer).mpr hPlayerSide)]
        at hUnum
      contradiction
  | some index =>
      obtain ⟨player, step, hPlayer, hPlayerTeam, hUnum, hStep, hLeast⟩ :=
        hFastest.least index hIndex
      have hPlayerSide := (hTeam player (List.mem_of_getElem? hPlayer)).mp hPlayerTeam
      refine ⟨player, hPlayer, ⟨hPlayerSide, hUnum⟩, ?_⟩
      rintro rival hRival ⟨hRivalSide, hRivalUnum⟩
      obtain ⟨rivalStep, hRivalStep, hLe⟩ :=
        hLeast rival hRival ((hTeam rival hRival).mpr hRivalSide) hRivalUnum
      rw [hStep, hRivalStep]
      exact hLe

/-- In two lists of the same players the fastest of a team is one player, if alone fastest. -/
theorem identityAt?_eq_of_isFastestOf {team : Side → Prop} {side : Side}
    {byReach byReach' : List Nat} {fastest fastest' : Option Nat}
    (hPlayers : one.players.Perm other.players)
    (hFastest : IsFastestOf one.players team byReach fastest)
    (hFastest' : IsFastestOf other.players team byReach' fastest')
    (hTeam : ∀ player ∈ one.players, team player.side ↔ player.side = side)
    (hOnly : one.HasOneFastest (Player.IsNumberedOf side)) :
    one.identityAt? fastest = other.identityAt? fastest' := by
  have hSome : ∃ player ∈ one.players, player.IsNumberedOf side :=
    hOnly.imp fun _ h => ⟨h.1, h.2.1⟩
  refine identityAt?_eq_of_isFastestAt hPlayers (isFastestAt_of_isFastestOf hFastest hTeam hSome)
    (isFastestAt_of_isFastestOf hFastest' ?_ ?_) hOnly
  · intro player hPlayer
    exact hTeam player (hPlayers.mem_iff.mpr hPlayer)
  · exact hSome.imp fun _ h => ⟨hPlayers.mem_iff.mp h.1, h.2⟩

end Snapshot

namespace Observer

variable (observer : Observer R) (observation : CycleObservation R)
  (previous : Option (Snapshot R))

/-- The first player of a build is one than which no other is faster. -/
theorem isFastestAt_fastestPlayer
    (hSome : ∃ player, player ∈ (observer.build observation previous .ahead).players) :
    (observer.build observation previous .ahead).IsFastestAt (fun _ => True)
      (observer.build observation previous .ahead).fastestPlayer := by
  have hRanked := observer.isRanked_ahead observation previous
  have hStep := observer.reachStep_of_mem_build_ahead observation previous
  have hFastest := hRanked.fastestPlayer_eq
  have hAscending := hRanked.isStableSort.ascending
  obtain ⟨member, hMember⟩ := hSome
  cases hPlayers : (observer.build observation previous .ahead).players with
  | nil =>
      rw [hPlayers] at hMember
      contradiction
  | cons first rest =>
      rw [hPlayers, List.isEmpty_cons, if_neg Bool.false_ne_true] at hFastest
      refine ⟨first, ?_, trivial, ?_⟩
      · rw [hFastest, Option.bind_some, Snapshot.player?, hPlayers]
        rfl
      · intro rival hRival _
        rw [hPlayers] at hRival hAscending hStep
        rcases List.mem_cons.mp hRival with rfl | hLater
        · exact UInt32.le_refl _
        · have hLe := List.rel_of_pairwise_cons hAscending hLater
          rw [hStep first List.mem_cons_self, hStep rival hRival] at hLe ⊢
          exact hLe

/-! ## Two orders of the same records -/

section Reordered

variable {observation' : CycleObservation R}
  (hReordering : observation.IsReordering observation')
  (hDistinct : PlayerObservation.AreOfDistinctPlayers observation.players)

include hReordering

theorem ball_reordered_eq (deadline deadline' : Deadline) :
    (observer.build observation previous deadline).ball =
      (observer.build observation' previous deadline').ball := by
  show Tracking.ball _ _ previous observation.ball = Tracking.ball _ _ previous observation'.ball
  rw [hReordering.ball_eq]

include hDistinct

theorem tracked_reordered_perm :
    (observer.tracked observation previous).Perm (observer.tracked observation' previous) :=
  Tracking.players_perm observer.types observer.config.maxUnseenCycles observer.perspective
    previous (PlayerObservation.sift_perm hReordering.players hDistinct).1

/-- Whatever the clocks say, the orders differ in reach steps, in ties and in the order of faults at
most. -/
theorem agrees_reordered [Scalar.IsOrdered R]
    (hSide : observer.perspective.ourSide.isAssigned = true)
    (hPrevious : ∀ snapshot, previous = some snapshot → snapshot.IsCoherent)
    (deadline deadline' : Deadline) :
    (observer.build observation previous deadline).Agrees
      { observer.build observation' previous deadline' with
        diagnostics := (observer.build observation previous deadline).diagnostics } := by
  have hTracked := observer.tracked_reordered_perm observation previous hReordering hDistinct
  exact observer.agrees_of_samePlayers (SamePast.refl hPrevious) hReordering.playMode_eq
    (observer.ball_reordered_eq observation previous hReordering deadline deadline')
    (samePlayers_of_tracked_perm hTracked deadline deadline') hSide hReordering.cycle_eq

variable {deadline : Deadline} (hSteady : deadline.IsSteady)

include hSteady

theorem players_reordered_perm :
    (observer.build observation previous deadline).players.Perm
      (observer.build observation' previous deadline).players := by
  have hTracked := observer.tracked_reordered_perm observation previous hReordering hDistinct
  have hOne := observer.build_players_perm observation previous deadline
  have hOther := observer.build_players_perm observation' previous deadline
  -- Both builds have one ball, and with it one trajectory to predict the steps from.
  rw [← observer.ball_reordered_eq observation previous hReordering deadline deadline] at hOther
  rw [observer.evaluateAll_of_isSteady _ _ hSteady] at hOne hOther
  exact (hOne.trans (hTracked.map _)).trans hOther.symm

/-- The sort leaves no choice for the steps themselves. -/
theorem reachStep_reordered_eq :
    (observer.build observation previous deadline).players.map Player.reachStep =
      (observer.build observation' previous deadline).players.map Player.reachStep := by
  have hSteps := (observer.players_reordered_perm observation previous hReordering hDistinct
    hSteady).map Player.reachStep
  rcases hSteady.eq_ahead_or_eq_passed with rfl | rfl
  · have hEvaluated : ∀ observation : CycleObservation R,
        ∀ step ∈ (observer.build observation previous .ahead).players.map Player.reachStep,
          step.isSome = true := by
      intro observation step hStep
      obtain ⟨player, hPlayer, rfl⟩ := List.mem_map.mp hStep
      rw [observer.reachStep_of_mem_build_ahead observation previous player hPlayer]
      rfl
    have hAscending : ∀ observation : CycleObservation R,
        ((observer.build observation previous .ahead).players.map Player.reachStep).Pairwise
          fun a b => a.getD 0 ≤ b.getD 0 := by
      intro observation
      exact List.pairwise_map.mpr
        (observer.isRanked_ahead observation previous).isStableSort.ascending
    refine List.Perm.eq_of_pairwise ?_ (hAscending _) (hAscending _) hSteps
    intro a b ha hb hab hba
    obtain ⟨step, rfl⟩ := Option.isSome_iff_exists.mp (hEvaluated _ a ha)
    obtain ⟨step', rfl⟩ := Option.isSome_iff_exists.mp (hEvaluated _ b hb)
    exact congrArg some (UInt32.le_antisymm hab hba)
  · have hNone := (observer.isUnranked_passed observation previous).reachStep_eq
    have hNone' := (observer.isUnranked_passed observation' previous).reachStep_eq
    have hLength := hSteps.length_eq
    rw [List.length_map, List.length_map] at hLength
    rw [List.map_congr_left hNone, List.map_congr_left hNone', List.map_const', List.map_const',
      hLength]

theorem fastestPlayer_reordered_eq
    (hOnly : (observer.build observation previous deadline).HasOneFastest fun _ => True) :
    (observer.build observation previous deadline).identityAt?
        (observer.build observation previous deadline).fastestPlayer =
      (observer.build observation' previous deadline).identityAt?
        (observer.build observation' previous deadline).fastestPlayer := by
  have hPlayers := observer.players_reordered_perm observation previous hReordering hDistinct
    hSteady
  rcases hSteady.eq_ahead_or_eq_passed with rfl | rfl
  · have hSome : ∃ player, player ∈ (observer.build observation previous .ahead).players :=
      hOnly.imp fun _ h => h.1
    exact Snapshot.identityAt?_eq_of_isFastestAt hPlayers
      (observer.isFastestAt_fastestPlayer observation previous hSome)
      (observer.isFastestAt_fastestPlayer observation' previous
        (hSome.imp fun _ hMem => hPlayers.mem_iff.mp hMem)) hOnly
  · rw [(observer.isUnranked_passed observation previous).fastestPlayer_eq,
      (observer.isUnranked_passed observation' previous).fastestPlayer_eq]
    rfl

theorem fastestTeammate_reordered_eq
    (hOnly : (observer.build observation previous deadline).HasOneFastest
      (Player.IsNumberedOf observer.perspective.ourSide)) :
    (observer.build observation previous deadline).identityAt?
        (observer.build observation previous deadline).fastestTeammate =
      (observer.build observation' previous deadline).identityAt?
        (observer.build observation' previous deadline).fastestTeammate := by
  have hPlayers := observer.players_reordered_perm observation previous hReordering hDistinct
    hSteady
  rcases hSteady.eq_ahead_or_eq_passed with rfl | rfl
  · exact Snapshot.identityAt?_eq_of_isFastestOf hPlayers
      (observer.isRanked_ahead observation previous).teammates
      (observer.isRanked_ahead observation' previous).teammates (fun _ _ => Iff.rfl) hOnly
  · rw [(observer.isUnranked_passed observation previous).fastestTeammate_eq,
      (observer.isUnranked_passed observation' previous).fastestTeammate_eq]
    rfl

theorem fastestOpponent_reordered_eq
    (hSide : observer.perspective.ourSide.isAssigned = true)
    (hPrevious : ∀ snapshot, previous = some snapshot → snapshot.IsCoherent)
    (hOnly : (observer.build observation previous deadline).HasOneFastest
      (Player.IsNumberedOf observer.perspective.theirSide)) :
    (observer.build observation previous deadline).identityAt?
        (observer.build observation previous deadline).fastestOpponent =
      (observer.build observation' previous deadline).identityAt?
        (observer.build observation' previous deadline).fastestOpponent := by
  have hPlayers := observer.players_reordered_perm observation previous hReordering hDistinct
    hSteady
  rcases hSteady.eq_ahead_or_eq_passed with rfl | rfl
  · refine Snapshot.identityAt?_eq_of_isFastestOf hPlayers
      (observer.isRanked_ahead observation previous).opponents
      (observer.isRanked_ahead observation' previous).opponents ?_ hOnly
    -- Not ours means theirs, because players are on the two sides that play.
    intro player hPlayer
    exact Side.ne_iff_eq_opposite hSide
      (observer.isAssigned_of_mem_build observation .ahead
        (fun snapshot hSnapshot => (hPrevious snapshot hSnapshot).holdsRoster) player hPlayer)
  · rw [(observer.isUnranked_passed observation previous).fastestOpponent_eq,
      (observer.isUnranked_passed observation' previous).fastestOpponent_eq]
    rfl

end Reordered

/-- After a snapshot that can be published, or after none, the records of one cycle lead to the same
in any order, but for ties, where no two well-formed records are of one player.  While the clock
says the same for all players the reach steps are among it; if time ends between two players, or the
deadlines differ, only the reach steps and what follows from them may differ. -/
theorem isRearrangement_build [Scalar.IsOrdered R]
    (hSide : observer.perspective.ourSide.isAssigned = true)
    (hPrevious : ∀ snapshot, previous = some snapshot → snapshot.IsReachable)
    (observation' : CycleObservation R) (hReordering : observation.IsReordering observation')
    (hDistinct : PlayerObservation.AreOfDistinctPlayers observation.players)
    (deadline deadline' : Deadline) :
    (deadline.IsSteady →
      (observer.build observation previous deadline).IsRearrangement
        (observer.build observation' previous deadline)) ∧
      (observer.build observation previous deadline).diagnostics.Perm
        (observer.build observation' previous deadline').diagnostics ∧
      (observer.build observation previous deadline).Agrees
        { observer.build observation' previous deadline' with
          diagnostics := (observer.build observation previous deadline).diagnostics } := by
  have hKnown : ∀ snapshot, previous = some snapshot → snapshot.IsCoherent :=
    fun snapshot hSnapshot => (hPrevious snapshot hSnapshot).isCoherent
  have hFaults : (observer.build observation previous deadline).diagnostics.Perm
      (observer.build observation' previous deadline').diagnostics :=
    (PlayerObservation.sift_perm hReordering.players hDistinct).2
  have hAgrees := observer.agrees_reordered observation previous hReordering hDistinct hSide hKnown
    deadline
  refine ⟨fun hSteady => ?_, hFaults, hAgrees deadline'⟩
  have hPlayers := observer.players_reordered_perm observation previous hReordering hDistinct
    hSteady
  have hSame := hAgrees deadline
  exact {
    cycle_eq := hSame.cycle_eq
    perspective_eq := hSame.perspective_eq
    selfUnum_eq := hSame.selfUnum_eq
    playMode_eq := hSame.playMode_eq
    ball_eq := hSame.ball_eq
    trajectory_eq := hSame.trajectory_eq
    ourOffsideLine_eq := hSame.ourOffsideLine_eq
    theirOffsideLine_eq := hSame.theirOffsideLine_eq
    find?_eq := Snapshot.find?_eq_of_perm
      (observer.isCoherent_build observation deadline hSide hKnown)
      (observer.isCoherent_build observation' deadline hSide hKnown) hPlayers
    players := hPlayers
    unnumbered := hPlayers.filter _
    reachStep_eq :=
      observer.reachStep_reordered_eq observation previous hReordering hDistinct hSteady
    diagnostics := hFaults
    touches := hSame.touches
    prevDist_eq := hSame.prevDist_eq
    kickerSide_eq := hSame.kickerSide_eq
    ambiguous_eq := hSame.ambiguous_eq
    isSome_kicker_eq := hSame.isSome_kicker_eq
    kicker_eq := hSame.kicker_eq
    fastestPlayer_eq :=
      observer.fastestPlayer_reordered_eq observation previous hReordering hDistinct hSteady
    fastestTeammate_eq :=
      observer.fastestTeammate_reordered_eq observation previous hReordering hDistinct hSteady
    fastestOpponent_eq :=
      observer.fastestOpponent_reordered_eq observation previous hReordering hDistinct hSteady
        hSide hKnown }

/-- The records of `duringKick` the other way round. -/
def duringKickReversed : CycleObservation Float :=
  { duringKick with players := duringKick.players.reverse }

theorem isRearrangement_build_duringKick :
    Side.left.isAssigned = true ∧
      ∃ (observer : Observer Float) (before : Snapshot Float),
        (∀ snapshot, some before = some snapshot → snapshot.IsReachable) ∧
          duringKick.IsReordering duringKickReversed ∧
          PlayerObservation.AreOfDistinctPlayers duringKick.players ∧
          (observer.build duringKick (some before) .ahead).IsRearrangement
            (observer.build duringKickReversed (some before) .ahead) := by
  have hFirst : ((create Side.left (WorldConfig.standard (R := Float)) none).build beforeKick none
      .ahead).IsReachable := by
    refine Snapshot.IsReachable.build _ rfl _ _ ?_ _
    intro snapshot hNone
    contradiction
  have hReachable : ∀ snapshot, some ((create Side.left (WorldConfig.standard (R := Float))
      none).build beforeKick none .ahead) = some snapshot → snapshot.IsReachable := by
    rintro snapshot ⟨⟩
    exact hFirst
  have hReordering : duringKick.IsReordering duringKickReversed :=
    ⟨rfl, rfl, rfl, (List.reverse_perm _).symm⟩
  have hDistinct : PlayerObservation.AreOfDistinctPlayers duringKick.players := by
    refine List.pairwise_pair.mpr ?_
    rintro - - ⟨raw, -, -, hSide⟩
    contradiction
  exact ⟨rfl, create Side.left WorldConfig.standard none, _, hReachable, hReordering, hDistinct,
    (isRearrangement_build (create Side.left WorldConfig.standard none) duringKick _ rfl hReachable
      duringKickReversed hReordering hDistinct .ahead .ahead).1 Deadline.isSteady_ahead⟩

end Observer

end SoccerWorld
