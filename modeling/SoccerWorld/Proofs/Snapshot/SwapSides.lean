import Mathlib.Data.List.Basic
import SoccerWorld.Snapshot.Build

/-!
# Left and right exchanged

`swapSides` exchanges the names of the two sides in everything that a snapshot is made of and leaves
all positions, directions and numbers alone.  In the canonical frame nothing depends on which side
is called left: the checks, the tracking of players, the tables and the attribution of touches all
commute with `swapSides`.
-/

namespace SoccerWorld

variable {R : Type} [Scalar R]

/-! ## The exchange -/

namespace Side

theorem opposite_injective : Function.Injective opposite := by
  intro side other hOpposite
  rw [← opposite_opposite side, hOpposite, opposite_opposite]

@[simp]
theorem opposite_inj {side other : Side} : side.opposite = other.opposite ↔ side = other :=
  opposite_injective.eq_iff

end Side

/-- The same number on the other side. -/
def Identity.swapSides (identity : Identity) : Identity :=
  ⟨identity.side.opposite, identity.unum⟩

/-- The play mode in which the other side executes the set play. -/
def PlayMode.swapSides : PlayMode → PlayMode
  | restart kind side => restart kind side.opposite
  | mode => mode

/-- The fault of the same record on the other side. -/
def RecordFault.swapSides : RecordFault → RecordFault
  | unumOutOfRange side unum => unumOutOfRange side.opposite unum
  | unassignedSide unum => unassignedSide unum
  | duplicateIdentity side unum => duplicateIdentity side.opposite unum

/-- The record of the same player on the other side. -/
def PlayerObservation.swapSides (record : PlayerObservation R) : PlayerObservation R :=
  { record with side := record.side.opposite }

/-- The same player on the other side. -/
def Player.swapSides (player : Player R) : Player R :=
  { player with side := player.side.opposite }

/-- The touch of the same player on the other side. -/
def Touch.swapSides (touch : Touch R) : Touch R :=
  { touch with side := touch.side.opposite }

/-- The attribution to the same players on the other sides. -/
def Attribution.swapSides (attribution : Attribution R) : Attribution R where
  kicker := attribution.kicker
  kickerSide := attribution.kickerSide.map Side.opposite
  candidates := attribution.candidates.map Touch.swapSides

/-- The match as the other side sees it. -/
def Perspective.swapSides (view : Perspective) : Perspective :=
  ⟨view.ourSide.opposite⟩

/-- The observer with the same parameters on the other side. -/
def Observer.swapSides (observer : Observer R) : Observer R :=
  { observer with perspective := observer.perspective.swapSides }

/-- The snapshot in which the sides have exchanged their names.  Ball, trajectory, reach steps,
tables, offside lines and all positions of players in lists stay as they are. -/
def Snapshot.swapSides (snapshot : Snapshot R) : Snapshot R :=
  { snapshot with
    perspective := snapshot.perspective.swapSides
    playMode := snapshot.playMode.swapSides
    players := snapshot.players.map Player.swapSides
    attribution := snapshot.attribution.swapSides
    diagnostics := snapshot.diagnostics.map RecordFault.swapSides }

theorem Identity.swapSides_injective : Function.Injective Identity.swapSides := by
  rintro ⟨side, unum⟩ ⟨side', unum'⟩ hSwap
  obtain ⟨hSide, hUnum⟩ := Identity.mk.inj hSwap
  rw [Identity.mk.injEq]
  exact ⟨Side.opposite_injective hSide, hUnum⟩

@[simp]
theorem Identity.swapSides_mem_map (identity : Identity) (identities : List Identity) :
    identity.swapSides ∈ identities.map Identity.swapSides ↔ identity ∈ identities :=
  List.mem_map_of_injective Identity.swapSides_injective

@[simp]
theorem PlayMode.restartSide_swapSides (mode : PlayMode) :
    mode.swapSides.restartSide = mode.restartSide.map Side.opposite := by
  cases mode with
  | restart kind side =>
      cases side <;> rfl
  | _ => rfl

namespace Player

@[simp]
theorem identity?_swapSides (player : Player R) :
    player.swapSides.identity? = player.identity?.map Identity.swapSides := by
  rw [identity?, identity?, Option.map_map]
  rfl

theorem observe_swapSides (player : Player R) (record : PlayerObservation R) :
    player.swapSides.observe record.swapSides = (player.observe record).swapSides := rfl

theorem fresh_swapSides (unum : Option Unum) (record : PlayerObservation R) :
    fresh unum record.swapSides = (fresh unum record).swapSides := rfl

theorem carry_swapSides (player : Player R) (motion : Locomotion R) :
    player.swapSides.carry motion = (player.carry motion).swapSides := rfl

end Player

/-! ## The checks -/

namespace PlayerObservation

/-- The checks of a record on the other side, with every used-up identity on the other side. -/
theorem check_of_opposite {record other : PlayerObservation R}
    (hSide : other.side = record.side.opposite) (hUnum : other.unum = record.unum)
    (taken : List Identity) :
    other.check (taken.map Identity.swapSides) =
      (record.check taken).mapError RecordFault.swapSides := by
  unfold check
  rw [hSide, hUnum, Side.isAssigned_opposite]
  cases record.side.isAssigned with
  | false => rfl
  | true =>
      simp only [Bool.not_true, Bool.false_eq_true, if_false]
      cases record.unum with
      | none => rfl
      | some raw =>
          cases hNumber : Unum.ofNat? raw.toNat with
          | none =>
              simp only [hNumber]
              rfl
          | some unum =>
              have hTaken : (⟨record.side.opposite, unum⟩ : Identity) ∈
                  taken.map Identity.swapSides ↔ ⟨record.side, unum⟩ ∈ taken :=
                Identity.swapSides_mem_map ⟨record.side, unum⟩ taken
              simp only [hNumber, hTaken]
              by_cases hMem : (⟨record.side, unum⟩ : Identity) ∈ taken
              · rw [if_pos hMem, if_pos hMem]
                rfl
              · rw [if_neg hMem, if_neg hMem]
                rfl

/-- Changes of records that put each on the other side and keep its number do not change which
records are kept. -/
theorem sift_map_of_opposite {f : PlayerObservation R → PlayerObservation R}
    (hSide : ∀ record, (f record).side = record.side.opposite)
    (hUnum : ∀ record, (f record).unum = record.unum) (taken : List Identity)
    (records : List (PlayerObservation R)) :
    sift (taken.map Identity.swapSides) (records.map f) =
      ((sift taken records).1.map fun entry => ⟨entry.unum, f entry.record⟩,
        (sift taken records).2.map RecordFault.swapSides) := by
  induction records generalizing taken with
  | nil => rfl
  | cons record rest ih =>
      have hCheck := check_of_opposite (hSide record) (hUnum record) taken
      rw [List.map_cons, sift, sift]
      cases hOwn : record.check taken with
      | error fault =>
          rw [hOwn] at hCheck
          rw [hCheck]
          simp only [Except.mapError, ih, List.map_cons]
      | ok unum =>
          rw [hOwn] at hCheck
          have hTaken : (AcceptedRecord.mk unum (f record)).identity?.toList ++
              taken.map Identity.swapSides =
                ((AcceptedRecord.mk unum record).identity?.toList ++ taken).map
                  Identity.swapSides := by
            cases unum with
            | none => rfl
            | some number =>
                simp only [AcceptedRecord.identity?, hSide]
                rfl
          rw [hCheck]
          simp only [Except.mapError, hTaken, ih, List.map_cons]

end PlayerObservation

/-! ## Look-up and tracking -/

namespace Snapshot

@[simp]
theorem player?_swapSides (snapshot : Snapshot R) (index : Nat) :
    snapshot.swapSides.player? index = (snapshot.player? index).map Player.swapSides :=
  List.getElem?_map

@[simp]
theorem find?_swapSides (snapshot : Snapshot R) (identity : Identity) :
    snapshot.swapSides.find? identity.swapSides =
      (snapshot.find? identity).map Player.swapSides := by
  have hTable : ∀ slots : TeamSlots,
      (slots identity.unum).bind snapshot.swapSides.player? =
        ((slots identity.unum).bind snapshot.player?).map Player.swapSides := by
    intro slots
    rw [Option.map_bind]
    congr 1
    funext index
    exact snapshot.player?_swapSides index
  have hOurs : identity.swapSides.side = snapshot.swapSides.ourSide ↔
      identity.side = snapshot.ourSide := Side.opposite_inj
  have hTheirs : identity.swapSides.side = snapshot.swapSides.perspective.theirSide ↔
      identity.side = snapshot.perspective.theirSide := Side.opposite_inj
  unfold find?
  simp only [hOurs, hTheirs]
  split
  · exact hTable snapshot.teammateSlots
  · split
    · exact hTable snapshot.opponentSlots
    · rfl

end Snapshot

namespace Tracking

theorem enlist_swapSides (previous : Option (Snapshot R)) (unum : Option Unum)
    (record : PlayerObservation R) :
    enlist (previous.map Snapshot.swapSides) ⟨unum, record.swapSides⟩ =
      (enlist previous ⟨unum, record⟩).swapSides := by
  cases unum with
  | none => rfl
  | some unum =>
      have hKnown : ((previous.map Snapshot.swapSides).bind fun snapshot =>
          snapshot.find? ⟨record.side.opposite, unum⟩) =
          (previous.bind fun snapshot => snapshot.find? ⟨record.side, unum⟩).map
            Player.swapSides := by
        cases previous with
        | none => rfl
        | some snapshot => exact snapshot.find?_swapSides ⟨record.side, unum⟩
      show observeIdentity ((previous.map Snapshot.swapSides).bind fun snapshot =>
        snapshot.find? ⟨record.side.opposite, unum⟩) unum record.swapSides = _
      rw [hKnown]
      simp only [enlist]
      cases previous.bind fun snapshot => snapshot.find? ⟨record.side, unum⟩ with
      | none => exact Player.fresh_swapSides (some unum) record
      | some player => exact player.observe_swapSides record

theorem missIdentity_swapSides (types : TypeRegistry R) (maxUnseen : UInt32)
    (player : Player R) :
    missIdentity types maxUnseen player.swapSides =
      (missIdentity types maxUnseen player).map Player.swapSides := by
  show (if maxUnseen < Word.succ player.ages.seen then none
    else some (player.swapSides.carry (types.get player.typeId))) = _
  unfold missIdentity
  by_cases hOld : maxUnseen < Word.succ player.ages.seen
  · rw [if_pos hOld, if_pos hOld]
    rfl
  · rw [if_neg hOld, if_neg hOld, Player.carry_swapSides, Option.map_some]

theorem carryUnseen_swapSides (types : TypeRegistry R) (maxUnseen : UInt32)
    (seen : List Identity) (players : List (Player R)) :
    carryUnseen types maxUnseen (seen.map Identity.swapSides) (players.map Player.swapSides) =
      (carryUnseen types maxUnseen seen players).map Player.swapSides := by
  unfold carryUnseen
  rw [List.filterMap_map, List.map_filterMap]
  refine List.filterMap_congr fun player _ => ?_
  rw [Function.comp_apply, Player.identity?_swapSides]
  cases player.identity? with
  | none => rfl
  | some identity =>
      simp only [Option.map_some, Identity.swapSides_mem_map]
      by_cases hSeen : identity ∈ seen
      · rw [if_pos hSeen, if_pos hSeen]
        rfl
      · rw [if_neg hSeen, if_neg hSeen]
        exact missIdentity_swapSides types maxUnseen player

end Tracking

/-! ## The tables of a team -/

namespace Observer

variable {isTeam isOtherTeam : Side → Bool}

theorem teamEntries_swapSides (hTeam : ∀ side, isOtherTeam (Side.opposite side) = isTeam side)
    (players : List (Player R)) :
    teamEntries isOtherTeam (players.map Player.swapSides) = teamEntries isTeam players := by
  unfold teamEntries
  rw [List.zipIdx_map, List.filterMap_map]
  refine List.filterMap_congr fun entry _ => ?_
  show (if isOtherTeam entry.1.side.opposite then _ else _) = _
  rw [hTeam]
  rfl

theorem teamLine_swapSides (hTeam : ∀ side, isOtherTeam (Side.opposite side) = isTeam side)
    (players : List (Player R)) :
    teamLine isOtherTeam (players.map Player.swapSides) = teamLine isTeam players := by
  unfold teamLine
  rw [List.filter_map, List.map_map]
  refine congrArg _ (List.filter_congr fun player _ => ?_)
  exact hTeam player.side

theorem firstEvaluated_swapSides (players : List (Player R)) (indices : List Nat) :
    firstEvaluated (players.map Player.swapSides) indices = firstEvaluated players indices := by
  unfold firstEvaluated
  congr 1
  funext index
  rw [List.getElem?_map]
  cases players[index]? <;> rfl

end Observer

/-! ## Touches -/

namespace TouchRules

variable (touchRules : TouchRules R)

theorem touch?_swapSides (ball : Ball R) (previous : Snapshot R) (player : Player R)
    (index : Nat) :
    touchRules.touch? ball previous.swapSides player.swapSides index =
      (touchRules.touch? ball previous player index).map Touch.swapSides := by
  have hAges : player.swapSides.ages = player.ages := rfl
  unfold touch?
  rw [hAges]
  by_cases hSeen : player.ages.seen = 0
  · rw [if_neg (not_not_intro hSeen), if_neg (not_not_intro hSeen), Player.identity?_swapSides]
    cases player.identity? with
    | none => rfl
    | some identity =>
        simp only [Option.map_some, Option.bind_eq_bind, Option.bind_some,
          Snapshot.find?_swapSides]
        cases previous.find? identity with
        | none => rfl
        | some before =>
            have hKind : touchRules.touchKind? player.swapSides
                (before.swapSides.position - previous.swapSides.ball.position).norm
                (player.swapSides.position - ball.position).norm =
                touchRules.touchKind? player (before.position - previous.ball.position).norm
                  (player.position - ball.position).norm := rfl
            simp only [Option.map_some, Option.bind_some, hKind]
            cases touchRules.touchKind? player
              (before.position - previous.ball.position).norm
              (player.position - ball.position).norm <;> rfl
  · rw [if_pos hSeen, if_pos hSeen]
    rfl

theorem candidates_swapSides (players : List (Player R)) (ball : Ball R)
    (previous : Snapshot R) :
    touchRules.candidates (players.map Player.swapSides) ball previous.swapSides =
      (touchRules.candidates players ball previous).map Touch.swapSides := by
  have hTouches : ((players.map Player.swapSides).zipIdx.filterMap fun entry =>
      touchRules.touch? ball previous.swapSides entry.1 entry.2) =
      (players.zipIdx.filterMap fun entry =>
        touchRules.touch? ball previous entry.1 entry.2).map Touch.swapSides := by
    rw [List.zipIdx_map, List.filterMap_map, List.map_filterMap]
    refine List.filterMap_congr fun entry _ => ?_
    exact touchRules.touch?_swapSides ball previous entry.1 entry.2
  show ((players.map Player.swapSides).zipIdx.filterMap fun entry =>
    touchRules.touch? ball previous.swapSides entry.1 entry.2).mergeSort _ = _
  rw [hTouches]
  refine (List.map_mergeSort ?_).symm
  intro touch _ other _
  rfl

omit [Scalar R] in
theorem isContested_swapSides (candidates : List (Touch R)) :
    Touch.isContested (candidates.map Touch.swapSides) = Touch.isContested candidates := by
  have hLeft : ∀ touch : Touch R, decide (touch.swapSides.side = Side.left) =
      decide (touch.side = Side.right) := by
    rintro ⟨_, side, _, _, _, _⟩
    cases side <;> rfl
  have hRight : ∀ touch : Touch R, decide (touch.swapSides.side = Side.right) =
      decide (touch.side = Side.left) := by
    rintro ⟨_, side, _, _, _, _⟩
    cases side <;> rfl
  -- The two questions change places.
  unfold Touch.isContested
  rw [List.any_map, List.any_map, Bool.and_comm]
  congr 1
  · exact congrArg _ (funext hRight)
  · exact congrArg _ (funext hLeft)

omit [Scalar R] in
theorem attributeTouches_swapSides (candidates : List (Touch R)) :
    attributeTouches (candidates.map Touch.swapSides) =
      (attributeTouches candidates).swapSides := by
  unfold attributeTouches
  rw [isContested_swapSides]
  split
  · rfl
  · cases candidates <;> rfl

theorem attributeRestart_swapSides (players : List (Player R)) (ball : Ball R) (side : Side) :
    attributeRestart (players.map Player.swapSides) ball side.opposite =
      (attributeRestart players ball side).swapSides := by
  have hDistances : ((players.map Player.swapSides).zipIdx.filterMap fun entry =>
      if entry.1.side = side.opposite && entry.1.unum.isSome then
        some (entry.2, (entry.1.position - ball.position).normSquared)
      else none) =
      players.zipIdx.filterMap fun entry =>
        if entry.1.side = side && entry.1.unum.isSome then
          some (entry.2, (entry.1.position - ball.position).normSquared)
        else none := by
    rw [List.zipIdx_map, List.filterMap_map]
    refine List.filterMap_congr fun entry _ => ?_
    have hSide : decide (entry.1.side.opposite = side.opposite) = decide (entry.1.side = side) :=
      decide_eq_decide.mpr Side.opposite_inj
    show (if decide (entry.1.side.opposite = side.opposite) && entry.1.unum.isSome then _
      else none) = _
    rw [hSide]
    rfl
  show (⟨(firstNearest ((players.map Player.swapSides).zipIdx.filterMap fun entry =>
    if entry.1.side = side.opposite && entry.1.unum.isSome then
      some (entry.2, (entry.1.position - ball.position).normSquared)
    else none)).map Prod.fst, some side.opposite, []⟩ : Attribution R) = _
  rw [hDistances]
  rfl

/-- The attribution exchanges the sides when everything that it depends on does. -/
theorem attribution_swapSides (players : List (Player R)) (ball : Ball R) (playMode : PlayMode)
    (previous : Option (Snapshot R)) :
    touchRules.attribution (players.map Player.swapSides) ball playMode.swapSides
        (previous.map Snapshot.swapSides) =
      (touchRules.attribution players ball playMode previous).swapSides := by
  unfold attribution
  rw [PlayMode.restartSide_swapSides]
  cases playMode.restartSide with
  | some side => exact attributeRestart_swapSides players ball side
  | none =>
      cases previous with
      | none => rfl
      | some before =>
          show attributeTouches (touchRules.candidates (players.map Player.swapSides) ball
            before.swapSides) = _
          rw [candidates_swapSides, attributeTouches_swapSides]

end TouchRules

end SoccerWorld
