import SoccerWorld.Proofs.Locomotion.InertiaSteps
import SoccerWorld.Proofs.Snapshot.Untimed
import SoccerWorld.Proofs.World.Lifetime

/-!
# An unseen player coasts

Every player of a new snapshot was seen in its cycle, or is a player of the snapshot before that was
not seen and is carried on (`Observer.seen_or_carried_of_mem_build`).  So each player of a run has a
cycle in which it was last seen, and what the run holds of it is the record of that cycle, carried
on once for every cycle since (`WorldModel.exists_lastSeenAs_run`).

Main statement: in exact arithmetic this is where the predictor's inertia leads from the record of
that cycle at once (`WorldModel.coasts_run`).
-/

namespace SoccerWorld

variable {R : Type} [Scalar R]

/-- A cycle without an accepted record of the player. -/
def WorldEvent.MissesPlayer (identity : Identity) : WorldEvent R → Prop
  | update observation _ => ¬ observation.Sees identity
  | reset => False

/-- The player one cycle later, unseen. -/
def Observer.carryOn (observer : Observer R) (player : Player R) : Player R :=
  player.carry (observer.types.get player.typeId)

namespace Observer

variable (observer : Observer R)

/-- Cycles in which a player is carried on leave its type and its identity as they are. -/
theorem typeId_iterate_carryOn (player : Player R) (n : Nat) :
    (observer.carryOn^[n] player).typeId = player.typeId ∧
      (observer.carryOn^[n] player).identity? = player.identity? := by
  induction n with
  | zero => exact ⟨rfl, rfl⟩
  | succ n ih =>
      rw [Function.iterate_succ_apply']
      exact ih

/-- All the cycles use the motion of one type. -/
theorem iterate_carryOn (player : Player R) (n : Nat) :
    observer.carryOn^[n] player =
      (fun unseen => unseen.carry (observer.types.get player.typeId))^[n] player := by
  induction n with
  | zero => rfl
  | succ n ih =>
      have hType := (observer.typeId_iterate_carryOn player n).1
      rw [Function.iterate_succ_apply', Function.iterate_succ_apply', ← ih, carryOn, hType]

/-- A player of a new snapshot was seen, or is a player of the one before that was not. -/
theorem seen_or_carried_of_mem_build (observation : CycleObservation R)
    (previous : Option (Snapshot R)) (deadline : Deadline) {player : Player R}
    (hPlayer : player ∈ (observer.build observation previous deadline).players) :
    player.ages.seen = 0 ∨
      ∃ snapshot old identity, previous = some snapshot ∧ old ∈ snapshot.players ∧
        old.identity? = some identity ∧ ¬ observation.Sees identity ∧
          player.unevaluated = (observer.carryOn old).unevaluated := by
  obtain ⟨tracked, hTracked, place, rfl⟩ := exists_tracked_of_mem_build hPlayer
  rw [Observer.tracked, Tracking.players_eq, List.mem_append, List.mem_map, List.mem_map]
    at hTracked
  rw [IdentityTrack.unevaluated_evaluate, evaluate_ages]
  rcases hTracked with ⟨entry, -, rfl⟩ | ⟨old, hOld, rfl⟩
  · exact Or.inl (Tracking.enlist_position_seen previous _).2
  · obtain ⟨snapshot, hSnapshot, hOld, hRolls⟩ := Tracking.rollsOn_of_mem_rolling hOld
    obtain ⟨⟨identity, hIdentity, hUnseen⟩, -⟩ := Tracking.rollsOn_eq_true_iff.mp hRolls
    rw [PlayerObservation.mem_identities_sift_iff, ← CycleObservation.sees_iff] at hUnseen
    exact Or.inr ⟨snapshot, old, identity, hSnapshot, hOld, hIdentity, hUnseen, rfl⟩

end Observer

/-! ## The cycle in which a player was last seen -/

namespace WorldModel

/-- A player was last seen as `old`, at the end of the events `before`, and was carried on for each
of the events `unseen`. -/
structure LastSeenAs (observer : Observer R) (before unseen : List (WorldEvent R))
    (player old : Player R) : Prop where
  exists_current : ∃ earlier, ((start observer).run before).current = some earlier ∧
    old ∈ earlier.players
  seen_eq : old.ages.seen = 0
  misses : ∀ event ∈ unseen, ∃ identity, old.identity? = some identity ∧
    event.MissesPlayer identity
  player_eq : player.unevaluated = (observer.carryOn^[unseen.length] old).unevaluated
  age_eq : player.ages.seen.toNat = min unseen.length 4294967295

/-- A player of the latest cycle that was seen in it. -/
theorem lastSeenAs_self {observer : Observer R} {events : List (WorldEvent R)}
    {snapshot : Snapshot R} (hCurrent : ((start observer).run events).current = some snapshot)
    {player : Player R} (hPlayer : player ∈ snapshot.players) (hSeen : player.ages.seen = 0) :
    LastSeenAs observer events [] player player where
  exists_current := ⟨snapshot, hCurrent, hPlayer⟩
  seen_eq := hSeen
  misses _ hNone := absurd hNone List.not_mem_nil
  player_eq := rfl
  age_eq := by
    rw [hSeen]
    rfl

namespace LastSeenAs

variable {observer : Observer R} {before unseen : List (WorldEvent R)}
  {player recent old : Player R}

theorem identity?_eq (hLast : LastSeenAs observer before unseen player old) :
    player.identity? = old.identity? := by
  rw [← (observer.typeId_iterate_carryOn old unseen.length).2]
  exact Player.congr_unevaluated Player.identity? (fun _ => rfl) hLast.player_eq

theorem typeId_eq (hLast : LastSeenAs observer before unseen player old) :
    player.typeId = old.typeId := by
  rw [← (observer.typeId_iterate_carryOn old unseen.length).1]
  exact Player.congr_unevaluated Player.typeId (fun _ => rfl) hLast.player_eq

/-- One more cycle in which the player is not seen. -/
theorem carryOn (hLast : LastSeenAs observer before unseen recent old) {event : WorldEvent R}
    {identity : Identity} (hIdentity : recent.identity? = some identity)
    (hMisses : event.MissesPlayer identity)
    (hPlayer : player.unevaluated = (observer.carryOn recent).unevaluated) :
    LastSeenAs observer before (unseen ++ [event]) player old where
  exists_current := hLast.exists_current
  seen_eq := hLast.seen_eq
  misses := by
    intro other hOther
    rcases List.mem_append.mp hOther with hEarlier | hNow
    · exact hLast.misses other hEarlier
    · obtain rfl := List.mem_singleton.mp hNow
      exact ⟨identity, hLast.identity?_eq.symm.trans hIdentity, hMisses⟩
  player_eq := by
    -- Carrying on does not look at the reach step.
    have hCarried := Player.congr_unevaluated (fun player => (observer.carryOn player).unevaluated)
      (fun _ => rfl) hLast.player_eq
    rw [hPlayer, hCarried, List.length_append, List.length_singleton,
      Function.iterate_succ_apply']
  age_eq := by
    have hAges := Player.congr_unevaluated Player.ages (fun _ => rfl) hPlayer
    have hAge := hLast.age_eq
    have hWord := Word.toNat_succ recent.ages.seen
    rw [hAges, List.length_append, List.length_singleton]
    show (Word.succ recent.ages.seen).toNat = _
    omega

end LastSeenAs

/-- Each player of a run is as it was last seen, carried on since. -/
theorem exists_lastSeenAs_run (observer : Observer R) (events : List (WorldEvent R))
    (snapshot : Snapshot R) (hCurrent : ((start observer).run events).current = some snapshot) :
    ∀ player ∈ snapshot.players, ∃ before unseen old, events = before ++ unseen ∧
      LastSeenAs observer before unseen player old := by
  -- A player that the last event carries on was last seen as the player before that event was.
  induction events using List.reverseRecOn generalizing snapshot with
  | nil => contradiction
  | append_singleton events event ih =>
      intro player hPlayer
      have hRun := hCurrent
      rw [run_append] at hRun
      cases event with
      | reset => contradiction
      | update observation deadline =>
          obtain rfl := Option.some.inj hRun
          have hCases := ((start observer).run events).observer.seen_or_carried_of_mem_build
            observation _ deadline hPlayer
          rw [observer_run] at hCases
          rcases hCases with hSeen | ⟨before, recent, identity, hBefore, hRecent, hCarried⟩
          · exact ⟨_, [], player, (List.append_nil _).symm, lastSeenAs_self hCurrent hPlayer hSeen⟩
          · obtain ⟨hIdentity, hUnseen, hPlayerEq⟩ := hCarried
            obtain ⟨before, unseen, old, rfl, hLast⟩ := ih before hBefore recent hRecent
            have hMisses : (WorldEvent.update observation deadline).MissesPlayer identity :=
              hUnseen
            exact ⟨before, unseen ++ [.update observation deadline], old,
              List.append_assoc _ _ _, hLast.carryOn hIdentity hMisses hPlayerEq⟩

end WorldModel

/-! ## Where an unseen player stands -/

/-- In a homogeneous match every player is of the default type. -/
theorem TypeRegistry.get_homogeneous (rules : Rules R) (typeId : Option Int) :
    (homogeneous rules).get typeId = Locomotion.ofType {} rules := by
  unfold get
  split
  · rfl
  · split <;> rfl

/-- The player moved by inertia for some cycles since it was `old`. -/
structure Player.CoastsFrom (motion : Locomotion ℝ) (cycles : Nat) (old player : Player ℝ) :
    Prop where
  identity?_eq : player.identity? = old.identity?
  typeId_eq : player.typeId = old.typeId
  position_eq : player.position = motion.inertiaPoint old.position old.velocity cycles
  velocity_eq : player.velocity = old.velocity.scale (motion.type.decay ^ cycles)

namespace WorldModel

theorem LastSeenAs.coastsFrom {observer : Observer ℝ} {before unseen : List (WorldEvent ℝ)}
    {player old : Player ℝ} (hLast : LastSeenAs observer before unseen player old)
    (hDecay : (observer.types.get player.typeId).ResolvesDecay)
    (hCycles : unseen.length ≤ Locomotion.maxExponent) :
    old.CoastsFrom (observer.types.get player.typeId) unseen.length player := by
  have hSums := Locomotion.addsUp hDecay
  rw [hLast.typeId_eq] at hSums ⊢
  have hPlayer := hLast.player_eq
  rw [observer.iterate_carryOn] at hPlayer
  refine ⟨hLast.identity?_eq, hLast.typeId_eq, ?_, ?_⟩
  · rw [← hSums.position_carry old unseen.length hCycles]
    exact Player.congr_unevaluated Player.position (fun _ => rfl) hPlayer
  · rw [← hSums.velocity_carry old unseen.length]
    exact Player.congr_unevaluated Player.velocity (fun _ => rfl) hPlayer

/-- Passive motion adds up, for every type whose decay is not mistaken for one.  So every player of
every run stands where inertia leads at once from the place and the velocity with which it was last
seen. -/
theorem coasts_run (ourSide : Side) (config : WorldConfig ℝ) (selfUnum : Option Nat) :
    (∀ motion : Locomotion ℝ, motion.ResolvesDecay → motion.AddsUp) ∧
      ∀ events snapshot,
        ((start (Observer.create ourSide config selfUnum)).run events).current = some snapshot →
          ∀ player ∈ snapshot.players, player.ages.seen.toNat ≤ Locomotion.maxExponent →
            ((Observer.create ourSide config selfUnum).types.get player.typeId).ResolvesDecay →
              ∃ before unseen old, events = before ++ unseen ∧
                unseen.length = player.ages.seen.toNat ∧
                LastSeenAs (Observer.create ourSide config selfUnum) before unseen player old ∧
                old.CoastsFrom ((Observer.create ourSide config selfUnum).types.get player.typeId)
                  unseen.length player := by
  refine ⟨fun motion => Locomotion.addsUp, ?_⟩
  intro events snapshot hCurrent player hPlayer hAge hDecay
  obtain ⟨before, unseen, old, hEvents, hLast⟩ :=
    exists_lastSeenAs_run _ events snapshot hCurrent player hPlayer
  have hCycles : unseen.length = player.ages.seen.toNat := by
    have hCount := hLast.age_eq
    unfold Locomotion.maxExponent at hAge
    omega
  exact ⟨before, unseen, old, hEvents, hCycles, hLast, hLast.coastsFrom hDecay (by omega)⟩

/-- Our number nine is seen running, then missed for two cycles. -/
noncomputable def eventsOutOfSight : List (WorldEvent ℝ) :=
  [.update
      { cycle := 1
        players := [{ side := Side.left, unum := some 9, position := ⟨-10, 0⟩,
                      velocity := some ⟨1, 0⟩ }] } .ahead,
    .update { cycle := 2 } .passed, .update { cycle := 3 } .ahead]

/-- The player of these events. -/
def ourNine : Identity :=
  ⟨Side.left, ⟨9, by decide, by decide⟩⟩

theorem seesLastAgo_eventsOutOfSight :
    CycleObservation.SeesLastAgo (WorldEvent.recent eventsOutOfSight) ourNine 2 := by
  have hUnseen : ∀ cycle, ¬ ({ cycle := cycle } : CycleObservation ℝ).Sees ourNine := by
    intro cycle
    rw [CycleObservation.sees_iff]
    exact Bool.false_ne_true
  refine (CycleObservation.seesLastAgo_cons_of_not_sees _ (hUnseen 3) 2).mpr ⟨1, rfl, ?_⟩
  refine (CycleObservation.seesLastAgo_cons_of_not_sees _ (hUnseen 2) 1).mpr ⟨0, rfl, ?_⟩
  refine (CycleObservation.seesLastAgo_cons_of_sees _ ?_ 0).mpr rfl
  rw [CycleObservation.sees_iff]
  rfl

theorem coasts_run_eventsOutOfSight :
    ∃ (snapshot : Snapshot ℝ) (player old : Player ℝ),
      ((start (Observer.create Side.left WorldConfig.standard none)).run
        eventsOutOfSight).current = some snapshot ∧
      snapshot.find? ourNine = some player ∧ player.ages.seen.toNat = 2 ∧
      old.ages.seen = 0 ∧ old.CoastsFrom (Locomotion.ofType {} {}) 2 player := by
  have hDecay : (Locomotion.ofType ({} : PlayerType ℝ) {}).ResolvesDecay := by
    refine Or.inl ?_
    show ((2 ^ 52 : Nat) : ℝ)⁻¹ ≤ |1 - 0.4|
    norm_num [abs_of_pos]
  have hSide : Side.left.isAssigned = true := rfl
  have hCurrent : ((start (Observer.create Side.left WorldConfig.standard none)).run
      eventsOutOfSight).current = some _ := rfl
  have hAged := isAged_find?_run _ hSide eventsOutOfSight _ hCurrent ourNine
  have hCoherent := (isReachable_of_current_run _ hSide eventsOutOfSight _ hCurrent).isCoherent
  have hKnown : (2 : Nat) ≤ (WorldConfig.standard (R := ℝ)).maxUnseenCycles.toNat := by decide
  obtain ⟨player, hFind⟩ := Option.isSome_iff_exists.mp
    (hAged.isSome_iff.mpr ⟨2, seesLastAgo_eventsOutOfSight, hKnown⟩)
  have hPlayer := ((hCoherent.find?_eq_some_iff _ player).mp hFind).1
  have hAge : player.ages.seen.toNat = 2 :=
    (hAged.ages_eq player 2 hFind seesLastAgo_eventsOutOfSight).1
  have hType : (Observer.create Side.left (WorldConfig.standard (R := ℝ)) none).types.get
      player.typeId = Locomotion.ofType {} {} := TypeRegistry.get_homogeneous {} player.typeId
  have hCycles : player.ages.seen.toNat ≤ Locomotion.maxExponent := by
    rw [hAge]
    decide
  obtain ⟨before, unseen, old, -, hCount, hLast, hCoasts⟩ :=
    (coasts_run Side.left WorldConfig.standard none).2 eventsOutOfSight _ hCurrent player hPlayer
      hCycles (hType.symm ▸ hDecay)
  rw [hCount, hAge, hType] at hCoasts
  exact ⟨_, player, old, hCurrent, hFind, hAge, hLast.seen_eq, hCoasts⟩

end WorldModel

end SoccerWorld
