import SoccerWorld.Proofs.Snapshot.TeamTable

/-!
# Coherent snapshots

A snapshot refers to its players by position: in the tables of both teams, in the lists by reach
step, in the attribution and for the fastest players.  `Snapshot.IsCoherent` says that all of these
positions are right for the list of players that the snapshot holds, and that the list holds every
player once.

The look-up by identity is derived from the tables (`find?_eq_some_iff_of_isTeamTable`).  For a
coherent snapshot it is a look-up in the list of players (`IsCoherent.find?_eq_some_iff`,
`IsCoherent.recordsOf_eq`).
-/

namespace SoccerWorld

variable {R : Type} [Scalar R]

namespace Side

/-- An assigned side other than a given one is the opposite one. -/
theorem ne_iff_eq_opposite {side other : Side} (hSide : side.isAssigned = true)
    (hOther : other.isAssigned = true) : other ≠ side ↔ other = side.opposite := by
  cases side <;> cases other <;> simp_all [opposite, isAssigned]

end Side

namespace Snapshot

/-- All positions that a snapshot holds are right for its players. -/
structure IsCoherent (snapshot : Snapshot R) : Prop where
  /-- Every player is on one of the two sides that play. -/
  isAssigned : ∀ player ∈ snapshot.players, player.side.isAssigned = true
  /-- No two players with a known number share side and number. -/
  distinct : Player.HaveDistinctIdentities snapshot.players
  /-- The tables of our team. -/
  teammates : IsTeamTable snapshot.players snapshot.ourSide snapshot.teammateSlots
    snapshot.teammatesByReach
  /-- The tables of their team. -/
  opponents : IsTeamTable snapshot.players snapshot.perspective.theirSide snapshot.opponentSlots
    snapshot.opponentsByReach
  /-- The look-up finds every player with a known number. -/
  find?_of_mem : ∀ player ∈ snapshot.players, ∀ identity, player.identity? = some identity →
    snapshot.find? identity = some player
  /-- The look-up finds nothing for any other identity. -/
  find?_absent : ∀ identity, (∀ player ∈ snapshot.players, player.identity? ≠ some identity) →
    snapshot.find? identity = none
  /-- The kicker is a player with a known number, on the credited side. -/
  kicker : ∀ index, snapshot.attribution.kicker = some index →
    ∃ player, snapshot.player? index = some player ∧ player.unum.isSome = true ∧
      snapshot.attribution.kickerSide = some player.side
  /-- Candidates are players under their own side and number. -/
  candidates : ∀ touch ∈ snapshot.attribution.candidates,
    ∃ player, snapshot.player? touch.player = some player ∧ player.side = touch.side ∧
      player.unum = some touch.unum
  /-- The fastest players are players. -/
  fastest : ∀ index, snapshot.fastestPlayer = some index ∨
    snapshot.fastestTeammate = some index ∨ snapshot.fastestOpponent = some index →
      ∃ player, snapshot.player? index = some player

/-- What the players of a snapshot are to the next cycle, from any perspective: all are on the sides
that play, no two are one player, and a look-up finds none under another identity than its own. -/
structure HoldsRoster (snapshot : Snapshot R) : Prop where
  isAssigned : ∀ player ∈ snapshot.players, player.side.isAssigned = true
  distinct : Player.HaveDistinctIdentities snapshot.players
  identity_of_find? : ∀ identity player, snapshot.find? identity = some player →
    player.identity? = some identity

/-- The players of a snapshot that have an identity. -/
def recordsOf (identity : Identity) (snapshot : Snapshot R) : List (Player R) :=
  snapshot.players.filter fun player => player.identity? = some identity

/-- A right table leads from a number to the player of the table's side with that number. -/
theorem bind_slots_eq_some_iff {snapshot : Snapshot R} {side : Side} {slots : TeamSlots}
    {byReach : List Nat} (hTable : IsTeamTable snapshot.players side slots byReach) (unum : Unum)
    (player : Player R) :
    (slots unum).bind snapshot.player? = some player ↔
      ∃ index : Nat, snapshot.players[index]? = some player ∧
        player.identity? = some ⟨side, unum⟩ := by
  rw [Option.bind_eq_some_iff]
  refine exists_congr fun index => ?_
  rw [hTable.slots_eq_some_iff, Player.identity?_eq_some_iff]
  constructor
  · rintro ⟨⟨other, hOther, hOtherSide, hUnum⟩, hPlayer⟩
    obtain rfl := Option.some.inj (hOther.symm.trans hPlayer)
    exact ⟨hPlayer, hOtherSide, hUnum⟩
  · rintro ⟨hPlayer, hPlayerSide, hUnum⟩
    exact ⟨⟨player, hPlayer, hPlayerSide, hUnum⟩, hPlayer⟩

/-- With the right tables the look-up finds exactly the players of the list. -/
theorem find?_eq_some_iff_of_isTeamTable {snapshot : Snapshot R}
    (hSide : snapshot.ourSide.isAssigned = true)
    (hAssigned : ∀ player ∈ snapshot.players, player.side.isAssigned = true)
    (hOurs : IsTeamTable snapshot.players snapshot.ourSide snapshot.teammateSlots
      snapshot.teammatesByReach)
    (hTheirs : IsTeamTable snapshot.players snapshot.perspective.theirSide snapshot.opponentSlots
      snapshot.opponentsByReach) (identity : Identity) (player : Player R) :
    snapshot.find? identity = some player ↔
      ∃ index : Nat, snapshot.players[index]? = some player ∧ player.identity? = some identity := by
  obtain ⟨side, unum⟩ := identity
  unfold find?
  by_cases hOur : side = snapshot.ourSide
  · rw [if_pos hOur, hOur]
    exact bind_slots_eq_some_iff hOurs unum player
  · rw [if_neg hOur]
    by_cases hTheir : side = snapshot.perspective.theirSide
    · rw [if_pos hTheir, hTheir]
      exact bind_slots_eq_some_iff hTheirs unum player
    · rw [if_neg hTheir]
      constructor
      · intro hNone
        contradiction
      · rintro ⟨index, hPlayer, hIdentity⟩
        have hPlayerSide := hAssigned player (List.mem_of_getElem? hPlayer)
        rw [(Player.identity?_eq_some_iff.mp hIdentity).1] at hPlayerSide
        exact absurd ((Side.ne_iff_eq_opposite hSide hPlayerSide).mp hOur) hTheir

/-- What the look-up finds is of the identity asked for.  Their table need not be right where their
side is ours, because it is not looked up then. -/
theorem identity_of_find?_of_isTeamTable {snapshot : Snapshot R}
    (hOurs : IsTeamTable snapshot.players snapshot.ourSide snapshot.teammateSlots
      snapshot.teammatesByReach)
    (hTheirs : snapshot.perspective.theirSide ≠ snapshot.ourSide →
      IsTeamTable snapshot.players snapshot.perspective.theirSide snapshot.opponentSlots
        snapshot.opponentsByReach) {identity : Identity} {player : Player R}
    (hFind : snapshot.find? identity = some player) : player.identity? = some identity := by
  obtain ⟨side, unum⟩ := identity
  unfold find? at hFind
  split at hFind
  · next hOur =>
      obtain rfl : side = snapshot.ourSide := hOur
      obtain ⟨-, -, hIdentity⟩ := (bind_slots_eq_some_iff hOurs unum player).mp hFind
      exact hIdentity
  · next hOur =>
      split at hFind
      · next hTheir =>
          obtain rfl : side = snapshot.perspective.theirSide := hTheir
          obtain ⟨-, -, hIdentity⟩ := (bind_slots_eq_some_iff (hTheirs hOur) unum player).mp hFind
          exact hIdentity
      · contradiction

namespace IsCoherent

variable {snapshot : Snapshot R}

theorem find?_eq_some_iff (hCoherent : snapshot.IsCoherent) (identity : Identity)
    (player : Player R) :
    snapshot.find? identity = some player ↔
      player ∈ snapshot.players ∧ player.identity? = some identity := by
  constructor
  · intro hFind
    by_cases hAbsent : ∀ other ∈ snapshot.players, other.identity? ≠ some identity
    · rw [hCoherent.find?_absent identity hAbsent] at hFind
      contradiction
    · simp only [not_forall, not_not] at hAbsent
      obtain ⟨other, hMem, hIdentity⟩ := hAbsent
      rw [hCoherent.find?_of_mem other hMem identity hIdentity] at hFind
      obtain rfl := Option.some.inj hFind
      exact ⟨hMem, hIdentity⟩
  · rintro ⟨hMem, hIdentity⟩
    exact hCoherent.find?_of_mem player hMem identity hIdentity

theorem identity_of_find? (hCoherent : snapshot.IsCoherent) {identity : Identity}
    {player : Player R} (hFind : snapshot.find? identity = some player) :
    player.identity? = some identity :=
  ((hCoherent.find?_eq_some_iff identity player).mp hFind).2

theorem holdsRoster (hCoherent : snapshot.IsCoherent) : snapshot.HoldsRoster :=
  ⟨hCoherent.isAssigned, hCoherent.distinct, fun _ _ => hCoherent.identity_of_find?⟩

/-- The players of one identity are the one that the look-up finds. -/
theorem recordsOf_eq (hCoherent : snapshot.IsCoherent) (identity : Identity) :
    snapshot.recordsOf identity = (snapshot.find? identity).toList := by
  unfold recordsOf
  cases hFind : snapshot.find? identity with
  | some player =>
      obtain ⟨hMem, hIdentity⟩ := (hCoherent.find?_eq_some_iff identity player).mp hFind
      exact hCoherent.distinct.filter_identity hMem hIdentity
  | none =>
      rw [Option.toList_none, List.filter_eq_nil_iff]
      intro player hMem hIdentity
      rw [hCoherent.find?_of_mem player hMem identity (of_decide_eq_true hIdentity)] at hFind
      contradiction

theorem find?_eq_of_recordsOf_eq (hCoherent : snapshot.IsCoherent) {identity : Identity}
    {player : Option (Player R)} (hRecords : snapshot.recordsOf identity = player.toList) :
    snapshot.find? identity = player := by
  have hFirst := congrArg List.head? hRecords
  rwa [hCoherent.recordsOf_eq, Option.head?_toList, Option.head?_toList] at hFirst

end IsCoherent

end Snapshot

end SoccerWorld
