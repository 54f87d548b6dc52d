import Mathlib.Data.List.Nodup
import Mathlib.Data.List.Perm.Subperm
import Mathlib.Order.Bounds.Basic
import SoccerWorld.Snapshot.Build

/-!
# The tables of one team

A snapshot keeps for each team a table from uniform numbers to positions in its list of players,
and the list of those positions in reach order.  `IsTeamTable` says what both must hold.  Main
statement: the tables that a build makes are right whenever no two players share an identity
(`isTeamTable_teamEntries`).
-/

namespace SoccerWorld

variable {R : Type} [Scalar R]

/-- No two of the players with a known number are the same player. -/
def Player.HaveDistinctIdentities (players : List (Player R)) : Prop :=
  (players.filterMap Player.identity?).Nodup

/-- The table and the ordered positions of the players of a side with a known number. -/
structure IsTeamTable (players : List (Player R)) (side : Side) (slots : TeamSlots)
    (byReach : List Nat) : Prop where
  /-- A number leads to the position of the side's player with that number, and to no other. -/
  slots_eq_some_iff : ∀ unum index, slots unum = some index ↔
    ∃ player, players[index]? = some player ∧ player.side = side ∧ player.unum = some unum
  /-- Positions are listed in the order of the players. -/
  byReach_increasing : byReach.Pairwise (· < ·)
  /-- The listed positions are those in the table. -/
  mem_byReach_iff : ∀ index, index ∈ byReach ↔ ∃ unum, slots unum = some index
  /-- There are at most eleven of them. -/
  length_byReach_le : byReach.length ≤ 11
  /-- A player without a number is neither in the table nor in the list. -/
  unnumbered : ∀ index player, players[index]? = some player → player.unum = none →
    index ∉ byReach ∧ ∀ unum, slots unum ≠ some index

/-- The tables of a side without players are empty. -/
theorem IsTeamTable.eq_nil_of_absent {players : List (Player R)} {side : Side} {slots : TeamSlots}
    {byReach : List Nat} (hTable : IsTeamTable players side slots byReach)
    (hAbsent : ∀ player ∈ players, player.side ≠ side) :
    (∀ unum, slots unum = none) ∧ byReach = [] := by
  have hSlots : ∀ unum, slots unum = none := by
    intro unum
    rw [Option.eq_none_iff_forall_not_mem]
    intro index hIndex
    obtain ⟨player, hPlayer, hSide, -⟩ := (hTable.slots_eq_some_iff unum index).mp hIndex
    exact hAbsent player (List.mem_of_getElem? hPlayer) hSide
  refine ⟨hSlots, List.eq_nil_iff_forall_not_mem.mpr fun index hIndex => ?_⟩
  obtain ⟨unum, hSlot⟩ := (hTable.mem_byReach_iff index).mp hIndex
  rw [hSlots unum] at hSlot
  contradiction

namespace Player

theorem identity?_eq_some_iff {player : Player R} {identity : Identity} :
    player.identity? = some identity ↔
      player.side = identity.side ∧ player.unum = some identity.unum := by
  rw [identity?, Option.map_eq_some_iff]
  constructor
  · rintro ⟨unum, hUnum, rfl⟩
    exact ⟨rfl, hUnum⟩
  · rintro ⟨hSide, hUnum⟩
    exact ⟨identity.unum, hUnum, by rw [hSide]⟩

/-- Among players with distinct identities an identity occurs at one position only. -/
theorem HaveDistinctIdentities.index_eq {players : List (Player R)}
    (hDistinct : HaveDistinctIdentities players) {i j : Nat} {p q : Player R}
    {identity : Identity} (hp : players[i]? = some p) (hq : players[j]? = some q)
    (hpIdentity : p.identity? = some identity) (hqIdentity : q.identity? = some identity) :
    i = j := by
  unfold HaveDistinctIdentities List.Nodup at hDistinct
  rw [List.pairwise_filterMap, List.pairwise_iff_getElem] at hDistinct
  obtain ⟨hi, rfl⟩ := List.getElem?_eq_some_iff.mp hp
  obtain ⟨hj, rfl⟩ := List.getElem?_eq_some_iff.mp hq
  rcases Nat.lt_trichotomy i j with hLess | hEqual | hGreater
  · exact absurd rfl (hDistinct i j hi hj hLess identity hpIdentity identity hqIdentity)
  · exact hEqual
  · exact absurd rfl (hDistinct j i hj hi hGreater identity hqIdentity identity hpIdentity)

/-- Among players with distinct identities the players of one identity are one player. -/
theorem HaveDistinctIdentities.filter_identity {players : List (Player R)}
    (hDistinct : HaveDistinctIdentities players) {player : Player R} {identity : Identity}
    (hMem : player ∈ players) (hIdentity : player.identity? = some identity) :
    players.filter (fun other => other.identity? = some identity) = [player] := by
  obtain ⟨before, after, rfl⟩ := List.append_of_mem hMem
  unfold HaveDistinctIdentities at hDistinct
  rw [List.filterMap_append, List.filterMap_cons_some hIdentity, List.nodup_middle,
    List.nodup_cons, List.mem_append, List.mem_filterMap, List.mem_filterMap] at hDistinct
  have hBefore : before.filter (fun other => other.identity? = some identity) = [] := by
    rw [List.filter_eq_nil_iff]
    intro other hOther hSame
    exact hDistinct.1 (Or.inl ⟨other, hOther, of_decide_eq_true hSame⟩)
  have hAfter : after.filter (fun other => other.identity? = some identity) = [] := by
    rw [List.filter_eq_nil_iff]
    intro other hOther hSame
    exact hDistinct.1 (Or.inr ⟨other, hOther, of_decide_eq_true hSame⟩)
  rw [List.filter_append, List.filter_cons_of_pos (by simpa using hIdentity), hBefore, hAfter]
  rfl

/-- Changes that keep every player's identity keep the list of identities. -/
theorem filterMap_identity?_map {f : Player R → Player R}
    (hKeeps : ∀ player, (f player).identity? = player.identity?) (players : List (Player R)) :
    (players.map f).filterMap identity? = players.filterMap identity? := by
  rw [List.filterMap_map]
  exact List.filterMap_congr fun player _ => hKeeps player

/-- Distinctness does not depend on the order. -/
theorem HaveDistinctIdentities.perm {players others : List (Player R)}
    (hPerm : players.Perm others) (hDistinct : HaveDistinctIdentities others) :
    HaveDistinctIdentities players :=
  ((hPerm.filterMap Player.identity?).nodup_iff).mpr hDistinct

end Player

namespace Observer

theorem mem_teamEntries_iff {isTeam : Side → Bool} {players : List (Player R)} {unum : Unum}
    {index : Nat} :
    (unum, index) ∈ teamEntries isTeam players ↔
      ∃ player, players[index]? = some player ∧ isTeam player.side = true ∧
        player.unum = some unum := by
  simp only [teamEntries, List.mem_filterMap, Prod.exists, List.mk_mem_zipIdx_iff_getElem?]
  constructor
  · rintro ⟨player, position, hPlayer, hEntry⟩
    by_cases hTeam : isTeam player.side = true
    · rw [if_pos hTeam, Option.map_eq_some_iff] at hEntry
      obtain ⟨number, hUnum, hPair⟩ := hEntry
      obtain ⟨rfl, rfl⟩ := Prod.mk.inj hPair
      exact ⟨player, hPlayer, hTeam, hUnum⟩
    · rw [if_neg hTeam] at hEntry
      contradiction
  · rintro ⟨player, hPlayer, hTeam, hUnum⟩
    exact ⟨player, index, hPlayer, by rw [if_pos hTeam, hUnum, Option.map_some]⟩

/-- Entries are listed in the order of the players. -/
theorem pairwise_snd_teamEntries (isTeam : Side → Bool) (players : List (Player R)) :
    ((teamEntries isTeam players).map Prod.snd).Pairwise (· < ·) := by
  have hPositions : players.zipIdx.Pairwise fun earlier later => earlier.2 < later.2 := by
    apply List.pairwise_map.mp
    rw [List.zipIdx_map_snd]
    exact List.pairwise_lt_range'
  rw [List.pairwise_map]
  refine hPositions.filterMap _ ?_
  rintro ⟨player, i⟩ ⟨other, j⟩ hLess ⟨unum, i'⟩ hEntry ⟨unum', j'⟩ hEntry'
  have hPosition : ∀ {p : Player R} {k k' : Nat} {u : Unum},
      (if isTeam p.side = true then p.unum.map fun number => (number, k) else none) =
        some (u, k') → k = k' := by
    intro p k k' u hSome
    split at hSome
    · obtain ⟨number, -, hPair⟩ := Option.map_eq_some_iff.mp hSome
      exact (Prod.mk.inj hPair).2
    · contradiction
  rw [← hPosition hEntry, ← hPosition hEntry']
  exact hLess

/-- Where numbers are different, the table holds exactly the entries. -/
theorem teamSlots_eq_some_iff {entries : List (Unum × Nat)}
    (hDistinct : (entries.map Prod.fst).Nodup) (unum : Unum) (index : Nat) :
    teamSlots entries unum = some index ↔ (unum, index) ∈ entries := by
  unfold teamSlots
  rw [Option.map_eq_some_iff]
  constructor
  · rintro ⟨entry, hFind, rfl⟩
    have hNumber := List.find?_some hFind
    rw [decide_eq_true_eq] at hNumber
    rw [← hNumber]
    exact List.mem_reverse.mp (List.mem_of_find?_eq_some hFind)
  · intro hMem
    cases hFind : entries.reverse.find? fun entry => entry.1 = unum with
    | none =>
        have hNone := List.find?_eq_none.mp hFind (unum, index) (List.mem_reverse.mpr hMem)
        simp at hNone
    | some entry =>
        have hNumber := List.find?_some hFind
        rw [decide_eq_true_eq] at hNumber
        have hEntry := List.mem_reverse.mp (List.mem_of_find?_eq_some hFind)
        exact ⟨entry, rfl, by rw [List.inj_on_of_nodup_map hDistinct hEntry hMem hNumber]⟩

/-- Of the positions that are entered for a number, the table holds the last. -/
theorem teamSlots_eq_some_iff_isGreatest {entries : List (Unum × Nat)}
    (hAscending : (entries.map Prod.snd).Pairwise (· < ·)) (unum : Unum) (index : Nat) :
    teamSlots entries unum = some index ↔ IsGreatest {index | (unum, index) ∈ entries} index := by
  have hLast : ∀ index, teamSlots entries unum = some index →
      IsGreatest {index | (unum, index) ∈ entries} index := by
    intro index hSlot
    obtain ⟨⟨number, last⟩, hFind, rfl⟩ := Option.map_eq_some_iff.mp hSlot
    obtain ⟨hNumber, later, earlier, hEntries, hLater⟩ := List.find?_eq_some_iff_append.mp hFind
    obtain rfl : number = unum := of_decide_eq_true hNumber
    have hDescending := List.pairwise_reverse.mpr (List.pairwise_map.mp hAscending)
    rw [hEntries, List.pairwise_append, List.pairwise_cons] at hDescending
    have hMem : ∀ other, (number, other) ∈ entries ↔
        (number, other) ∈ later ++ (number, last) :: earlier := by
      intro other
      rw [← hEntries, List.mem_reverse]
    refine ⟨(hMem last).mpr (List.mem_append_right _ List.mem_cons_self), ?_⟩
    intro other hOther
    rcases List.mem_append.mp ((hMem other).mp hOther) with hIn | hIn
    · have hElse := hLater _ hIn
      simp at hElse
    · rcases List.mem_cons.mp hIn with hSame | hIn
      · exact (Prod.mk.inj hSame).2.le
      · exact (hDescending.2.1.1 _ hIn).le
  constructor
  · exact hLast index
  · intro hGreatest
    cases hSlot : teamSlots entries unum with
    | none =>
        have hNone := List.find?_eq_none.mp (Option.map_eq_none_iff.mp hSlot) _
          (List.mem_reverse.mpr hGreatest.1)
        simp at hNone
    | some last => rw [(hLast last hSlot).unique hGreatest]

/-- Different players of one side have different numbers. -/
theorem nodup_fst_teamEntries {isTeam : Side → Bool} {side : Side} {players : List (Player R)}
    (hDistinct : Player.HaveDistinctIdentities players)
    (hTeam : ∀ player ∈ players, isTeam player.side = true ↔ player.side = side) :
    ((teamEntries isTeam players).map Prod.fst).Nodup := by
  have hEntries : (teamEntries isTeam players).Nodup :=
    List.Nodup.of_map Prod.snd ((pairwise_snd_teamEntries isTeam players).imp Nat.ne_of_lt)
  refine List.Nodup.map_on ?_ hEntries
  rintro ⟨unum, i⟩ hFirst ⟨unum', j⟩ hSecond hNumber
  obtain rfl : unum = unum' := hNumber
  -- Side and number together are an identity, and an identity is at one position only.
  obtain ⟨p, hp, hpTeam, hpUnum⟩ := mem_teamEntries_iff.mp hFirst
  obtain ⟨q, hq, hqTeam, hqUnum⟩ := mem_teamEntries_iff.mp hSecond
  have hpSide := (hTeam p (List.mem_of_getElem? hp)).mp hpTeam
  have hqSide := (hTeam q (List.mem_of_getElem? hq)).mp hqTeam
  rw [hDistinct.index_eq hp hq
    (Player.identity?_eq_some_iff.mpr ⟨hpSide, hpUnum⟩ : p.identity? = some ⟨side, unum⟩)
    (Player.identity?_eq_some_iff.mpr ⟨hqSide, hqUnum⟩)]

/-- The tables of a team, made from players that are all different. -/
theorem isTeamTable_teamEntries {isTeam : Side → Bool} {side : Side} {players : List (Player R)}
    (hDistinct : Player.HaveDistinctIdentities players)
    (hTeam : ∀ player ∈ players, isTeam player.side = true ↔ player.side = side) :
    IsTeamTable players side (teamSlots (teamEntries isTeam players))
      ((teamEntries isTeam players).map Prod.snd) := by
  have hNumbers := nodup_fst_teamEntries hDistinct hTeam
  have hSlots : ∀ unum index, teamSlots (teamEntries isTeam players) unum = some index ↔
      ∃ player, players[index]? = some player ∧ player.side = side ∧
        player.unum = some unum := by
    intro unum index
    rw [teamSlots_eq_some_iff hNumbers, mem_teamEntries_iff]
    refine exists_congr fun player => and_congr_right fun hPlayer => ?_
    rw [hTeam player (List.mem_of_getElem? hPlayer)]
  have hMem : ∀ index, index ∈ (teamEntries isTeam players).map Prod.snd ↔
      ∃ unum, teamSlots (teamEntries isTeam players) unum = some index := by
    intro index
    simp only [teamSlots_eq_some_iff hNumbers, List.mem_map, Prod.exists, exists_eq_right]
  have hNone : ∀ index player, players[index]? = some player → player.unum = none →
      ∀ unum, teamSlots (teamEntries isTeam players) unum ≠ some index := by
    intro index player hPlayer hUnum unum hSlot
    obtain ⟨other, hOther, -, hNumber⟩ := (hSlots unum index).mp hSlot
    obtain rfl := Option.some.inj (hPlayer.symm.trans hOther)
    rw [hUnum] at hNumber
    contradiction
  refine ⟨hSlots, pairwise_snd_teamEntries isTeam players, hMem, ?_, ?_⟩
  · have hLength : ((teamEntries isTeam players).map Prod.fst).length ≤ Unum.all.length :=
      (List.Nodup.subperm hNumbers fun unum _ => Unum.mem_all unum).length_le
    have hEleven : Unum.all.length = 11 := rfl
    rw [List.length_map, hEleven] at hLength
    rw [List.length_map]
    exact hLength
  · intro index player hPlayer hUnum
    refine ⟨?_, hNone index player hPlayer hUnum⟩
    rw [hMem]
    rintro ⟨unum, hSlot⟩
    exact hNone index player hPlayer hUnum unum hSlot

end Observer

end SoccerWorld
