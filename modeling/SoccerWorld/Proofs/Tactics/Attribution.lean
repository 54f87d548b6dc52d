import SoccerWorld.Tactics.Kicker

/-!
# Who may be named in an attribution

A touch is recorded of a player at a position of the list, under that player's own side and number
(`touch?_eq_some_iff`, `exists_player_of_mem_candidates`), and a kicker is always a player of the
list with a number, on the side that is credited (`exists_player_of_kicker`).
-/

namespace SoccerWorld
namespace TouchRules

variable {R : Type} [Scalar R]

/-- A touch is recorded of a player that was seen, that has a number, that the snapshot before
knows, and whose distances to the ball make a touch plausible. -/
theorem touch?_eq_some_iff (touchRules : TouchRules R) (ball : Ball R) (previous : Snapshot R)
    (player : Player R) (index : Nat) (touch : Touch R) :
    touchRules.touch? ball previous player index = some touch ↔
      player.ages.seen = 0 ∧ ∃ unum before kind,
        player.unum = some unum ∧ previous.find? ⟨player.side, unum⟩ = some before ∧
        touchRules.touchKind? player (before.position - previous.ball.position).norm
          (player.position - ball.position).norm = some kind ∧
        touch = ⟨index, player.side, unum, kind, (before.position - previous.ball.position).norm,
          (player.position - ball.position).norm⟩ := by
  unfold touch? Player.identity?
  by_cases hSeen : player.ages.seen = 0
  · rw [if_neg (not_not_intro hSeen)]
    simp only [Option.bind_eq_bind, Option.bind_eq_some_iff, Option.map_eq_some_iff,
      Option.pure_def, Option.some.injEq]
    constructor
    · rintro ⟨identity, ⟨unum, hUnum, rfl⟩, before, hBefore, kind, hKind, rfl⟩
      exact ⟨hSeen, unum, before, kind, hUnum, hBefore, hKind, rfl⟩
    · rintro ⟨-, unum, before, kind, hUnum, hBefore, hKind, rfl⟩
      exact ⟨_, ⟨unum, hUnum, rfl⟩, before, hBefore, kind, hKind, rfl⟩
  · rw [if_pos hSeen]
    simp [hSeen]

/-- Every candidate is a player of the list, under its own side and number. -/
theorem exists_player_of_mem_candidates {touchRules : TouchRules R} {players : List (Player R)}
    {ball : Ball R} {previous : Snapshot R} {touch : Touch R}
    (hTouch : touch ∈ touchRules.candidates players ball previous) :
    ∃ player, players[touch.player]? = some player ∧ player.side = touch.side ∧
      player.unum = some touch.unum := by
  rw [candidates, List.mem_mergeSort, List.mem_filterMap] at hTouch
  obtain ⟨⟨player, index⟩, hEntry, hSome⟩ := hTouch
  obtain ⟨-, unum, before, kind, hUnum, -, -, rfl⟩ :=
    (touchRules.touch?_eq_some_iff ball previous player index touch).mp hSome
  exact ⟨player, List.mk_mem_zipIdx_iff_getElem?.mp hEntry, rfl, hUnum⟩

theorem mem_of_firstNearest {entries : List (Nat × R)} {entry : Nat × R}
    (hEntry : firstNearest entries = some entry) : entry ∈ entries := by
  induction entries generalizing entry with
  | nil => contradiction
  | cons first rest ih =>
      rw [firstNearest] at hEntry
      cases hRest : firstNearest rest with
      | none =>
          rw [hRest] at hEntry
          exact List.mem_cons.mpr (Or.inl (Option.some.inj hEntry).symm)
      | some best =>
          simp only [hRest] at hEntry
          split at hEntry
          · exact List.mem_cons.mpr (Or.inl (Option.some.inj hEntry).symm)
          · obtain rfl := Option.some.inj hEntry
            exact List.mem_cons_of_mem _ (ih hRest)

/-- The player of a set play is one of the executing side with a number. -/
theorem exists_player_of_kicker_restart {players : List (Player R)} {ball : Ball R} {side : Side}
    {index : Nat} (hKicker : (attributeRestart players ball side).kicker = some index) :
    ∃ player, players[index]? = some player ∧ player.side = side ∧ player.unum.isSome = true := by
  obtain ⟨entry, hFirst, rfl⟩ := Option.map_eq_some_iff.mp hKicker
  obtain ⟨⟨player, position⟩, hPlayer, hSome⟩ := List.mem_filterMap.mp (mem_of_firstNearest hFirst)
  dsimp only at hSome
  split at hSome
  · next hMember =>
      obtain rfl := Option.some.inj hSome
      rw [Bool.and_eq_true, decide_eq_true_eq] at hMember
      exact ⟨player, List.mk_mem_zipIdx_iff_getElem?.mp hPlayer, hMember⟩
  · contradiction

/-- Candidates are recorded only where there is a snapshot before and no set play. -/
theorem mem_candidates_of_mem_attribution {touchRules : TouchRules R} {players : List (Player R)}
    {ball : Ball R} {playMode : PlayMode} {previous : Option (Snapshot R)} {touch : Touch R}
    (hTouch : touch ∈ (touchRules.attribution players ball playMode previous).candidates) :
    ∃ before, previous = some before ∧ touch ∈ touchRules.candidates players ball before := by
  unfold attribution at hTouch
  split at hTouch
  · contradiction
  · split at hTouch
    · contradiction
    · next before =>
        refine ⟨before, rfl, ?_⟩
        unfold attributeTouches at hTouch
        split at hTouch <;> exact hTouch

/-- The kicker is a player of the list with a number, on the credited side. -/
theorem exists_player_of_kicker {touchRules : TouchRules R} {players : List (Player R)}
    {ball : Ball R} {playMode : PlayMode} {previous : Option (Snapshot R)} {index : Nat}
    (hKicker : (touchRules.attribution players ball playMode previous).kicker = some index) :
    ∃ player, players[index]? = some player ∧ player.unum.isSome = true ∧
      (touchRules.attribution players ball playMode previous).kickerSide = some player.side := by
  unfold attribution at hKicker ⊢
  split at hKicker
  · next side =>
      obtain ⟨player, hPlayer, rfl, hUnum⟩ := exists_player_of_kicker_restart hKicker
      exact ⟨player, hPlayer, hUnum, rfl⟩
  · split at hKicker
    · contradiction
    · next before =>
        unfold attributeTouches at hKicker ⊢
        split at hKicker
        · contradiction
        · next hContested =>
            obtain ⟨touch, hFirst, rfl⟩ := Option.map_eq_some_iff.mp hKicker
            obtain ⟨player, hPlayer, hSide, hUnum⟩ :=
              exists_player_of_mem_candidates (List.mem_of_head? hFirst)
            refine ⟨player, hPlayer, by rw [hUnum]; rfl, ?_⟩
            rw [if_neg hContested, hSide]
            exact Option.map_eq_some_iff.mpr ⟨touch, hFirst, rfl⟩

end TouchRules
end SoccerWorld
