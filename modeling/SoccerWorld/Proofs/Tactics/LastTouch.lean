import SoccerWorld.Proofs.Numeric.Sorting
import SoccerWorld.Proofs.Snapshot.TeamTable
import SoccerWorld.Proofs.Tactics.Attribution

/-!
# Which touch is attributed

Two statements describe an attribution without the lists and sorts that compute it.

* `Attribution.IsSetPlay`: at a set play the touch belongs to the first of the numbered players of
  the side that are nearest to the ball (`attributeRestart_isSetPlay`);
* `Attribution.IsOfTouches`: otherwise all plausible touches are listed, nearest in the cycle before
  first and ties in the order of the players, and the first one counts unless both sides have one
  (`attributeTouches_isOfTouches`).
-/

namespace SoccerWorld

variable {R : Type} [Scalar R]

namespace Player

/-- The player is on a side and its number is known. -/
def IsNumberedOf (side : Side) (player : Player R) : Prop :=
  player.side = side ∧ player.unum.isSome = true

/-- Square of the player's distance from the ball. -/
def squaredDistance (ball : Ball R) (player : Player R) : R :=
  (player.position - ball.position).normSquared

end Player

/-- At this position of a list stands the first of the numbered players of a side that are nearest
to the ball.  Nearness is compared by squares. -/
def IsFirstNearest (players : List (Player R)) (ball : Ball R) (side : Side) (index : Nat) : Prop :=
  ∃ player, players[index]? = some player ∧ player.IsNumberedOf side ∧
    ∀ (position : Nat) rival, players[position]? = some rival → rival.IsNumberedOf side →
      Scalar.precedes (player.squaredDistance ball) (rival.squaredDistance ball) = true ∧
        (Scalar.precedes (rival.squaredDistance ball) (player.squaredDistance ball) = true →
          index ≤ position)

namespace Attribution

/-- The attribution at a set play of a side. -/
structure IsSetPlay (attribution : Attribution R) (players : List (Player R)) (ball : Ball R)
    (side : Side) : Prop where
  candidates_eq : attribution.candidates = []
  kickerSide_eq : attribution.kickerSide = some side
  kicker_eq_some_iff : ∀ index, attribution.kicker = some index ↔
    IsFirstNearest players ball side index
  kicker_eq_none_iff : attribution.kicker = none ↔ ∀ player ∈ players, ¬ player.IsNumberedOf side

/-- The attribution that follows from the plausible touches. -/
structure IsOfTouches (attribution : Attribution R) (isTouch : Touch R → Prop) : Prop where
  mem_candidates_iff : ∀ touch, touch ∈ attribution.candidates ↔ isTouch touch
  /-- No player is listed twice. -/
  nodup : (attribution.candidates.map Touch.player).Nodup
  /-- Nearest in the cycle before comes first, and ties are in the order of the players. -/
  sorted : attribution.candidates.Pairwise fun a b =>
    Scalar.precedes a.prevDist b.prevDist = true ∧
      (Scalar.precedes b.prevDist a.prevDist = true → a.player < b.player)
  isSome_kicker_iff : attribution.kicker.isSome = true ↔
    attribution.candidates ≠ [] ∧
      ∀ a ∈ attribution.candidates, ∀ b ∈ attribution.candidates, a.side = b.side
  /-- The kicker is the first of the listed players. -/
  first_of_kicker : ∀ index, attribution.kicker = some index →
    ∃ first, attribution.candidates.head? = some first ∧ first.player = index ∧
      attribution.kickerSide = some first.side ∧
      ∀ touch ∈ attribution.candidates, Scalar.precedes first.prevDist touch.prevDist = true
  kickerSide_eq_none_iff : attribution.kickerSide = none ↔ attribution.kicker = none

end Attribution

namespace Touch

omit [Scalar R] in
theorem isContested_eq_true_iff {candidates : List (Touch R)}
    (hAssigned : ∀ touch ∈ candidates, touch.side.isAssigned = true) :
    isContested candidates = true ↔ ∃ a ∈ candidates, ∃ b ∈ candidates, a.side ≠ b.side := by
  unfold isContested
  simp only [Bool.and_eq_true, List.any_eq_true, decide_eq_true_eq]
  constructor
  · rintro ⟨⟨a, ha, haSide⟩, b, hb, hbSide⟩
    refine ⟨a, ha, b, hb, ?_⟩
    rw [haSide, hbSide]
    decide
  · rintro ⟨a, ha, b, hb, hDifferent⟩
    have haSide := hAssigned a ha
    have hbSide := hAssigned b hb
    -- Two different assigned sides are left and right, in one order or the other.
    cases hLeft : a.side <;> cases hRight : b.side <;> simp_all [Side.isAssigned]
    · exact ⟨⟨a, ha, hLeft⟩, b, hb, hRight⟩
    · exact ⟨⟨b, hb, hRight⟩, a, ha, hLeft⟩

end Touch

namespace TouchRules

/-- What is listed of entries with ascending positions has ascending positions. -/
theorem pairwise_filterMap_zipIdx {α β : Type} (xs : List α) (f : α × Nat → Option β)
    (place : β → Nat) (hPlace : ∀ entry y, f entry = some y → place y = entry.2) :
    (xs.zipIdx.filterMap f).Pairwise fun a b => place a < place b := by
  have hPositions : xs.zipIdx.Pairwise fun earlier later => earlier.2 < later.2 := by
    apply List.pairwise_map.mp
    rw [List.zipIdx_map_snd]
    exact List.pairwise_lt_range'
  refine hPositions.filterMap f ?_
  intro entry other hLess a ha b hb
  rw [hPlace entry a ha, hPlace other b hb]
  exact hLess

/-! ## The nearest player -/

theorem firstNearest_eq_none_iff (entries : List (Nat × R)) :
    firstNearest entries = none ↔ entries = [] := by
  cases entries with
  | nil => exact ⟨fun _ => rfl, fun _ => rfl⟩
  | cons entry rest =>
      rw [firstNearest]
      cases firstNearest rest with
      | none => simp
      | some best =>
          dsimp only
          split <;> simp

/-- Positions and squared distances of the numbered players of a side. -/
def distances (players : List (Player R)) (ball : Ball R) (side : Side) : List (Nat × R) :=
  players.zipIdx.filterMap fun (player, index) =>
    if player.side = side && player.unum.isSome then some (index, player.squaredDistance ball)
    else none

theorem kicker_attributeRestart (players : List (Player R)) (ball : Ball R) (side : Side) :
    (attributeRestart players ball side).kicker =
      (firstNearest (distances players ball side)).map Prod.fst := rfl

theorem mem_distances_iff {players : List (Player R)} {ball : Ball R} {side : Side}
    {index : Nat} {distance : R} :
    (index, distance) ∈ distances players ball side ↔
      ∃ player, players[index]? = some player ∧ player.IsNumberedOf side ∧
        distance = player.squaredDistance ball := by
  simp only [distances, List.mem_filterMap, Prod.exists, List.mk_mem_zipIdx_iff_getElem?,
    Bool.and_eq_true, decide_eq_true_eq]
  constructor
  · rintro ⟨player, position, hPlayer, hEntry⟩
    split at hEntry
    · next hNumbered =>
        obtain ⟨rfl, rfl⟩ := Prod.mk.inj (Option.some.inj hEntry)
        exact ⟨player, hPlayer, hNumbered, rfl⟩
    · contradiction
  · rintro ⟨player, hPlayer, hNumbered, rfl⟩
    refine ⟨player, index, hPlayer, ?_⟩
    exact if_pos hNumbered

theorem pairwise_distances (players : List (Player R)) (ball : Ball R) (side : Side) :
    (distances players ball side).Pairwise fun a b => a.1 < b.1 := by
  apply pairwise_filterMap_zipIdx
  rintro ⟨player, index⟩ entry hEntry
  dsimp only at hEntry
  split at hEntry
  · obtain rfl := Option.some.inj hEntry
    rfl
  · contradiction

section Ordered

variable [Scalar.IsOrdered R]

/-- Of entries in ascending order the one that is found has the least key, and of all entries with
that key it is the first. -/
theorem le_of_firstNearest {entries : List (Nat × R)} {entry : Nat × R}
    (hOrder : entries.Pairwise fun a b => a.1 < b.1) (hFirst : firstNearest entries = some entry) :
    ∀ other ∈ entries, Scalar.precedes entry.2 other.2 = true ∧
      (Scalar.precedes other.2 entry.2 = true → entry.1 ≤ other.1) := by
  induction entries generalizing entry with
  | nil => contradiction
  | cons head rest ih =>
      obtain ⟨hBefore, hRestOrder⟩ := List.pairwise_cons.mp hOrder
      intro other hOther
      rw [firstNearest] at hFirst
      cases hRest : firstNearest rest with
      | none =>
          rw [hRest] at hFirst
          obtain rfl := Option.some.inj hFirst
          obtain rfl := (firstNearest_eq_none_iff rest).mp hRest
          obtain rfl := List.mem_singleton.mp hOther
          exact ⟨Scalar.precedes_refl _, fun _ => Nat.le_refl _⟩
      | some best =>
          have hBest := ih hRestOrder hRest
          simp only [hRest] at hFirst
          by_cases hHead : Scalar.precedes head.2 best.2 = true
          · rw [if_pos hHead] at hFirst
            obtain rfl := Option.some.inj hFirst
            rcases List.mem_cons.mp hOther with rfl | hLater
            · exact ⟨Scalar.precedes_refl _, fun _ => Nat.le_refl _⟩
            · have hBelow := (hBest other hLater).1
              exact ⟨Scalar.IsOrdered.precedes_trans _ _ _ hHead hBelow,
                fun _ => Nat.le_of_lt (hBefore other hLater)⟩
          · rw [if_neg hHead] at hFirst
            obtain rfl := Option.some.inj hFirst
            rcases List.mem_cons.mp hOther with rfl | hLater
            · exact ⟨Scalar.precedes_of_not_precedes hHead, fun hTie => absurd hTie hHead⟩
            · exact hBest other hLater

theorem kicker_attributeRestart_eq_some_iff (players : List (Player R)) (ball : Ball R)
    (side : Side) (index : Nat) :
    (attributeRestart players ball side).kicker = some index ↔
      IsFirstNearest players ball side index := by
  have hOrder := pairwise_distances players ball side
  rw [kicker_attributeRestart, Option.map_eq_some_iff]
  constructor
  · rintro ⟨⟨position, distance⟩, hFirst, rfl⟩
    obtain ⟨player, hPlayer, hNumbered, rfl⟩ := mem_distances_iff.mp (mem_of_firstNearest hFirst)
    refine ⟨player, hPlayer, hNumbered, ?_⟩
    intro other rival hRival hRivalNumbered
    exact le_of_firstNearest hOrder hFirst _
      (mem_distances_iff.mpr ⟨rival, hRival, hRivalNumbered, rfl⟩)
  · rintro ⟨player, hPlayer, hNumbered, hNearest⟩
    have hEntry : (index, player.squaredDistance ball) ∈ distances players ball side :=
      mem_distances_iff.mpr ⟨player, hPlayer, hNumbered, rfl⟩
    cases hFirst : firstNearest (distances players ball side) with
    | none =>
        rw [(firstNearest_eq_none_iff _).mp hFirst] at hEntry
        contradiction
    | some best =>
        obtain ⟨rival, hRival, hRivalNumbered, hDistance⟩ :=
          mem_distances_iff.mp (mem_of_firstNearest hFirst)
        -- Both are nearest, so they tie, and each of them is the first of those that tie.
        obtain ⟨hBelow, hTie⟩ := le_of_firstNearest hOrder hFirst _ hEntry
        obtain ⟨hBelow', hTie'⟩ := hNearest best.1 rival hRival hRivalNumbered
        rw [← hDistance] at hBelow' hTie'
        have hLow : best.1 ≤ index := hTie hBelow'
        have hHigh : index ≤ best.1 := hTie' hBelow
        exact ⟨best, rfl, Nat.le_antisymm hLow hHigh⟩

theorem attributeRestart_isSetPlay (players : List (Player R)) (ball : Ball R) (side : Side) :
    (attributeRestart players ball side).IsSetPlay players ball side := by
  refine ⟨rfl, rfl, kicker_attributeRestart_eq_some_iff players ball side, ?_⟩
  rw [kicker_attributeRestart, Option.map_eq_none_iff, firstNearest_eq_none_iff,
    List.eq_nil_iff_forall_not_mem]
  constructor
  · intro hNone player hPlayer hNumbered
    obtain ⟨index, hIndex⟩ := List.mem_iff_getElem?.mp hPlayer
    exact hNone _ (mem_distances_iff.mpr ⟨player, hIndex, hNumbered, rfl⟩)
  · rintro hNone ⟨index, distance⟩ hEntry
    obtain ⟨player, hPlayer, hNumbered, -⟩ := mem_distances_iff.mp hEntry
    exact hNone player (List.mem_of_getElem? hPlayer) hNumbered

end Ordered

/-! ## The plausible touches -/

variable (touchRules : TouchRules R) (players : List (Player R)) (ball : Ball R)
  (previous : Snapshot R)

theorem player_of_touch? {player : Player R} {index : Nat} {touch : Touch R}
    (hTouch : touchRules.touch? ball previous player index = some touch) :
    touch.player = index := by
  obtain ⟨-, unum, before, kind, -, -, -, rfl⟩ :=
    (touchRules.touch?_eq_some_iff ball previous player index touch).mp hTouch
  rfl

theorem mem_candidates_iff (touch : Touch R) :
    touch ∈ touchRules.candidates players ball previous ↔
      ∃ player, players[touch.player]? = some player ∧
        touchRules.touch? ball previous player touch.player = some touch := by
  simp only [candidates, List.mem_mergeSort, List.mem_filterMap, Prod.exists,
    List.mk_mem_zipIdx_iff_getElem?]
  constructor
  · rintro ⟨player, index, hPlayer, hTouch⟩
    obtain rfl := touchRules.player_of_touch? ball previous hTouch
    exact ⟨player, hPlayer, hTouch⟩
  · rintro ⟨player, hPlayer, hTouch⟩
    exact ⟨player, touch.player, hPlayer, hTouch⟩

/-- The plausible touches before they are sorted are in the order of the players. -/
theorem pairwise_player_touches :
    (players.zipIdx.filterMap fun (player, index) =>
      touchRules.touch? ball previous player index).Pairwise fun a b => a.player < b.player := by
  apply pairwise_filterMap_zipIdx
  intro entry touch hTouch
  exact touchRules.player_of_touch? ball previous hTouch

theorem nodup_player_candidates :
    ((touchRules.candidates players ball previous).map Touch.player).Nodup := by
  unfold candidates
  rw [((List.mergeSort_perm _ _).map Touch.player).nodup_iff]
  exact List.pairwise_map.mpr
    ((touchRules.pairwise_player_touches players ball previous).imp Nat.ne_of_lt)

theorem pairwise_candidates [Scalar.IsOrdered R] :
    (touchRules.candidates players ball previous).Pairwise fun a b =>
      Scalar.precedes a.prevDist b.prevDist = true ∧
        (Scalar.precedes b.prevDist a.prevDist = true → a.player < b.player) :=
  pairwise_mergeSort_stable
    (fun a b c => Scalar.IsOrdered.precedes_trans a.prevDist b.prevDist c.prevDist)
    (fun a b => Scalar.precedes_or_precedes a.prevDist b.prevDist)
    (touchRules.pairwise_player_touches players ball previous)

/-! ## The three ways to an attribution -/

variable {touchRules players ball} {playMode : PlayMode}

theorem attribution_of_setPlay {side : Side} (hMode : playMode.restartSide = some side)
    (previous : Option (Snapshot R)) :
    touchRules.attribution players ball playMode previous =
      attributeRestart players ball side := by
  unfold attribution
  rw [hMode]

theorem attribution_first (hMode : playMode.restartSide = none) :
    touchRules.attribution players ball playMode none = {} := by
  unfold attribution
  rw [hMode]

theorem attribution_later (hMode : playMode.restartSide = none) :
    touchRules.attribution players ball playMode (some previous) =
      attributeTouches (touchRules.candidates players ball previous) := by
  unfold attribution
  rw [hMode]

omit [Scalar R] in
theorem candidates_attributeTouches (touches : List (Touch R)) :
    (attributeTouches touches).candidates = touches := by
  unfold attributeTouches
  split <;> rfl

end TouchRules

/-- The attribution of sorted touches of players on assigned sides. -/
theorem TouchRules.attributeTouches_isOfTouches [Scalar.IsOrdered R] (touches : List (Touch R))
    (hAssigned : ∀ touch ∈ touches, touch.side.isAssigned = true)
    (hNodup : (touches.map Touch.player).Nodup)
    (hSorted : touches.Pairwise fun a b =>
      Scalar.precedes a.prevDist b.prevDist = true ∧
        (Scalar.precedes b.prevDist a.prevDist = true → a.player < b.player)) :
    (attributeTouches touches).IsOfTouches fun touch => touch ∈ touches := by
  have hContested := Touch.isContested_eq_true_iff hAssigned
  by_cases hBoth : Touch.isContested touches = true
  · have hEq : attributeTouches touches = { candidates := touches } := if_pos hBoth
    rw [hEq]
    refine ⟨fun _ => Iff.rfl, hNodup, hSorted, ?_, ?_, ?_⟩
    · obtain ⟨a, ha, b, hb, hDifferent⟩ := hContested.mp hBoth
      constructor
      · intro hNone
        contradiction
      · rintro ⟨-, hSame⟩
        exact absurd (hSame a ha b hb) hDifferent
    · intro index hNone
      contradiction
    · exact iff_of_true rfl rfl
  · have hEq : attributeTouches touches =
        { kicker := touches.head?.map Touch.player
          kickerSide := touches.head?.map Touch.side
          candidates := touches } := if_neg hBoth
    have hSame : ∀ a ∈ touches, ∀ b ∈ touches, a.side = b.side := by
      intro a ha b hb
      by_contra hDifferent
      exact hBoth (hContested.mpr ⟨a, ha, b, hb, hDifferent⟩)
    rw [hEq]
    refine ⟨fun _ => Iff.rfl, hNodup, hSorted, ?_, ?_, ?_⟩
    · cases touches with
      | nil => simp
      | cons first rest => exact iff_of_true rfl ⟨List.cons_ne_nil first rest, hSame⟩
    · cases touches with
      | nil =>
          intro index hNone
          contradiction
      | cons first rest =>
          rintro index hFirst
          refine ⟨first, rfl, Option.some.inj hFirst, rfl, ?_⟩
          intro touch hTouch
          rcases List.mem_cons.mp hTouch with rfl | hLater
          · exact Scalar.precedes_refl _
          · exact ((List.pairwise_cons.mp hSorted).1 touch hLater).1
    · cases touches with
      | nil => exact iff_of_true rfl rfl
      | cons first rest => simp

end SoccerWorld
