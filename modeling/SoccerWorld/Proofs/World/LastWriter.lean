import Mathlib.Data.List.Infix
import SoccerWorld.Proofs.World.Life

/-!
# The last record that supplies a part decides about it

A record supplies some parts of a player and leaves others out.  `PlayerObservation.lastSupplied`
and `PlayerObservation.cyclesSince` look for the latest record of a life that supplies a part.  Main
statement: every part of a tracked player is what that record has, and its age is how long ago that
record was, however many records left the part out since, and however many cycles passed without a
record (`WorldModel.isLastWritten_run`).
-/

namespace SoccerWorld

variable {R : Type} [Scalar R]

namespace PlayerObservation

variable {α : Type} (part : PlayerObservation R → Option α)

/-- What the latest record that supplies a part has for it.  Reports are listed the latest first. -/
def lastSupplied (reports : List (Option (PlayerObservation R))) : Option α :=
  reports.findSome? fun report => report.bind part

/-- Number of cycles since a record last supplied a part.  Where none did, it is one more than the
number of cycles since the first report, which is the number of reports. -/
def cyclesSince (reports : List (Option (PlayerObservation R))) : Nat :=
  match reports.findIdx? fun report => (report.bind part).isSome with
  | some cycles => cycles
  | none => reports.length

theorem lastSupplied_cons (report : Option (PlayerObservation R))
    (reports : List (Option (PlayerObservation R))) :
    lastSupplied part (report :: reports) =
      (report.bind part).or (lastSupplied part reports) := by
  rw [lastSupplied, List.findSome?_cons]
  cases report.bind part <;> rfl

theorem cyclesSince_cons (report : Option (PlayerObservation R))
    (reports : List (Option (PlayerObservation R))) :
    cyclesSince part (report :: reports) =
      if (report.bind part).isSome then 0 else cyclesSince part reports + 1 := by
  unfold cyclesSince
  rw [List.findIdx?_cons]
  by_cases hSupplied : (report.bind part).isSome = true
  · rw [if_pos hSupplied, if_pos hSupplied]
  · rw [if_neg hSupplied, if_neg hSupplied]
    cases reports.findIdx? fun report => (report.bind part).isSome <;> rfl

/-- An age starts anew when its part is supplied and counts cycles otherwise, as far as a word can
count. -/
theorem toNat_age_cons {age : UInt32} {reports : List (Option (PlayerObservation R))}
    (hAge : age.toNat = min (cyclesSince part reports) 4294967295)
    (report : Option (PlayerObservation R)) :
    (if (report.bind part).isSome then 0 else Word.succ age).toNat =
      min (cyclesSince part (report :: reports)) 4294967295 := by
  rw [cyclesSince_cons]
  split
  · rfl
  · have hSucc := Word.toNat_succ age
    omega

end PlayerObservation

namespace Player

open PlayerObservation

/-- The parts of a player are those of the last records that supplied them. -/
structure IsLastWritten (view : Perspective) (reports : List (Option (PlayerObservation R)))
    (player : Player R) : Prop where
  body_eq : player.body =
    ((lastSupplied PlayerObservation.body reports).map view.turnAngle).getD Angle.zero
  face_eq : player.face =
    ((lastSupplied PlayerObservation.face reports).map view.turnAngle).getD Angle.zero
  typeId_eq : player.typeId = lastSupplied PlayerObservation.typeId reports
  card_eq : player.card = (lastSupplied PlayerObservation.card reports).getD Card.none
  /-- Once a goalie, always a goalie. -/
  isGoalie_iff : player.isGoalie = true ↔
    ∃ record, some record ∈ reports ∧ record.isGoalie = true
  velAge_eq : player.ages.vel.toNat =
    min (cyclesSince PlayerObservation.velocity reports) 4294967295
  bodyAge_eq : player.ages.body.toNat =
    min (cyclesSince PlayerObservation.body reports) 4294967295
  faceAge_eq : player.ages.face.toNat =
    min (cyclesSince PlayerObservation.face reports) 4294967295

variable {view : Perspective} {reports : List (Option (PlayerObservation R))} {player : Player R}

theorem isLastWritten_blank (view : Perspective) (side : Side) (unum : Option Unum)
    (position : Vec2 R) : IsLastWritten view [] (blank side unum position) := by
  refine ⟨rfl, rfl, rfl, rfl, ?_, rfl, rfl, rfl⟩
  constructor
  · intro hGoalie
    contradiction
  · rintro ⟨record, hNone, -⟩
    contradiction

namespace IsLastWritten

/-- A record overwrites what it supplies. -/
theorem observe (hWritten : IsLastWritten view reports player) (record : PlayerObservation R) :
    IsLastWritten view (some record :: reports) (player.observe (record.turn view)) := by
  have hAngle : ∀ (part : PlayerObservation R → Option (Angle R)) (old : Angle R),
      old = ((lastSupplied part reports).map view.turnAngle).getD Angle.zero →
        ((part record).map view.turnAngle).getD old =
          ((lastSupplied part (some record :: reports)).map view.turnAngle).getD Angle.zero := by
    intro part old hOld
    rw [lastSupplied_cons, Option.bind_some]
    cases part record with
    | none => exact hOld
    | some angle => rfl
  have hAge : ∀ {α β : Type} (part : PlayerObservation R → Option α) (f : α → β) (age : UInt32),
      age.toNat = min (cyclesSince part reports) 4294967295 →
        (if ((part record).map f).isSome then 0 else Word.succ age).toNat =
          min (cyclesSince part (some record :: reports)) 4294967295 := by
    intro α β part f age hOld
    rw [Option.isSome_map]
    exact toNat_age_cons part hOld (some record)
  refine ⟨hAngle _ _ hWritten.body_eq, hAngle _ _ hWritten.face_eq, ?_, ?_, ?_,
    hAge _ _ _ hWritten.velAge_eq, hAge _ _ _ hWritten.bodyAge_eq, hAge _ _ _ hWritten.faceAge_eq⟩
  · rw [lastSupplied_cons, ← hWritten.typeId_eq]
    rfl
  · rw [lastSupplied_cons, Option.bind_some]
    show record.card.getD player.card = _
    rw [hWritten.card_eq]
    cases record.card <;> rfl
  · show (player.isGoalie || record.isGoalie) = true ↔ _
    rw [Bool.or_eq_true, hWritten.isGoalie_iff]
    constructor
    · rintro (⟨earlier, hEarlier, hGoalie⟩ | hGoalie)
      · exact ⟨earlier, List.mem_cons_of_mem _ hEarlier, hGoalie⟩
      · exact ⟨record, List.mem_cons_self, hGoalie⟩
    · rintro ⟨other, hOther, hGoalie⟩
      rcases List.mem_cons.mp hOther with hNow | hEarlier
      · obtain rfl := Option.some.inj hNow
        exact Or.inr hGoalie
      · exact Or.inl ⟨other, hEarlier, hGoalie⟩

/-- A cycle without a record changes ages only. -/
theorem carry (hWritten : IsLastWritten view reports player) (motion : Locomotion R) :
    IsLastWritten view (none :: reports) (player.carry motion) := by
  refine ⟨?_, ?_, ?_, ?_, ?_, toNat_age_cons _ hWritten.velAge_eq none,
    toNat_age_cons _ hWritten.bodyAge_eq none, toNat_age_cons _ hWritten.faceAge_eq none⟩
  · rw [lastSupplied_cons]
    exact hWritten.body_eq
  · rw [lastSupplied_cons]
    exact hWritten.face_eq
  · rw [lastSupplied_cons]
    exact hWritten.typeId_eq
  · rw [lastSupplied_cons]
    exact hWritten.card_eq
  · show player.isGoalie = true ↔ _
    rw [hWritten.isGoalie_iff]
    simp

end IsLastWritten

theorem Lives.isLastWritten (hLives : player.Lives view reports) :
    player.IsLastWritten view reports := by
  induction hLives with
  | begins unum record => exact (isLastWritten_blank view _ unum _).observe record
  | seen hPast record ih => exact ih.observe record
  | missed hPast motion ih => exact ih.carry motion
  | evaluated hPast step ih => exact { ih with }

end Player

namespace WorldModel

/-- Every player of every run keeps its side and number, and holds what the last records of its life
supplied, with the right ages. -/
theorem isLastWritten_run (ourSide : Side) (hSide : ourSide.isAssigned = true)
    (config : WorldConfig R) (selfUnum : Option Nat) (events : List (WorldEvent R))
    (snapshot : Snapshot R)
    (hCurrent :
      ((start (Observer.create ourSide config selfUnum)).run events).current = some snapshot)
    (identity : Identity) (player : Player R) (hFind : snapshot.find? identity = some player) :
    (player.side = identity.side ∧ player.unum = some identity.unum) ∧
      (∃ before life, events = before ++ life ∧
        IsLife (Observer.create ourSide config selfUnum) identity before life) ∧
      ∀ before life, events = before ++ life →
        IsLife (Observer.create ourSide config selfUnum) identity before life →
          player.IsLastWritten ⟨ourSide⟩ (WorldEvent.reports identity life) := by
  have hKnown := playerAfter_eq_some hCurrent hFind
  refine ⟨?_, exists_isLife hKnown, ?_⟩
  · have hCoherent := (isReachable_of_current_run _ hSide events snapshot hCurrent).isCoherent
    exact Player.identity?_eq_some_iff.mp (hCoherent.identity_of_find? hFind)
  · rintro before life rfl hLife
    exact (hLife.lives hSide hKnown).isLastWritten

/-- Our goalie is seen with a card and a direction, then without them, and then not at all. -/
def eventsWithGoalie : List (WorldEvent Float) :=
  let goalie : PlayerObservation Float :=
    { side := Side.left, unum := some 1, position := Vec2.zero }
  [.update
      { cycle := 1
        players :=
          [{ goalie with isGoalie := true, body := some Angle.zero, card := some Card.yellow }] }
      .ahead,
    .update { cycle := 2, players := [{ goalie with typeId := some 3 }] } .passed,
    .update { cycle := 3 } .ahead]

theorem isLastWritten_run_eventsWithGoalie :
    Side.left.isAssigned = true ∧
      ∃ (snapshot : Snapshot Float) (player : Player Float),
        ((start (Observer.create Side.left WorldConfig.standard none)).run
          eventsWithGoalie).current = some snapshot ∧
        snapshot.find? ⟨Side.left, 1, by decide, by decide⟩ = some player ∧
        IsLife (Observer.create Side.left WorldConfig.standard none)
          ⟨Side.left, 1, by decide, by decide⟩ [] eventsWithGoalie ∧
        player.IsLastWritten ⟨Side.left⟩
          (WorldEvent.reports ⟨Side.left, 1, by decide, by decide⟩ eventsWithGoalie) := by
  have hLife : IsLife (Observer.create Side.left WorldConfig.standard none)
      ⟨Side.left, 1, by decide, by decide⟩ [] eventsWithGoalie := by
    refine ⟨List.cons_ne_nil _ _, rfl, ?_⟩
    intro first hFirst hNotNil
    rw [← List.mem_inits] at hFirst
    simp only [eventsWithGoalie, List.inits, List.map_cons, List.map_nil, List.mem_cons,
      List.not_mem_nil, or_false] at hFirst
    rcases hFirst with rfl | rfl | rfl | rfl
    · contradiction
    · decide +kernel
    · decide +kernel
    · decide +kernel
  obtain ⟨player, hPlayer⟩ := Option.isSome_iff_exists.mp
    (hLife.known eventsWithGoalie (List.prefix_refl _) hLife.ne_nil)
  obtain ⟨snapshot, hCurrent, hFind⟩ := Option.bind_eq_some_iff.mp hPlayer
  exact ⟨rfl, snapshot, player, hCurrent, hFind, hLife,
    (isLastWritten_run Side.left rfl WorldConfig.standard none eventsWithGoalie snapshot hCurrent _
      player hFind).2.2 [] eventsWithGoalie rfl hLife⟩

end WorldModel

end SoccerWorld
