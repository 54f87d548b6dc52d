import SoccerWorld.Codec.Scenario
import SoccerWorld.Proofs.Codec.Config
import SoccerWorld.Proofs.Codec.Observation

/-!
# Scenarios are read as they were written

A scenario whose doubles are finite is written as an object that is read as the same scenario, and
any fields that have a default may be left out of it, in any of its parts.  The kicker of an
expectation has three states that are written in three ways (`Expectation.KeepsKicker`).

Main statement: `Scenario.roundTrips`.
-/

namespace SoccerWorld

namespace NamedPlayer

/-- A named player can be read without what is left out: that is nothing. -/
def MayLack (cut : Cut) : Prop :=
  cut.Spares ["side", "unum"]

theorem decode_without {cut : Cut} (hCut : MayLack cut) (player : NamedPlayer) :
    decode (player.encode.without cut) = some player := by
  have hNames : ["side", "unum"].Nodup := by decide
  have hRecord : Record.read? ["side", "unum"] (player.encode.without cut) =
      some (.ofEncoded player.encode cut) :=
    Record.read?_without player.encode rfl hNames (List.Sublist.refl _) cut
  have hSide := Record.required_ofEncoded player.encode cut "side" rfl (hCut _ (by simp))
    (player.side.decode_without _)
  have hUnum := Record.required_ofEncoded player.encode cut "unum" rfl (hCut _ (by simp))
    (Value.word8?_without _ player.unum)
  rw [decode, bind_of_read hRecord, bind_of_read hSide, bind_of_read hUnum]
  rfl

theorem mayLack_nothing : MayLack .nothing :=
  fun _ _ => rfl

theorem encode_injective {player other : NamedPlayer} (hSame : player.encode = other.encode) :
    player = other := by
  have hPlayer := decode_without mayLack_nothing player
  rw [hSame, decode_without mayLack_nothing other] at hPlayer
  exact (Option.some.inj hPlayer).symm

end NamedPlayer

namespace ExpectedReach

/-- An expected step can be read without what is left out: that is nothing. -/
structure MayLack (cut : Cut) : Prop where
  own : cut.Spares ["player", "step"]
  player : NamedPlayer.MayLack (cut.inField "player")

theorem decode_without {cut : Cut} (hCut : MayLack cut) (expected : ExpectedReach) :
    decode (expected.encode.without cut) = some expected := by
  have hNames : ["player", "step"].Nodup := by decide
  have hRecord : Record.read? ["player", "step"] (expected.encode.without cut) =
      some (.ofEncoded expected.encode cut) :=
    Record.read?_without expected.encode rfl hNames (List.Sublist.refl _) cut
  have hPlayer := Record.required_ofEncoded expected.encode cut "player" rfl
    (hCut.own _ (by simp)) (NamedPlayer.decode_without hCut.player expected.player)
  have hStep := Record.required_ofEncoded expected.encode cut "step" rfl
    (hCut.own _ (by simp)) (Value.word32?_without _ expected.step)
  rw [decode, bind_of_read hRecord, bind_of_read hPlayer, bind_of_read hStep]
  rfl

end ExpectedReach

namespace Expectation

/-- The offside lines that are given are finite. -/
structure IsWritable (expectation : Expectation Float) : Prop where
  ourOffsideLine : ∀ x, expectation.ourOffsideLine = some x → x.isFinite = true
  theirOffsideLine : ∀ x, expectation.theirOffsideLine = some x → x.isFinite = true

/-- The expectation with the fields that are left out at their defaults; a kicker that is left out
is not checked. -/
def without (expectation : Expectation Float) (cut : Cut) : Expectation Float where
  cycle := expectation.cycle
  kicker := cut.kept "kicker" none expectation.kicker
  fastestPlayer := cut.kept "fastest_player" none expectation.fastestPlayer
  fastestTeammate := cut.kept "fastest_teammate" none expectation.fastestTeammate
  fastestOpponent := cut.kept "fastest_opponent" none expectation.fastestOpponent
  reachSteps := cut.kept "reach_steps" [] expectation.reachSteps
  ourOffsideLine := cut.kept "our_offside_line_x" none expectation.ourOffsideLine
  theirOffsideLine := cut.kept "their_offside_line_x" none expectation.theirOffsideLine

/-- An expectation can be read without what is left out. -/
structure MayLack (cut : Cut) : Prop where
  own : cut.Spares ["cycle"]
  player : ∀ name ∈ ["kicker", "fastest_player", "fastest_teammate", "fastest_opponent"],
    NamedPlayer.MayLack (cut.inField name)
  reachSteps : ∀ i, ExpectedReach.MayLack ((cut.inField "reach_steps").inItem i)

/-- The field of the kicker is absent where the kicker is not checked, null where nobody is
expected, and else a player. -/
theorem field?_kicker (expectation : Expectation Float) :
    expectation.encode.field? "kicker" =
      expectation.kicker.map (Value.ofOption NamedPlayer.encode) := by
  rw [encode]
  cases expectation.kicker <;> rfl

/-- Whether the kicker is written makes no difference to the other fields. -/
theorem field?_of_ne_kicker (expectation : Expectation Float) {name : String}
    (hName : name ≠ "kicker") : expectation.encode.field? name =
      { expectation with kicker := none }.encode.field? name := by
  have hOther : (name == "kicker") = false := beq_eq_false_iff_ne.mpr hName
  rw [encode, encode, Value.field?, Value.field?, List.lookup_cons, List.lookup_cons]
  cases expectation.kicker with
  | none => rfl
  | some kicker =>
      show (match name == "cycle" with
        | true => _
        | false => List.lookup name (("kicker", _) :: _)) = _
      rw [List.lookup_cons, hOther]
      rfl

theorem read?_encode (expectation : Expectation Float) (cut : Cut) :
    Record.read? fieldNames (expectation.encode.without cut) =
      some (.ofEncoded expectation.encode cut) := by
  have hNames : fieldNames.Nodup := by decide
  refine Record.read?_without expectation.encode rfl hNames ?_ cut
  cases expectation.kicker with
  | none => exact List.Sublist.cons_cons "cycle" (List.sublist_cons_self "kicker" _)
  | some kicker => exact List.Sublist.refl _

/-- All three states of the kicker are read as they were written. -/
theorem withDefault_kicker (expectation : Expectation Float) {cut : Cut}
    (hCut : NamedPlayer.MayLack (cut.inField "kicker")) :
    (Record.ofEncoded expectation.encode cut).withDefault "kicker" none
      (fun v => (v.optional? NamedPlayer.decode).map some) =
        some (cut.kept "kicker" none expectation.kicker) := by
  have hField := expectation.field?_kicker
  cases hState : expectation.kicker with
  | none =>
      rw [hState] at hField
      rw [Record.withDefault_of_field?_eq_none _ cut _ hField, Cut.kept, ite_self]
  | some kicker =>
      rw [hState] at hField
      refine Record.withDefault_ofEncoded _ cut "kicker" hField ?_ none
      cases kicker with
      | none => rfl
      | some player =>
          have hRead := NamedPlayer.decode_without hCut player
          show ((NamedPlayer.decode (player.encode.without _)).map some).map some = _
          rw [hRead]
          rfl

theorem decode_without {expectation : Expectation Float} (hWritable : expectation.IsWritable)
    {cut : Cut} (hCut : MayLack cut) :
    decode (expectation.encode.without cut) = some (expectation.without cut) := by
  have hRecord := expectation.read?_encode cut
  have hCycle := Record.required_ofEncoded expectation.encode cut "cycle" rfl
    (hCut.own _ (by simp)) (Value.word32?_without _ expectation.cycle)
  have hKicker := expectation.withDefault_kicker (hCut.player "kicker" (by simp))
  have hPlayer : ∀ name ∈ ["kicker", "fastest_player", "fastest_teammate", "fastest_opponent"],
      ∀ player, expectation.encode.field? name = some (.ofOption NamedPlayer.encode player) →
        (Record.ofEncoded expectation.encode cut).optional name NamedPlayer.decode =
          some (cut.kept name none player) :=
    fun name hName player hField => Record.optional_ofEncoded_leaf _ cut name hField
      (fun _ _ => rfl) fun player _ => NamedPlayer.decode_without (hCut.player name hName) player
  have hFastest := hPlayer "fastest_player" (by simp) expectation.fastestPlayer
    (expectation.field?_of_ne_kicker (by decide))
  have hTeammate := hPlayer "fastest_teammate" (by simp) expectation.fastestTeammate
    (expectation.field?_of_ne_kicker (by decide))
  have hOpponent := hPlayer "fastest_opponent" (by simp) expectation.fastestOpponent
    (expectation.field?_of_ne_kicker (by decide))
  have hReachSteps := Record.withDefault_ofEncoded expectation.encode cut "reach_steps"
    (expectation.field?_of_ne_kicker (by decide))
    (Value.list?_without_leaf fun expected _ i =>
      ExpectedReach.decode_without (hCut.reachSteps i) expected)
  have hOurLine := Record.optional_ofEncoded_leaf expectation.encode cut "our_offside_line_x"
    (expectation.field?_of_ne_kicker (by decide))
    (fun x hSome => Value.isNull_ofFloat _ (hWritable.ourOffsideLine x hSome))
    fun x hSome => Value.real?_without _ (hWritable.ourOffsideLine x hSome)
  have hTheirLine := Record.optional_ofEncoded_leaf expectation.encode cut
    "their_offside_line_x" (expectation.field?_of_ne_kicker (by decide))
    (fun x hSome => Value.isNull_ofFloat _ (hWritable.theirOffsideLine x hSome))
    fun x hSome => Value.real?_without _ (hWritable.theirOffsideLine x hSome)
  rw [decode, bind_of_read hRecord, bind_of_read hCycle, bind_of_read hKicker,
    bind_of_read hFastest, bind_of_read hTeammate, bind_of_read hOpponent,
    bind_of_read (hReachSteps _), bind_of_read hOurLine, bind_of_read hTheirLine]
  rfl

theorem without_nothing (expectation : Expectation Float) :
    expectation.without .nothing = expectation := rfl

theorem mayLack_nothing : MayLack .nothing where
  own _ _ := rfl
  player _ _ := NamedPlayer.mayLack_nothing
  reachSteps _ := ⟨fun _ _ => rfl, NamedPlayer.mayLack_nothing⟩

/-- Where a kicker is not checked, nothing is written; where nobody is expected, a null. -/
structure KeepsKicker (expectation : Expectation Float) : Prop where
  unchecked : expectation.kicker = none ↔ expectation.encode.field? "kicker" = none
  nobody : expectation.kicker = some none ↔ expectation.encode.field? "kicker" = some .null
  player : ∀ player, expectation.kicker = some (some player) ↔
    expectation.encode.field? "kicker" = some player.encode
  read : (decode expectation.encode).map Expectation.kicker = some expectation.kicker

theorem keepsKicker {expectation : Expectation Float} (hWritable : expectation.IsWritable) :
    expectation.KeepsKicker := by
  have hRead := decode_without hWritable mayLack_nothing
  rw [Value.without_nothing, without_nothing] at hRead
  refine ⟨?_, ?_, ?_, by rw [hRead, Option.map_some]⟩
  · rw [field?_kicker, Option.map_eq_none_iff]
  · rw [field?_kicker]
    rcases expectation.kicker with _ | _ | player
    · simp
    · simp [Value.ofOption]
    · simp [Value.ofOption, NamedPlayer.encode]
  · intro player
    rw [field?_kicker]
    rcases expectation.kicker with _ | _ | other
    · simp
    · simp [Value.ofOption, NamedPlayer.encode]
    · rw [Option.map_some, Option.some.injEq, Option.some.injEq, Option.some.injEq]
      exact ⟨congrArg NamedPlayer.encode, NamedPlayer.encode_injective⟩

end Expectation

namespace Scenario

/-- The doubles of a scenario are finite, and its integers are machine words. -/
structure IsWritable (scenario : Scenario Float) : Prop where
  config : ∀ config, scenario.config = some config → config.IsWritable
  cycles : ∀ observation ∈ scenario.cycles, observation.IsWritable
  expectations : ∀ expectation ∈ scenario.expectations, expectation.IsWritable

/-- The scenario with the fields that are left out at their defaults. -/
def without (scenario : Scenario Float) (cut : Cut) : Scenario Float where
  id := scenario.id
  description := cut.kept "description" none scenario.description
  ourSide := scenario.ourSide
  selfUnum := cut.kept "self_unum" none scenario.selfUnum
  profile := cut.kept "profile" none scenario.profile
  config := cut.kept "config" none
    (scenario.config.map fun config => config.without (cut.inField "config"))
  cycles := (cut.inField "cycles").items CycleObservation.without scenario.cycles
  expectations := cut.kept "assertions" []
    ((cut.inField "assertions").items Expectation.without scenario.expectations)

/-- A scenario can be read without what is left out: only fields that have a default are. -/
structure MayLack (cut : Cut) : Prop where
  own : cut.Spares ["id", "our_side", "cycles"]
  config : WorldConfig.MayLack (cut.inField "config")
  cycles : ∀ i, CycleObservation.MayLack ((cut.inField "cycles").inItem i)
  expectations : ∀ i, Expectation.MayLack ((cut.inField "assertions").inItem i)

/-- What is written of a scenario is read as the scenario, wherever fields are left out. -/
structure RoundTrips (scenario : Scenario Float) : Prop where
  decode_encode : decode scenario.encode = some scenario
  decode_without : ∀ cut, MayLack cut →
    decode (scenario.encode.without cut) = some (scenario.without cut)
  kicker : ∀ expectation ∈ scenario.expectations, expectation.KeepsKicker

theorem decode_without {scenario : Scenario Float} (hWritable : scenario.IsWritable) {cut : Cut}
    (hCut : MayLack cut) :
    decode (scenario.encode.without cut) = some (scenario.without cut) := by
  have hNames : fieldNames.Nodup := by decide
  have hRecord : Record.read? fieldNames (scenario.encode.without cut) =
      some (.ofEncoded scenario.encode cut) :=
    Record.read?_without scenario.encode rfl hNames (List.Sublist.refl _) cut
  have hIdText : ((Value.text scenario.id).without (cut.inField "id")).text? =
      some scenario.id := rfl
  have hId := Record.required_ofEncoded scenario.encode cut "id" rfl (hCut.own _ (by simp))
    hIdText
  have hText : ∀ name s, scenario.encode.field? name = some (.ofOption .text s) →
      (Record.ofEncoded scenario.encode cut).optional name Value.text? =
        some (cut.kept name none s) :=
    fun name s hField => Record.optional_ofEncoded_leaf _ cut name hField
      (fun _ _ => rfl) fun _ _ => rfl
  have hSide := Record.required_ofEncoded scenario.encode cut "our_side" rfl
    (hCut.own _ (by simp)) (scenario.ourSide.decode_without _)
  have hSelfUnum := Record.optional_ofEncoded_leaf scenario.encode cut "self_unum" rfl
    (fun _ _ => rfl) fun raw _ => Value.word8?_without _ raw
  have hConfig := Record.optional_ofEncoded scenario.encode cut "config" rfl
    (fun _ _ => rfl) fun config hSome =>
      WorldConfig.decode_without (hWritable.config config hSome) hCut.config
  have hCycles := Record.required_ofEncoded scenario.encode cut "cycles" rfl
    (hCut.own _ (by simp)) (Value.list?_without fun observation hMem i =>
      CycleObservation.decode_without (hWritable.cycles observation hMem) (hCut.cycles i))
  have hExpectations := Record.withDefault_ofEncoded scenario.encode cut "assertions" rfl
    (Value.list?_without fun expectation hMem i =>
      Expectation.decode_without (hWritable.expectations expectation hMem)
        (hCut.expectations i))
  rw [decode, bind_of_read hRecord, bind_of_read hId,
    bind_of_read (hText "description" scenario.description rfl), bind_of_read hSide,
    bind_of_read hSelfUnum, bind_of_read (hText "profile" scenario.profile rfl),
    bind_of_read hConfig, bind_of_read hCycles, bind_of_read (hExpectations _)]
  rfl

theorem without_nothing (scenario : Scenario Float) : scenario.without .nothing = scenario := by
  have hConfig : (scenario.config.map fun config => config.without .nothing) =
      scenario.config := by
    simp only [WorldConfig.without_nothing, Option.map_id']
  have hCycles := Cut.items_nothing CycleObservation.without_nothing scenario.cycles
  have hExpectations := Cut.items_nothing Expectation.without_nothing scenario.expectations
  show { scenario with
    config := scenario.config.map fun config => config.without .nothing
    cycles := Cut.nothing.items CycleObservation.without scenario.cycles
    expectations := Cut.nothing.items Expectation.without scenario.expectations } = scenario
  rw [hConfig, hCycles, hExpectations]

theorem mayLack_nothing : MayLack .nothing where
  own _ _ := rfl
  config _ _ := rfl
  cycles _ := CycleObservation.mayLack_nothing
  expectations _ := Expectation.mayLack_nothing

/-- A scenario whose doubles are finite is read as it was written; where fields that have a default
are left out, it is read with exactly these at their defaults. -/
theorem roundTrips {scenario : Scenario Float} (hWritable : scenario.IsWritable) :
    scenario.RoundTrips := by
  refine ⟨?_, fun cut hCut => decode_without hWritable hCut, ?_⟩
  · have hRead := decode_without hWritable mayLack_nothing
    rwa [Value.without_nothing, without_nothing] at hRead
  · intro expectation hExpectation
    exact Expectation.keepsKicker (hWritable.expectations expectation hExpectation)

/-- A goal kick under a configuration of its own, with an expectation for each state of the
kicker. -/
def goalKick : Scenario Float where
  id := "goal kick"
  ourSide := Side.left
  config := some { playerTypes := [{ id := 3 }], flight := { area := FlightArea.training } }
  cycles :=
    [{ cycle := 1
       playMode := .restart .goalKick Side.left
       players :=
         [{ side := Side.right, unum := some 4, typeId := some 3, position := ⟨1.0, -2.0⟩
            body := some (Angle.ofDegrees 200.0) }] }]
  expectations :=
    [{ cycle := 1 }, { cycle := 1, kicker := some none },
      { cycle := 1, kicker := some (some ⟨Side.right, 4⟩), ourOffsideLine := some 0.0 }]

/-- No kicker is checked, and the tuning of touches has its defaults. -/
def withoutKickers : Cut :=
  fun _ name => name = "kicker"

theorem roundTrips_goalKick :
    goalKick.IsWritable ∧ goalKick.RoundTrips ∧ MayLack withoutKickers ∧
      (goalKick.without withoutKickers).expectations.map Expectation.kicker =
        [none, none, none] := by
  have hWritable : goalKick.IsWritable := by
    refine ⟨?_, ?_, ?_⟩
    · rintro config ⟨⟩
      refine ⟨by decide, ?_, by decide, ⟨by decide, by decide, by decide, by decide⟩, by decide⟩
      intro type hType
      obtain rfl := List.mem_singleton.mp hType
      exact ⟨by decide, by decide, by decide⟩
    · intro observation hObservation
      obtain rfl := List.mem_singleton.mp hObservation
      refine ⟨fun _ hNone => by contradiction, ?_⟩
      intro player hPlayer
      obtain rfl := List.mem_singleton.mp hPlayer
      refine ⟨?_, ⟨by decide, by decide⟩, fun _ hNone => by contradiction⟩
      rintro id ⟨⟩
      decide
    · intro expectation hExpectation
      rcases List.mem_cons.mp hExpectation with rfl | hLater
      · exact ⟨fun _ hNone => by contradiction, fun _ hNone => by contradiction⟩
      rcases List.mem_cons.mp hLater with rfl | hLast
      · exact ⟨fun _ hNone => by contradiction, fun _ hNone => by contradiction⟩
      obtain rfl := List.mem_singleton.mp hLast
      refine ⟨?_, fun _ hNone => by contradiction⟩
      rintro x ⟨⟩
      decide
  have hSpares : ∀ names, "kicker" ∉ names → withoutKickers.Spares names := by
    intro names hAbsent name hName
    refine decide_eq_false ?_
    rintro rfl
    exact hAbsent hName
  have hCut : MayLack withoutKickers := by
    refine ⟨hSpares _ (by decide), hSpares _ (by decide), fun _ => ?_, fun _ => ?_⟩
    · exact ⟨hSpares _ (by decide), hSpares _ (by decide), hSpares _ (by decide),
        fun _ => hSpares _ (by decide)⟩
    · exact ⟨hSpares _ (by decide), fun _ _ => hSpares _ (by decide),
        fun _ => ⟨hSpares _ (by decide), hSpares _ (by decide)⟩⟩
  exact ⟨hWritable, roundTrips hWritable, hCut, rfl⟩

end Scenario

end SoccerWorld
