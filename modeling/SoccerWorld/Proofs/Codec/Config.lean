import SoccerWorld.Codec.Config
import SoccerWorld.Proofs.Codec.Primitive

/-!
# Configurations are read as they were written

Every field of a configuration may be left out, except those of a flight area, which is a tagged
record.  For each type `without` is the value with the fields that are left out at their defaults,
and `decode_without` says that this is what is read.
-/

namespace SoccerWorld

namespace Rules

/-- The doubles that are written. -/
def reals (rules : Rules Float) : List Float :=
  [rules.pitchHalfLength, rules.pitchHalfWidth, rules.penaltyAreaLength,
    rules.penaltyAreaHalfWidth, rules.ballDecay, rules.ballSpeedMax, rules.maxMoment,
    rules.maxDashPower, rules.tackleDist, rules.tackleWidth]

/-- The rules with the fields that are left out at their defaults. -/
def without (rules : Rules Float) (cut : Cut) : Rules Float :=
  let standard : Rules Float := {}
  { pitchHalfLength :=
      cut.kept "pitch_half_length" standard.pitchHalfLength rules.pitchHalfLength
    pitchHalfWidth := cut.kept "pitch_half_width" standard.pitchHalfWidth rules.pitchHalfWidth
    penaltyAreaLength :=
      cut.kept "penalty_area_length" standard.penaltyAreaLength rules.penaltyAreaLength
    penaltyAreaHalfWidth :=
      cut.kept "penalty_area_half_width" standard.penaltyAreaHalfWidth rules.penaltyAreaHalfWidth
    ballDecay := cut.kept "ball_decay" standard.ballDecay rules.ballDecay
    ballSpeedMax := cut.kept "ball_speed_max" standard.ballSpeedMax rules.ballSpeedMax
    maxMoment := cut.kept "max_moment" standard.maxMoment rules.maxMoment
    maxDashPower := cut.kept "max_dash_power" standard.maxDashPower rules.maxDashPower
    tackleDist := cut.kept "tackle_dist" standard.tackleDist rules.tackleDist
    tackleWidth := cut.kept "tackle_width" standard.tackleWidth rules.tackleWidth
    tackleCycles := cut.kept "tackle_cycles" standard.tackleCycles rules.tackleCycles
    foulCycles := cut.kept "foul_cycles" standard.foulCycles rules.foulCycles }

theorem decode_without {rules : Rules Float} (hFinite : ∀ x ∈ rules.reals, x.isFinite = true)
    (cut : Cut) : decode (rules.encode.without cut) = some (rules.without cut) := by
  have hNames : fieldNames.Nodup := by decide
  have hRecord : Record.read? fieldNames (rules.encode.without cut) =
      some (.ofEncoded rules.encode cut) :=
    Record.read?_without rules.encode rfl hNames (List.Sublist.refl _) cut
  have hReal := Record.withDefault_real_of_mem rules.encode cut hFinite
  have hCount := Record.withDefault_word32 rules.encode cut
  unfold decode
  dsimp only
  rw [bind_of_read hRecord,
    bind_of_read (hReal "pitch_half_length" rules.pitchHalfLength rfl (by simp [reals]) _),
    bind_of_read (hReal "pitch_half_width" rules.pitchHalfWidth rfl (by simp [reals]) _),
    bind_of_read (hReal "penalty_area_length" rules.penaltyAreaLength rfl (by simp [reals]) _),
    bind_of_read
      (hReal "penalty_area_half_width" rules.penaltyAreaHalfWidth rfl (by simp [reals]) _),
    bind_of_read (hReal "ball_decay" rules.ballDecay rfl (by simp [reals]) _),
    bind_of_read (hReal "ball_speed_max" rules.ballSpeedMax rfl (by simp [reals]) _),
    bind_of_read (hReal "max_moment" rules.maxMoment rfl (by simp [reals]) _),
    bind_of_read (hReal "max_dash_power" rules.maxDashPower rfl (by simp [reals]) _),
    bind_of_read (hReal "tackle_dist" rules.tackleDist rfl (by simp [reals]) _),
    bind_of_read (hReal "tackle_width" rules.tackleWidth rfl (by simp [reals]) _),
    bind_of_read (hCount "tackle_cycles" rules.tackleCycles rfl _),
    bind_of_read (hCount "foul_cycles" rules.foulCycles rfl _)]
  rfl

theorem without_nothing (rules : Rules Float) : rules.without .nothing = rules := rfl

end Rules

namespace PlayerType

/-- The doubles that are written. -/
def reals (type : PlayerType Float) : List Float :=
  [type.speedMax, type.decay, type.inertiaMoment, type.dashPowerRate, type.effortMax,
    type.kickableRadius, type.catchableRadius]

/-- The doubles are finite, and the number of the type is a word of 32 bits. -/
structure IsWritable (type : PlayerType Float) : Prop where
  finite : ∀ x ∈ type.reals, x.isFinite = true
  low : -2147483648 ≤ type.id
  high : type.id < 2147483648

/-- The type with the fields that are left out at their defaults. -/
def without (type : PlayerType Float) (cut : Cut) : PlayerType Float :=
  let standard : PlayerType Float := {}
  { id := cut.kept "id" standard.id type.id
    speedMax := cut.kept "speed_max" standard.speedMax type.speedMax
    decay := cut.kept "decay" standard.decay type.decay
    inertiaMoment := cut.kept "inertia_moment" standard.inertiaMoment type.inertiaMoment
    dashPowerRate := cut.kept "dash_power_rate" standard.dashPowerRate type.dashPowerRate
    effortMax := cut.kept "effort_max" standard.effortMax type.effortMax
    kickableRadius := cut.kept "kickable_radius" standard.kickableRadius type.kickableRadius
    catchableRadius := cut.kept "catchable_radius" standard.catchableRadius type.catchableRadius }

theorem decode_without {type : PlayerType Float} (hWritable : type.IsWritable) (cut : Cut) :
    decode (type.encode.without cut) = some (type.without cut) := by
  have hNames : fieldNames.Nodup := by decide
  have hRecord : Record.read? fieldNames (type.encode.without cut) =
      some (.ofEncoded type.encode cut) :=
    Record.read?_without type.encode rfl hNames (List.Sublist.refl _) cut
  have hId := Record.withDefault_ofEncoded type.encode cut "id" rfl
    (Value.int32?_without _ hWritable.low hWritable.high)
  have hReal := Record.withDefault_real_of_mem type.encode cut hWritable.finite
  unfold decode
  dsimp only
  rw [bind_of_read hRecord, bind_of_read (hId _),
    bind_of_read (hReal "speed_max" type.speedMax rfl (by simp [reals]) _),
    bind_of_read (hReal "decay" type.decay rfl (by simp [reals]) _),
    bind_of_read (hReal "inertia_moment" type.inertiaMoment rfl (by simp [reals]) _),
    bind_of_read (hReal "dash_power_rate" type.dashPowerRate rfl (by simp [reals]) _),
    bind_of_read (hReal "effort_max" type.effortMax rfl (by simp [reals]) _),
    bind_of_read (hReal "kickable_radius" type.kickableRadius rfl (by simp [reals]) _),
    bind_of_read (hReal "catchable_radius" type.catchableRadius rfl (by simp [reals]) _)]
  rfl

theorem without_nothing (type : PlayerType Float) : type.without .nothing = type := rfl

end PlayerType

theorem Evaluation.decode_without (evaluation : Evaluation) (cut : Cut) :
    decode ((Value.text evaluation.word).without cut) = some evaluation := by
  cases evaluation <;> rfl

namespace SearchTuning

/-- The doubles that are written. -/
def reals (tuning : SearchTuning Float) : List Float :=
  [tuning.reachMargin, tuning.teammateControlShrink, tuning.minTurnTolerance,
    tuning.backDashDist]

/-- The tuning with the fields that are left out at their defaults. -/
def without (tuning : SearchTuning Float) (cut : Cut) : SearchTuning Float :=
  let standard : SearchTuning Float := {}
  { reachMargin := cut.kept "reach_margin" standard.reachMargin tuning.reachMargin
    teammateControlShrink := cut.kept "teammate_control_shrink" standard.teammateControlShrink
      tuning.teammateControlShrink
    minTurnTolerance :=
      cut.kept "min_turn_tolerance_deg" standard.minTurnTolerance tuning.minTurnTolerance
    backDashDist := cut.kept "back_dash_dist" standard.backDashDist tuning.backDashDist
    maxBonusStep := cut.kept "max_bonus_step" standard.maxBonusStep tuning.maxBonusStep
    fallbackSteps := cut.kept "fallback_steps" standard.fallbackSteps tuning.fallbackSteps
    maxTurnIterations :=
      cut.kept "max_turn_iterations" standard.maxTurnIterations tuning.maxTurnIterations
    evaluation := cut.kept "evaluation" standard.evaluation tuning.evaluation }

theorem decode_without {tuning : SearchTuning Float}
    (hFinite : ∀ x ∈ tuning.reals, x.isFinite = true) (cut : Cut) :
    decode (tuning.encode.without cut) = some (tuning.without cut) := by
  have hNames : fieldNames.Nodup := by decide
  have hRecord : Record.read? fieldNames (tuning.encode.without cut) =
      some (.ofEncoded tuning.encode cut) :=
    Record.read?_without tuning.encode rfl hNames (List.Sublist.refl _) cut
  have hReal := Record.withDefault_real_of_mem tuning.encode cut hFinite
  have hCount := Record.withDefault_word32 tuning.encode cut
  have hEvaluation := Record.withDefault_ofEncoded tuning.encode cut "evaluation" rfl
    (tuning.evaluation.decode_without _)
  unfold decode
  dsimp only
  rw [bind_of_read hRecord,
    bind_of_read (hReal "reach_margin" tuning.reachMargin rfl (by simp [reals]) _),
    bind_of_read
      (hReal "teammate_control_shrink" tuning.teammateControlShrink rfl (by simp [reals]) _),
    bind_of_read (hReal "min_turn_tolerance_deg" tuning.minTurnTolerance rfl (by simp [reals]) _),
    bind_of_read (hReal "back_dash_dist" tuning.backDashDist rfl (by simp [reals]) _),
    bind_of_read (hCount "max_bonus_step" tuning.maxBonusStep rfl _),
    bind_of_read (hCount "fallback_steps" tuning.fallbackSteps rfl _),
    bind_of_read (hCount "max_turn_iterations" tuning.maxTurnIterations rfl _),
    bind_of_read (hEvaluation _)]
  rfl

theorem without_nothing (tuning : SearchTuning Float) : tuning.without .nothing = tuning := rfl

end SearchTuning

namespace FlightArea

/-- The doubles that are written. -/
def reals : FlightArea Float → List Float
  | pitch margin => [margin]
  | keepAway halfLength halfWidth => [halfLength, halfWidth]

/-- A flight area can be read without what is left out: that is nothing. -/
def MayLack (cut : Cut) : Prop :=
  cut.Spares ["kind", "margin", "half_length", "half_width"]

theorem encode_without {cut : Cut} (hCut : MayLack cut) {area : FlightArea Float}
    (hFinite : ∀ x ∈ area.reals, x.isFinite = true) : area.encode.without cut = area.encode := by
  cases area with
  | pitch margin =>
      have hSpares : cut.Spares ["kind", "margin"] := Cut.Spares.of_subset hCut (by decide)
      rw [encode, Value.ofFloat_eq (hFinite margin (by simp [reals]))]
      exact congrArg Value.object (Value.fieldsWithout_of_spares hSpares)
  | keepAway halfLength halfWidth =>
      have hSpares : cut.Spares ["kind", "half_length", "half_width"] :=
        Cut.Spares.of_subset hCut (by decide)
      rw [encode, Value.ofFloat_eq (hFinite halfLength (by simp [reals])),
        Value.ofFloat_eq (hFinite halfWidth (by simp [reals]))]
      exact congrArg Value.object (Value.fieldsWithout_of_spares hSpares)

theorem decode_without {cut : Cut} (hCut : MayLack cut) {area : FlightArea Float}
    (hFinite : ∀ x ∈ area.reals, x.isFinite = true) :
    decode (area.encode.without cut) = some area := by
  rw [encode_without hCut hFinite]
  cases area with
  | pitch margin =>
      rw [encode, Value.ofFloat_eq (hFinite margin (by simp [reals]))]
      rfl
  | keepAway halfLength halfWidth =>
      rw [encode, Value.ofFloat_eq (hFinite halfLength (by simp [reals])),
        Value.ofFloat_eq (hFinite halfWidth (by simp [reals]))]
      rfl

end FlightArea

namespace FlightLimits

/-- The doubles are finite, and the numbers of steps are words of 64 bits. -/
structure IsWritable (flight : FlightLimits Float) : Prop where
  maxSteps : flight.maxSteps < 18446744073709551616
  minSteps : flight.minSteps < 18446744073709551616
  stopSpeed : flight.stopSpeed.isFinite = true
  area : ∀ x ∈ flight.area.reals, x.isFinite = true

/-- The limits with the fields that are left out at their defaults. -/
def without (flight : FlightLimits Float) (cut : Cut) : FlightLimits Float :=
  let standard : FlightLimits Float := {}
  { maxSteps := cut.kept "max_steps" standard.maxSteps flight.maxSteps
    minSteps := cut.kept "min_steps" standard.minSteps flight.minSteps
    stopSpeed := cut.kept "stop_speed" standard.stopSpeed flight.stopSpeed
    area := cut.kept "bounds" standard.area flight.area }

/-- Flight limits can be read without what is left out: nothing of the flight area is. -/
def MayLack (cut : Cut) : Prop :=
  FlightArea.MayLack (cut.inField "bounds")

theorem decode_without {flight : FlightLimits Float} (hWritable : flight.IsWritable) {cut : Cut}
    (hCut : MayLack cut) : decode (flight.encode.without cut) = some (flight.without cut) := by
  have hNames : ["max_steps", "min_steps", "stop_speed", "bounds"].Nodup := by decide
  have hRecord : Record.read? ["max_steps", "min_steps", "stop_speed", "bounds"]
      (flight.encode.without cut) = some (.ofEncoded flight.encode cut) :=
    Record.read?_without flight.encode rfl hNames (List.Sublist.refl _) cut
  have hMaxSteps := Record.withDefault_ofEncoded flight.encode cut "max_steps" rfl
    (Value.size?_without _ hWritable.maxSteps)
  have hMinSteps := Record.withDefault_ofEncoded flight.encode cut "min_steps" rfl
    (Value.size?_without _ hWritable.minSteps)
  have hStopSpeed := Record.withDefault_real flight.encode cut "stop_speed" _ rfl
    hWritable.stopSpeed
  have hArea := Record.withDefault_ofEncoded flight.encode cut "bounds" rfl
    (FlightArea.decode_without hCut hWritable.area)
  unfold decode
  dsimp only
  rw [bind_of_read hRecord, bind_of_read (hMaxSteps _), bind_of_read (hMinSteps _),
    bind_of_read (hStopSpeed _), bind_of_read (hArea _)]
  rfl

theorem without_nothing (flight : FlightLimits Float) : flight.without .nothing = flight := rfl

end FlightLimits

namespace TouchTuning

/-- The tuning with the fields that are left out at their defaults. -/
def without (tuning : TouchTuning Float) (cut : Cut) : TouchTuning Float :=
  let standard : TouchTuning Float := {}
  { tackleEpsilon := cut.kept "tackle_epsilon" standard.tackleEpsilon tuning.tackleEpsilon }

theorem decode_without {tuning : TouchTuning Float}
    (hFinite : tuning.tackleEpsilon.isFinite = true) (cut : Cut) :
    decode (tuning.encode.without cut) = some (tuning.without cut) := by
  have hNames : ["tackle_epsilon"].Nodup := by decide
  have hRecord : Record.read? ["tackle_epsilon"] (tuning.encode.without cut) =
      some (.ofEncoded tuning.encode cut) :=
    Record.read?_without tuning.encode rfl hNames (List.Sublist.refl _) cut
  have hEpsilon := Record.withDefault_real tuning.encode cut "tackle_epsilon" _ rfl hFinite
  unfold decode
  dsimp only
  rw [bind_of_read hRecord, bind_of_read (hEpsilon _)]
  rfl

theorem without_nothing (tuning : TouchTuning Float) : tuning.without .nothing = tuning := rfl

end TouchTuning

namespace WorldConfig

/-- The doubles of a configuration are finite, and its integers are machine words. -/
structure IsWritable (config : WorldConfig Float) : Prop where
  rules : ∀ x ∈ config.rules.reals, x.isFinite = true
  playerTypes : ∀ type ∈ config.playerTypes, type.IsWritable
  search : ∀ x ∈ config.search.reals, x.isFinite = true
  flight : config.flight.IsWritable
  touch : config.touch.tackleEpsilon.isFinite = true

/-- The configuration with the fields that are left out at their defaults. -/
def without (config : WorldConfig Float) (cut : Cut) : WorldConfig Float where
  rules := cut.kept "server" {} (config.rules.without (cut.inField "server"))
  playerTypes := cut.kept "player_types" []
    ((cut.inField "player_types").items PlayerType.without config.playerTypes)
  search := cut.kept "predictor" {} (config.search.without (cut.inField "predictor"))
  flight := cut.kept "trajectory" {} (config.flight.without (cut.inField "trajectory"))
  touch := cut.kept "kicker" {} (config.touch.without (cut.inField "kicker"))
  maxUnseenCycles := cut.kept "max_unseen_cycles" 30 config.maxUnseenCycles

/-- A configuration can be read without what is left out: nothing of the flight area is. -/
def MayLack (cut : Cut) : Prop :=
  FlightLimits.MayLack (cut.inField "trajectory")

theorem decode_without {config : WorldConfig Float} (hWritable : config.IsWritable) {cut : Cut}
    (hCut : MayLack cut) : decode (config.encode.without cut) = some (config.without cut) := by
  have hNames : fieldNames.Nodup := by decide
  have hRecord : Record.read? fieldNames (config.encode.without cut) =
      some (.ofEncoded config.encode cut) :=
    Record.read?_without config.encode rfl hNames (List.Sublist.refl _) cut
  have hRules := Record.withDefault_ofEncoded config.encode cut "server" rfl
    (Rules.decode_without hWritable.rules _)
  have hPlayerTypes := Record.withDefault_ofEncoded config.encode cut "player_types" rfl
    (Value.list?_without fun type hType i =>
      PlayerType.decode_without (hWritable.playerTypes type hType) _)
  have hSearch := Record.withDefault_ofEncoded config.encode cut "predictor" rfl
    (SearchTuning.decode_without hWritable.search _)
  have hFlight := Record.withDefault_ofEncoded config.encode cut "trajectory" rfl
    (FlightLimits.decode_without hWritable.flight hCut)
  have hTouch := Record.withDefault_ofEncoded config.encode cut "kicker" rfl
    (TouchTuning.decode_without hWritable.touch _)
  have hMaxUnseen := Record.withDefault_word32 config.encode cut "max_unseen_cycles" _ rfl
  rw [decode, bind_of_read hRecord, bind_of_read (hRules _), bind_of_read (hPlayerTypes _),
    bind_of_read (hSearch _), bind_of_read (hFlight _), bind_of_read (hTouch _),
    bind_of_read (hMaxUnseen _)]
  rfl

theorem without_nothing (config : WorldConfig Float) : config.without .nothing = config := by
  have hPlayerTypes := Cut.items_nothing PlayerType.without_nothing config.playerTypes
  show { config with playerTypes := Cut.nothing.items PlayerType.without config.playerTypes } =
    config
  rw [hPlayerTypes]

end WorldConfig

end SoccerWorld
