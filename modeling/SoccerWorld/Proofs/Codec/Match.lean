import SoccerWorld.Codec.Match
import SoccerWorld.Proofs.Codec.Primitive

/-!
# Words and play modes are read as they were written

Every word of an enumeration leads back to its member.  A play mode is written as an object that
names its variant, from which nothing may be left out.
-/

namespace SoccerWorld

theorem Side.decode_without (side : Side) (cut : Cut) :
    decode (side.encode.without cut) = some side := by
  cases side <;> rfl

/-- In a tagged record a side is the same word. -/
theorem Side.decodeTagged_encode (side : Side) : decodeTagged side.encode = some side := by
  cases side <;> rfl

theorem Card.decode_without (card : Card) (cut : Cut) :
    decode (card.encode.without cut) = some card := by
  cases card <;> rfl

theorem RestartKind.decode_word (kind : RestartKind) : decode (.text kind.word) = some kind := by
  cases kind <;> rfl

namespace PlayMode

/-- A play mode can be read without what is left out: that is nothing. -/
def MayLack (cut : Cut) : Prop :=
  cut.Spares ["mode", "kind", "side"]

theorem encode_without {cut : Cut} (hCut : MayLack cut) (mode : PlayMode) :
    mode.encode.without cut = mode.encode := by
  have hTag : cut.Spares ["mode"] := Cut.Spares.of_subset hCut (by decide)
  cases mode with
  | restart kind side => exact congrArg Value.object (Value.fieldsWithout_of_spares hCut)
  | playOn => exact congrArg Value.object (Value.fieldsWithout_of_spares hTag)
  | beforeKickOff => exact congrArg Value.object (Value.fieldsWithout_of_spares hTag)
  | timeOver => exact congrArg Value.object (Value.fieldsWithout_of_spares hTag)

theorem decode_without {cut : Cut} (hCut : MayLack cut) (mode : PlayMode) :
    decode (mode.encode.without cut) = some mode := by
  rw [encode_without hCut]
  cases mode with
  | restart kind side =>
      show ((RestartKind.decode (.text kind.word)).bind fun kind =>
        (Side.decodeTagged side.encode).bind fun side => some (restart kind side)) = _
      rw [RestartKind.decode_word, Side.decodeTagged_encode]
      rfl
  | playOn => rfl
  | beforeKickOff => rfl
  | timeOver => rfl

end PlayMode

end SoccerWorld
