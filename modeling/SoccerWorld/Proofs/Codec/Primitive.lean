import SoccerWorld.Codec.Primitive
import SoccerWorld.Proofs.Document.Cut
import SoccerWorld.Proofs.Numeric.Doubles

/-!
# Numbers, vectors and angles are read as they were written

Words are in range by their type, and doubles are written as numbers if they are finite.  Degrees in
normal form lie between two finite bounds, so that an angle is always written as a number
(`Angle.isFinite_degrees`) and is its own normal form when it is read.

Nothing can be left out of these values, so all statements are about a value after a cut.
-/

namespace SoccerWorld

namespace Value

theorem ofFloat_eq {x : Float} (hFinite : x.isFinite = true) : ofFloat x = real x :=
  if_pos hFinite

variable (cut : Cut)

theorem real?_without {x : Float} (hFinite : x.isFinite = true) :
    ((ofFloat x).without cut).real? = some x := by
  rw [ofFloat_eq hFinite]
  rfl

theorem isNull_ofFloat {x : Float} (hFinite : x.isFinite = true) :
    ((ofFloat x).without cut).isNull = false := by
  rw [ofFloat_eq hFinite]
  rfl

theorem naturalBelow?_without {n bound : Nat} (hBelow : n < bound) :
    ((ofNat n).without cut).naturalBelow? bound = some n := by
  have hNatural : ((ofNat n).without cut).natural? = some n := by
    show (if (0 : Int) ≤ n then some (n : Int).toNat else none) = some n
    rw [if_pos (Int.natCast_nonneg n), Int.toNat_natCast]
  rw [naturalBelow?, hNatural]
  exact Option.filter_some_pos (decide_eq_true hBelow)

theorem word8?_without (n : UInt8) : ((ofWord8 n).without cut).word8? = some n := by
  rw [word8?, ofWord8, naturalBelow?_without cut n.toNat_lt, Option.map_some, UInt8.ofNat_toNat]

theorem word32?_without (n : UInt32) : ((ofWord32 n).without cut).word32? = some n := by
  rw [word32?, ofWord32, naturalBelow?_without cut n.toNat_lt, Option.map_some,
    UInt32.ofNat_toNat]

theorem size?_without {n : Nat} (hSize : n < 18446744073709551616) :
    ((ofNat n).without cut).size? = some n :=
  naturalBelow?_without cut hSize

theorem int32?_without {n : Int} (hLow : -2147483648 ≤ n) (hHigh : n < 2147483648) :
    ((integer n).without cut).int32? = some n := by
  refine Option.filter_some_pos ?_
  rw [Bool.and_eq_true, decide_eq_true_eq, decide_eq_true_eq]
  exact ⟨hLow, hHigh⟩

end Value

namespace Record

/-! ## Fields with a number -/

variable (v : Value) (cut : Cut)

theorem withDefault_real (name : String) (x : Float) (hField : v.field? name = some (.ofFloat x))
    (hFinite : x.isFinite = true) (default : Float) :
    (ofEncoded v cut).withDefault name default Value.real? = some (cut.kept name default x) :=
  withDefault_ofEncoded v cut name hField (Value.real?_without _ hFinite) default

/-- A field with one of the doubles of a record, all of which are finite. -/
theorem withDefault_real_of_mem {reals : List Float} (hFinite : ∀ x ∈ reals, x.isFinite = true)
    (name : String) (x : Float) (hField : v.field? name = some (.ofFloat x)) (hMem : x ∈ reals)
    (default : Float) :
    (ofEncoded v cut).withDefault name default Value.real? = some (cut.kept name default x) :=
  withDefault_real v cut name x hField (hFinite x hMem) default

theorem withDefault_word32 (name : String) (n : UInt32)
    (hField : v.field? name = some (.ofWord32 n)) (default : UInt32) :
    (ofEncoded v cut).withDefault name default Value.word32? = some (cut.kept name default n) :=
  withDefault_ofEncoded v cut name hField (Value.word32?_without _ n) default

end Record

/-! ## Vectors -/

/-- Both coordinates are finite. -/
def Vec2.IsFinite (v : Vec2 Float) : Prop :=
  v.x.isFinite = true ∧ v.y.isFinite = true

theorem Vec2.decode_without {v : Vec2 Float} (hFinite : v.IsFinite) (cut : Cut) :
    decode (v.encode.without cut) = some v := by
  have hX := Value.real?_without (cut.inItem 0) hFinite.1
  have hY := Value.real?_without (cut.inItem 1) hFinite.2
  rw [encode, Value.without, Value.itemsWithout, Value.itemsWithout, Value.itemsWithout, decode,
    Value.items?]
  dsimp only
  rw [bind_of_read hX, bind_of_read hY]
  rfl

/-! ## Angles -/

namespace Angle

/-- Neither infinity, nor what is no number, lies between the bounds of the normal form. -/
theorem isFinite_degrees (a : Angle Float) : a.degrees.isFinite = true := by
  obtain ⟨hLow, hHigh⟩ := Bool.and_eq_true_iff.mp a.isNormal
  rw [Binary64.lt_eq] at hLow
  rw [Binary64.le_eq] at hHigh
  show a.degrees.toModel.unpack.isFinite = true
  cases hUnpack : a.degrees.toModel.unpack with
  | zero sign => rfl
  | finite sign mantissa exponent hPositive => rfl
  | notANumber =>
      rw [hUnpack] at hHigh
      revert hHigh
      decide
  | infinity sign =>
      rw [hUnpack] at hLow hHigh
      cases sign with
      | negative =>
          revert hLow
          decide
      | positive =>
          revert hHigh
          decide

theorem decode_without (a : Angle Float) (cut : Cut) :
    decode (a.encode.without cut) = some a := by
  rw [decode, encode, Value.real?_without cut a.isFinite_degrees, Option.map_some,
    ofDegrees_degrees]

theorem isNull_encode (a : Angle Float) (cut : Cut) : (a.encode.without cut).isNull = false :=
  Value.isNull_ofFloat cut a.isFinite_degrees

end Angle

end SoccerWorld
