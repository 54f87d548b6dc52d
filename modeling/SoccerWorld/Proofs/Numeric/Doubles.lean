import Mathlib
import SoccerWorld.Numeric.Binary64

/-!
# Signs and comparisons of doubles

A double is unpacked, computed with and packed again, and packing rounds nothing that came out of a
double (`pack_unpack`).  A change of sign touches one field of an encoding only, so it commutes with
packing (`unpack_pack_neg`), and rounding is the same on both sides of zero (`normalize_neg`).

Main statements:

* `neg_neg`: a double negated twice is the double;
* `neg_add`: the negated sum of doubles is the sum of the negated ones, but for the sign of a zero;
* `le_abs_sub_iff`: finite doubles differ by at most a bound exactly if they do not differ by more.
-/

namespace SoccerWorld
namespace Binary64

open Float.Model UnpackedFloat

/-! ## The fields of an encoding -/

/-- The double with these fields in its encoding, unpacked. -/
def ofFields (sign : Sign) (exponent : BitVec 11) (mantissa : BitVec 52) : UnpackedFloat :=
  if exponent = -1#11 then if mantissa = 0#52 then .infinity sign else .notANumber
  else if exponent = 0#11 then
    if hZero : mantissa = 0#52 then .zero sign
    else
      .finite sign mantissa.toNat (-1074) (Nat.pos_of_ne_zero fun hNone =>
        hZero (BitVec.eq_of_toNat_eq hNone))
  else
    .finite sign (fieldPlace + mantissa.toNat) (exponent.toNat - 1075)
      (Nat.add_pos_left (by decide) _)

theorem toNat_implicit (mantissa : BitVec 52) :
    (1#1 ++ mantissa).toNat = fieldPlace + mantissa.toNat := by
  rw [BitVec.toNat_append, ← Nat.shiftLeft_add_eq_or_of_lt mantissa.isLt]
  rfl

theorem unpack_packComponents (sign : Sign) (exponent : BitVec 11) (mantissa : BitVec 52) :
    UnpackedFloat.unpack Format.binary64 (packComponents Format.binary64 sign exponent mantissa) =
      ofFields sign exponent mantissa := by
  unfold ofFields UnpackedFloat.unpack
  simp only [unpackMantissa_packComponents, unpackExponent_packComponents,
    unpackSign_packComponents, Sign.ofBitVec_toBitVec, toNat_implicit]
  split
  · rfl
  · split
    · next hLow =>
        rw [hLow]
        rfl
    · rfl

/-- A change of sign touches the sign field only. -/
theorem neg_ofFields (sign : Sign) (exponent : BitVec 11) (mantissa : BitVec 52) :
    (ofFields sign exponent mantissa).neg = ofFields (-sign) exponent mantissa := by
  unfold ofFields
  split
  · split <;> rfl
  · split
    · split <;> rfl
    · rfl

theorem isNaN_ofFields (sign : Sign) (exponent : BitVec 11) (mantissa : BitVec 52)
    (hNumber : exponent = -1#11 → mantissa = 0#52) :
    (ofFields sign exponent mantissa).isNaN = false := by
  unfold ofFields
  split
  · next hTop =>
      rw [if_pos (hNumber hTop)]
      rfl
  · split
    · split <;> rfl
    · rfl

/-! ## Packing and unpacking -/

theorem unpack_pack (value : UnpackedFloat) :
    (Float.Model.pack value).unpack =
      UnpackedFloat.unpack Format.binary64 (UnpackedFloat.pack Format.binary64 value) := rfl

/-- A double is what its own number is packed to. -/
theorem pack_unpack (value : Float.Model) : Float.Model.pack value.unpack = value := by
  have hBits : UnpackedFloat.pack Format.binary64
      (UnpackedFloat.unpack Format.binary64 value.toBits.toBitVec) = value.toBits.toBitVec :=
    pack_unpack_of_valid value.valid
  obtain ⟨bits, hValid⟩ := value
  have hSame : (Float.Model.pack (Float.Model.mk bits hValid).unpack).toBits = bits :=
    UInt64.toBitVec_inj.mp hBits
  generalize Float.Model.pack (Float.Model.mk bits hValid).unpack = packed at hSame
  subst hSame
  rfl

/-- Every number has fields, and the number of the other sign has the same but for the sign. -/
theorem exists_pack_eq (value : UnpackedFloat) (hNumber : value.isNaN = false) :
    ∃ sign exponent mantissa, (exponent = -1#11 → mantissa = 0#52) ∧
      UnpackedFloat.pack Format.binary64 value =
        packComponents Format.binary64 sign exponent mantissa ∧
      UnpackedFloat.pack Format.binary64 value.neg =
        packComponents Format.binary64 (-sign) exponent mantissa := by
  cases value with
  | notANumber => contradiction
  | infinity sign => exact ⟨sign, -1#11, 0#52, fun _ => rfl, rfl, rfl⟩
  | zero sign => exact ⟨sign, 0#11, 0#52, fun _ => rfl, rfl, rfl⟩
  | finite sign mantissa exponent hPositive =>
      unfold UnpackedFloat.neg UnpackedFloat.pack
      dsimp only
      generalize (exponent + Format.binary64.exponentBias + (52 : Nat)).toNat = biased
      by_cases hLarge : 2048 ≤ biased + 1
      · rw [if_pos hLarge, if_pos hLarge]
        exact ⟨sign, -1#11, 0#52, fun _ => rfl, rfl, rfl⟩
      · rw [if_neg hLarge, if_neg hLarge]
        by_cases hNormal : mantissa.log2 + 1 = Format.binary64.mantissaBits
        · rw [if_pos hNormal, if_pos hNormal]
          refine ⟨sign, BitVec.ofNat 11 biased, BitVec.ofNat 52 mantissa, ?_, rfl, rfl⟩
          intro hTop
          have hBiased := congrArg BitVec.toNat hTop
          rw [BitVec.toNat_ofNat, Nat.mod_eq_of_lt (by omega)] at hBiased
          have hEq : biased = 2047 := hBiased
          omega
        · rw [if_neg hNormal, if_neg hNormal]
          refine ⟨sign, 0#11, BitVec.ofNat 52 mantissa, ?_, rfl, rfl⟩
          intro hTop
          exact absurd hTop (by decide)

theorem isNaN_unpack_pack (value : UnpackedFloat) (hNumber : value.isNaN = false) :
    (Float.Model.pack value).unpack.isNaN = false := by
  obtain ⟨sign, exponent, mantissa, hFields, hPack, -⟩ := exists_pack_eq value hNumber
  rw [unpack_pack, hPack, unpack_packComponents]
  exact isNaN_ofFields sign exponent mantissa hFields

/-- Packing commutes with a change of sign. -/
theorem unpack_pack_neg (value : UnpackedFloat) :
    (Float.Model.pack value.neg).unpack = (Float.Model.pack value).unpack.neg := by
  cases hNumber : value.isNaN with
  | true =>
      cases value with
      | notANumber => rfl
      | _ => contradiction
  | false =>
      obtain ⟨sign, exponent, mantissa, -, hPack, hPackNeg⟩ := exists_pack_eq value hNumber
      rw [unpack_pack, unpack_pack, hPack, hPackNeg, unpack_packComponents, unpack_packComponents,
        neg_ofFields]

/-! ## Negated doubles -/

theorem unpack_neg (x : Float) : (-x).toModel.unpack = x.toModel.unpack.neg := by
  show (Float.Model.pack x.toModel.unpack.neg).unpack = x.toModel.unpack.neg
  rw [unpack_pack_neg, pack_unpack]

theorem neg_ofModel_pack (value : UnpackedFloat) :
    -(Float.ofModel (.pack value)) = .ofModel (.pack value.neg) := by
  show Float.ofModel (.pack (Float.Model.pack value).unpack.neg) = .ofModel (.pack value.neg)
  rw [← unpack_pack_neg, pack_unpack]

theorem neg_neg (x : Float) : - -x = x := by
  have hNeg : ∀ value : UnpackedFloat, value.neg.neg = value := by
    intro value
    cases value with
    | notANumber => rfl
    | infinity sign => cases sign <;> rfl
    | zero sign => cases sign <;> rfl
    | finite sign mantissa exponent hPositive => cases sign <;> rfl
  have hPack : x = .ofModel (.pack x.toModel.unpack) := by rw [pack_unpack]
  rw [hPack, neg_ofModel_pack, neg_ofModel_pack, hNeg]

/-! ## Sums of negated doubles -/

theorem round_neg (sign : Sign) (mantissa : Nat) (exponent : Int) :
    round Format.binary64 (-sign) mantissa exponent =
      (round Format.binary64 sign mantissa exponent).neg := by
  unfold UnpackedFloat.round roundWithAccuracy
  dsimp only
  split <;> rfl

/-- Rounding is the same on both sides of zero. -/
theorem normalize_neg {mantissa : Int} (hZero : mantissa ≠ 0) (exponent : Int) :
    normalize Format.binary64 (-mantissa) exponent .positive =
      (normalize Format.binary64 mantissa exponent .positive).neg := by
  unfold UnpackedFloat.normalize
  rcases Int.lt_or_gt_of_ne hZero with hLess | hGreater
  · have hSide : compare mantissa 0 = .lt := Int.compare_eq_lt.mpr hLess
    have hOther : compare (-mantissa) 0 = .gt := Int.compare_eq_gt.mpr (by omega)
    rw [hSide, hOther]
    exact round_neg .negative _ _
  · have hSide : compare mantissa 0 = .gt := Int.compare_eq_gt.mpr hGreater
    have hOther : compare (-mantissa) 0 = .lt := Int.compare_eq_lt.mpr (by omega)
    rw [hSide, hOther]
    dsimp only
    rw [Int.neg_neg]
    exact round_neg .positive _ _

theorem apply_neg (sign : Sign) (n : Int) : (-sign).apply n = -sign.apply n := by
  cases sign with
  | negative => exact (Int.neg_neg n).symm
  | positive => rfl

/-- The sum of negated numbers is the negated sum, or both sums are the positive zero. -/
theorem add_neg_neg (value other : UnpackedFloat) :
    add Format.binary64 value.neg other.neg = (add Format.binary64 value other).neg ∨
      add Format.binary64 value other = .zero .positive ∧
        add Format.binary64 value.neg other.neg = .zero .positive := by
  cases value with
  | notANumber => exact Or.inl rfl
  | infinity sign =>
      cases other with
      | infinity sign' => cases sign <;> cases sign' <;> exact Or.inl rfl
      | _ => exact Or.inl rfl
  | zero sign =>
      cases other with
      | zero sign' =>
          -- Zeros of different signs add up to the positive one.
          cases sign <;> cases sign'
          · exact Or.inl rfl
          · exact Or.inr ⟨rfl, rfl⟩
          · exact Or.inr ⟨rfl, rfl⟩
          · exact Or.inl rfl
      | _ => exact Or.inl rfl
  | finite sign mantissa exponent hPositive =>
      cases other with
      | finite sign' mantissa' exponent' hPositive' =>
          have hAdd : ∀ sign sign' : Sign,
              add Format.binary64 (.finite sign mantissa exponent hPositive)
                  (.finite sign' mantissa' exponent' hPositive') =
                normalize Format.binary64
                  (sign.apply (decreaseExponent mantissa exponent (min exponent exponent')).1 +
                    sign'.apply
                      (decreaseExponent mantissa' exponent' (min exponent exponent')).1)
                  (min exponent exponent') .positive := fun _ _ => rfl
          unfold UnpackedFloat.neg
          rw [hAdd, hAdd, apply_neg, apply_neg, ← Int.neg_add]
          generalize sign.apply (decreaseExponent mantissa exponent (min exponent exponent')).1 +
            sign'.apply (decreaseExponent mantissa' exponent' (min exponent exponent')).1 = total
          by_cases hTotal : total = 0
          · rw [hTotal]
            exact Or.inr ⟨rfl, rfl⟩
          · exact Or.inl (normalize_neg hTotal _)
      | _ => exact Or.inl rfl

/-- The negated sum of doubles is the sum of the negated ones, but for the sign of a zero. -/
theorem neg_add (x y : Float) :
    -(x + y) = -x + -y ∨ Scalar.same (-(x + y)) (-x + -y) = true := by
  have hAdd : ∀ x y : Float, x + y =
      .ofModel (.pack (add Format.binary64 x.toModel.unpack y.toModel.unpack)) := fun _ _ => rfl
  rw [hAdd, hAdd, neg_ofModel_pack, unpack_neg, unpack_neg]
  rcases add_neg_neg x.toModel.unpack y.toModel.unpack with hSame | ⟨hZero, hZero'⟩
  · rw [hSame]
    exact Or.inl rfl
  · rw [hZero, hZero']
    exact Or.inr (by decide)

/-! ## Comparisons -/

/-- Two numbers compare the other way round when they are exchanged. -/
theorem compare_swap (value other : UnpackedFloat) :
    other.compare value = (value.compare other).map Ordering.swap := by
  cases value with
  | notANumber => cases other <;> rfl
  | infinity sign =>
      cases other with
      | infinity sign' => cases sign <;> cases sign' <;> rfl
      | _ => cases sign <;> rfl
  | zero sign =>
      cases other with
      | notANumber => rfl
      | zero sign' => rfl
      | infinity sign' => cases sign' <;> rfl
      | finite sign' mantissa' exponent' hPositive' => cases sign' <;> rfl
  | finite sign mantissa exponent hPositive =>
      cases other with
      | notANumber => cases sign <;> rfl
      | zero sign' => cases sign <;> rfl
      | infinity sign' => cases sign <;> cases sign' <;> rfl
      | finite sign' mantissa' exponent' hPositive' =>
          have hSwap : (compare exponent' exponent).then (compare mantissa' mantissa) =
              ((compare exponent exponent').then (compare mantissa mantissa')).swap := by
            rw [Ordering.swap_then, Int.compare_swap, Nat.compare_swap]
          cases sign <;> cases sign'
          · exact congrArg (fun ordering => some (Ordering.swap ordering)) hSwap
          · rfl
          · rfl
          · exact congrArg some hSwap

theorem isSome_compare {value other : UnpackedFloat} (hNumber : value.isNaN = false)
    (hNumber' : other.isNaN = false) : ∃ ordering, value.compare other = some ordering := by
  cases value with
  | notANumber => contradiction
  | infinity sign =>
      cases other with
      | notANumber => contradiction
      | infinity sign' => exact ⟨_, rfl⟩
      | _ => cases sign <;> exact ⟨_, rfl⟩
  | zero sign =>
      cases other with
      | notANumber => contradiction
      | zero sign' => exact ⟨_, rfl⟩
      | infinity sign' => cases sign' <;> exact ⟨_, rfl⟩
      | finite sign' mantissa' exponent' hPositive' => cases sign' <;> exact ⟨_, rfl⟩
  | finite sign mantissa exponent hPositive =>
      cases other with
      | notANumber => contradiction
      | zero sign' => cases sign <;> exact ⟨_, rfl⟩
      | infinity sign' => cases sign <;> cases sign' <;> exact ⟨_, rfl⟩
      | finite sign' mantissa' exponent' hPositive' =>
          cases sign <;> cases sign' <;> exact ⟨_, rfl⟩

/-- Numbers are in order exactly if they are not in the opposite strict order. -/
theorem le_iff_not_lt {value other : UnpackedFloat} (hNumber : value.isNaN = false)
    (hNumber' : other.isNaN = false) : value.le other = true ↔ other.lt value = false := by
  obtain ⟨ordering, hOrdering⟩ := isSome_compare hNumber hNumber'
  unfold UnpackedFloat.le UnpackedFloat.lt
  rw [compare_swap value other, hOrdering]
  cases ordering <;> decide

theorem isNaN_eq_false_of_isFinite {value : UnpackedFloat} (hFinite : value.isFinite = true) :
    value.isNaN = false := by
  cases value with
  | notANumber => contradiction
  | _ => rfl

theorem isNaN_normalize (mantissa exponent : Int) :
    (normalize Format.binary64 mantissa exponent .positive).isNaN = false := by
  have hRound : ∀ sign mantissa exponent,
      (round Format.binary64 sign mantissa exponent).isNaN = false := by
    intro sign mantissa exponent
    unfold UnpackedFloat.round roundWithAccuracy
    dsimp only
    split <;> rfl
  unfold UnpackedFloat.normalize
  split
  · exact hRound _ _ _
  · rfl
  · exact hRound _ _ _

/-- Finite numbers have a difference. -/
theorem isNaN_sub {value other : UnpackedFloat} (hFinite : value.isFinite = true)
    (hFinite' : other.isFinite = true) : (sub Format.binary64 value other).isNaN = false := by
  cases value with
  | notANumber => contradiction
  | infinity sign => contradiction
  | zero sign =>
      cases other with
      | notANumber => contradiction
      | infinity sign' => contradiction
      | zero sign' => cases sign <;> cases sign' <;> rfl
      | finite sign' mantissa' exponent' hPositive' => rfl
  | finite sign mantissa exponent hPositive =>
      cases other with
      | notANumber => contradiction
      | infinity sign' => contradiction
      | zero sign' => rfl
      | finite sign' mantissa' exponent' hPositive' => exact isNaN_normalize _ _

theorem isNaN_abs {value : UnpackedFloat} (hNumber : value.isNaN = false) :
    value.abs.isNaN = false := by
  cases value with
  | notANumber => contradiction
  | _ => rfl

theorem le_eq (x y : Float) : Scalar.le x y = x.toModel.unpack.le y.toModel.unpack := by
  rw [Bool.eq_iff_iff]
  show decide (x ≤ y) = true ↔ _
  rw [decide_eq_true_iff]
  exact decide_eq_true_iff

theorem lt_eq (x y : Float) : Scalar.lt x y = x.toModel.unpack.lt y.toModel.unpack := by
  rw [Bool.eq_iff_iff]
  show decide (x < y) = true ↔ _
  rw [decide_eq_true_iff]
  exact decide_eq_true_iff

/-- Finite doubles differ by at most a bound exactly if they do not differ by more. -/
theorem le_abs_sub_iff {x y bound : Float} (hx : x.isFinite = true) (hy : y.isFinite = true)
    (hBound : bound.isFinite = true) :
    Scalar.le (Scalar.abs (x - y)) bound = true ↔
      Scalar.lt bound (Scalar.abs (x - y)) = false := by
  have hDistance : (Float.abs (x - y)).toModel.unpack.isNaN = false :=
    isNaN_unpack_pack _ (isNaN_abs (isNaN_unpack_pack _ (isNaN_sub hx hy)))
  rw [le_eq, lt_eq]
  exact le_iff_not_lt hDistance (isNaN_eq_false_of_isFinite hBound)

end Binary64
end SoccerWorld
