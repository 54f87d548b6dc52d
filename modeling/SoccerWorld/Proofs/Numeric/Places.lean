import Mathlib
import SoccerWorld.Proofs.Numeric.Doubles

/-!
# Comparisons of doubles and the order of encodings

Doubles are sorted by the order of their encodings, and compared as numbers.  A finite double has a
place among the finite doubles (`place`), which is its encoding without the sign, counted downward
from zero for negative ones.  Comparisons see places only (`lt_iff_place_lt`, `le_iff_place_le`),
and so does the order of encodings, but for the two zeros (`place_le_place`).  A change of sign
turns places round (`place_neg`) and the order of encodings too (`rank_neg`).
-/

namespace SoccerWorld
namespace Binary64

open Float.Model UnpackedFloat

/-! ## Sizes of unpacked numbers -/

/-- A mantissa and an exponent, with the encoding of the number that they make. -/
structure IsScaled (mantissa : Nat) (exponent : Int) (size : Nat) : Prop where
  mantissa_lt : mantissa < 2 * fieldPlace
  le_exponent : -1074 ≤ exponent
  /-- Only at the finest exponent the mantissa may be small. -/
  normal : fieldPlace ≤ mantissa ∨ exponent = -1074
  size_eq : (size : Int) = (exponent + 1074) * fieldPlace + mantissa

/-- A finite number, with its encoding counted in the direction of its sign. -/
inductive HasSize : UnpackedFloat → Int → Prop
  | zero (sign : Sign) : HasSize (.zero sign) 0
  | finite (sign : Sign) {mantissa : Nat} {exponent : Int} {size : Nat} (hPositive : 0 < mantissa)
      (hScaled : IsScaled mantissa exponent size) :
      HasSize (.finite sign mantissa exponent hPositive) (sign.apply size)

theorem IsScaled.size_pos {mantissa size : Nat} {exponent : Int}
    (hScaled : IsScaled mantissa exponent size) (hPositive : 0 < mantissa) : 0 < size := by
  obtain ⟨-, hExponent, -, hSize⟩ := hScaled
  unfold fieldPlace at hSize
  omega

/-- Comparing exponents first and mantissas second comes to comparing encodings. -/
theorem IsScaled.compare_eq {mantissa mantissa' size size' : Nat} {exponent exponent' : Int}
    (hScaled : IsScaled mantissa exponent size) (hScaled' : IsScaled mantissa' exponent' size') :
    (compare exponent exponent').then (compare mantissa mantissa') = compare size size' := by
  obtain ⟨hMantissa, hExponent, hNormal, hSize⟩ := hScaled
  obtain ⟨hMantissa', hExponent', hNormal', hSize'⟩ := hScaled'
  unfold fieldPlace at *
  rcases lt_trichotomy exponent exponent' with hLess | rfl | hGreater
  · rw [compare_lt_iff_lt.mpr hLess, compare_lt_iff_lt.mpr (by omega : size < size')]
    rfl
  · rw [compare_eq_iff_eq.mpr rfl]
    rcases lt_trichotomy mantissa mantissa' with hLess | rfl | hGreater
    · rw [compare_lt_iff_lt.mpr hLess, compare_lt_iff_lt.mpr (by omega : size < size')]
      rfl
    · rw [compare_eq_iff_eq.mpr rfl, compare_eq_iff_eq.mpr (by omega : size = size')]
      rfl
    · rw [compare_gt_iff_gt.mpr hGreater, compare_gt_iff_gt.mpr (by omega : size > size')]
      rfl
  · rw [compare_gt_iff_gt.mpr hGreater, compare_gt_iff_gt.mpr (by omega : size > size')]
    rfl

/-- Comparisons agree where the strict orders do. -/
theorem compare_congr {α β : Type} [LinearOrder α] [LinearOrder β] {a b : α} {c d : β}
    (hLess : a < b ↔ c < d) (hGreater : b < a ↔ d < c) : compare a b = compare c d := by
  rcases lt_trichotomy c d with h | rfl | h
  · rw [compare_lt_iff_lt.mpr h, compare_lt_iff_lt.mpr (hLess.mpr h)]
  · have hSame : a = b :=
      le_antisymm (not_lt.mp (hGreater.not.mpr (lt_irrefl c)))
        (not_lt.mp (hLess.not.mpr (lt_irrefl c)))
    rw [compare_eq_iff_eq.mpr rfl, compare_eq_iff_eq.mpr hSame]
  · rw [compare_gt_iff_gt.mpr h, compare_gt_iff_gt.mpr (hGreater.mpr h)]

/-- Two finite numbers compare as their signed encodings do. -/
theorem HasSize.compare_eq {value other : UnpackedFloat} {n k : Int} (hSize : HasSize value n)
    (hSize' : HasSize other k) : value.compare other = some (compare n k) := by
  cases hSize with
  | zero sign =>
      cases hSize' with
      | zero sign' => rfl
      | finite sign' hPositive' hScaled' =>
          have hBelow := hScaled'.size_pos hPositive'
          cases sign' with
          | negative => exact congrArg some (compare_gt_iff_gt.mpr (by simpa [Sign.apply])).symm
          | positive => exact congrArg some (compare_lt_iff_lt.mpr (by simpa [Sign.apply])).symm
  | finite sign hPositive hScaled =>
      have hBelow := hScaled.size_pos hPositive
      cases hSize' with
      | zero sign' =>
          cases sign with
          | negative => exact congrArg some (compare_lt_iff_lt.mpr (by simpa [Sign.apply])).symm
          | positive => exact congrArg some (compare_gt_iff_gt.mpr (by simpa [Sign.apply])).symm
      | finite sign' hPositive' hScaled' =>
          have hBelow' := hScaled'.size_pos hPositive'
          have hSizes := hScaled.compare_eq hScaled'
          cases sign <;> cases sign'
          · refine congrArg some ?_
            rw [hSizes, Nat.compare_swap]
            exact compare_congr (by simp [Sign.apply]) (by simp [Sign.apply])
          · exact congrArg some (compare_lt_iff_lt.mpr (by simp only [Sign.apply]; omega)).symm
          · exact congrArg some (compare_gt_iff_gt.mpr (by simp only [Sign.apply]; omega)).symm
          · refine congrArg some ?_
            rw [hSizes]
            exact compare_congr (by simp [Sign.apply]) (by simp [Sign.apply])

/-! ## Sizes of encodings -/

/-- The number that the fields of an encoding make without the sign. -/
def fieldSize (exponent : BitVec 11) (mantissa : BitVec 52) : Nat :=
  exponent.toNat * fieldPlace + mantissa.toNat

theorem fieldSize_lt (exponent : BitVec 11) (mantissa : BitVec 52) :
    fieldSize exponent mantissa < signPlace := by
  have hExponent := exponent.isLt
  have hMantissa := mantissa.isLt
  unfold fieldSize fieldPlace signPlace
  omega

theorem hasSize_ofFields (sign : Sign) {exponent : BitVec 11} (mantissa : BitVec 52)
    (hFinite : exponent ≠ -1#11) :
    HasSize (ofFields sign exponent mantissa) (sign.apply (fieldSize exponent mantissa)) := by
  have hMantissa := mantissa.isLt
  unfold ofFields
  rw [if_neg hFinite]
  by_cases hLow : exponent = 0#11
  · subst hLow
    rw [if_pos rfl]
    by_cases hZero : mantissa = 0#52
    · subst hZero
      have hNone : sign.apply (fieldSize 0#11 0#52) = 0 := by
        cases sign <;> simp [fieldSize, Sign.apply]
      rw [dif_pos rfl, hNone]
      exact HasSize.zero sign
    · rw [dif_neg hZero]
      refine HasSize.finite sign _ ⟨?_, le_refl _, Or.inr rfl, by simp [fieldSize]⟩
      unfold fieldPlace
      omega
  · rw [if_neg hLow]
    have hExponent : exponent.toNat ≠ 0 := fun hNone => hLow (BitVec.eq_of_toNat_eq hNone)
    refine HasSize.finite sign _ ⟨?_, by omega, Or.inl (by omega), ?_⟩
    · unfold fieldPlace
      omega
    · unfold fieldSize fieldPlace
      omega

theorem toNat_packComponents (sign : Sign) (exponent : BitVec 11) (mantissa : BitVec 52) :
    (packComponents Format.binary64 sign exponent mantissa).toNat =
      sign.toBitVec.toNat * signPlace + fieldSize exponent mantissa := by
  have hAppend : packComponents Format.binary64 sign exponent mantissa =
      sign.toBitVec ++ exponent ++ mantissa := rfl
  rw [hAppend, BitVec.toNat_append, ← Nat.shiftLeft_add_eq_or_of_lt mantissa.isLt,
    BitVec.toNat_append, ← Nat.shiftLeft_add_eq_or_of_lt exponent.isLt, Nat.shiftLeft_eq,
    Nat.shiftLeft_eq]
  unfold fieldSize fieldPlace signPlace
  omega

/-! ## Places of doubles -/

/-- Place of a double among the finite ones; both zeros have the place zero. -/
def place (x : Float) : Int :=
  if rank x < 0 then rank x + 1 else rank x

/-- Doubles in the order of their encodings are in the order of their places. -/
theorem place_le_place {x y : Float} (hRank : rank x ≤ rank y) : place x ≤ place y := by
  unfold place
  split_ifs <;> omega

section Encoding

variable {x : Float} {sign : Sign} {exponent : BitVec 11} {mantissa : BitVec 52}
  (hBits : x.toBits.toBitVec = packComponents Format.binary64 sign exponent mantissa)

include hBits

/-- Negative encodings are counted downward, and from minus one. -/
theorem rank_of_packComponents :
    rank x = sign.apply (fieldSize exponent mantissa) - sign.toBitVec.toNat := by
  have hSize := fieldSize_lt exponent mantissa
  have hNat : x.toBits.toNat = sign.toBitVec.toNat * signPlace + fieldSize exponent mantissa := by
    rw [← toNat_packComponents, ← hBits]
    rfl
  unfold rank
  rw [hNat]
  cases sign with
  | negative => simp [Sign.toBitVec, Sign.apply, Nat.mod_eq_of_lt hSize]
  | positive => simp [Sign.toBitVec, Sign.apply, hSize.not_ge]

theorem place_of_packComponents : place x = sign.apply (fieldSize exponent mantissa) := by
  have hOne : ((1#1).toNat : Int) = 1 := rfl
  have hZero : ((0#1).toNat : Int) = 0 := rfl
  unfold place
  rw [rank_of_packComponents hBits]
  cases sign <;> simp only [Sign.toBitVec, Sign.apply, hOne, hZero] <;> split_ifs <;> omega

theorem unpack_of_packComponents : x.toModel.unpack = ofFields sign exponent mantissa := by
  rw [← unpack_packComponents, ← hBits]
  rfl

end Encoding

/-- A finite double has fields, and the double of the other sign has the same but for the sign. -/
theorem exists_fields {x : Float} (hFinite : x.isFinite = true) :
    ∃ sign exponent mantissa, exponent ≠ -1#11 ∧
      x.toBits.toBitVec = packComponents Format.binary64 sign exponent mantissa ∧
      (-x).toBits.toBitVec = packComponents Format.binary64 (-sign) exponent mantissa := by
  obtain ⟨sign, exponent, mantissa, hNumber, hPack, hPackNeg⟩ :=
    exists_pack_eq x.toModel.unpack (isNaN_eq_false_of_isFinite hFinite)
  have hBits : x.toBits.toBitVec = packComponents Format.binary64 sign exponent mantissa := by
    rw [← hPack]
    exact (congrArg (fun model => model.toBits.toBitVec) (pack_unpack x.toModel)).symm
  refine ⟨sign, exponent, mantissa, ?_, hBits, hPackNeg⟩
  rintro rfl
  have hUnpack : x.toModel.unpack.isFinite = true := hFinite
  rw [unpack_of_packComponents hBits, hNumber rfl] at hUnpack
  contradiction

theorem hasSize_place {x : Float} (hFinite : x.isFinite = true) :
    HasSize x.toModel.unpack (place x) := by
  obtain ⟨sign, exponent, mantissa, hExponent, hBits, -⟩ := exists_fields hFinite
  rw [unpack_of_packComponents hBits, place_of_packComponents hBits]
  exact hasSize_ofFields sign mantissa hExponent

section Comparisons

variable {x y : Float} (hx : x.isFinite = true) (hy : y.isFinite = true)

include hx hy

theorem lt_iff_place_lt : Scalar.lt x y = true ↔ place x < place y := by
  rw [lt_eq, UnpackedFloat.lt, (hasSize_place hx).compare_eq (hasSize_place hy)]
  simp [compare_lt_iff_lt]

theorem le_iff_place_le : Scalar.le x y = true ↔ place x ≤ place y := by
  rw [le_eq, UnpackedFloat.le, (hasSize_place hx).compare_eq (hasSize_place hy)]
  simp [Int.isLE_compare]

end Comparisons

/-! ## Negated doubles -/

theorem isFinite_neg (x : Float) : (-x).isFinite = x.isFinite := by
  show (-x).toModel.unpack.isFinite = x.toModel.unpack.isFinite
  rw [unpack_neg]
  cases x.toModel.unpack <;> rfl

/-- A change of sign turns the order of encodings round. -/
theorem rank_neg {x : Float} (hFinite : x.isFinite = true) : rank (-x) = -rank x - 1 := by
  obtain ⟨sign, exponent, mantissa, -, hBits, hBitsNeg⟩ := exists_fields hFinite
  rw [rank_of_packComponents hBits, rank_of_packComponents hBitsNeg, apply_neg]
  have hSigns : ((-sign).toBitVec.toNat : Int) = 1 - sign.toBitVec.toNat := by
    cases sign <;> rfl
  omega

theorem place_neg {x : Float} (hFinite : x.isFinite = true) : place (-x) = -place x := by
  unfold place
  rw [rank_neg hFinite]
  split_ifs <;> omega

end Binary64
end SoccerWorld
