import BenchTracker.Decimal.Double

/-!
# Doubles above zero

A double that is neither a NaN nor at most zero is above zero, as comparisons with a NaN fail
either way. The bits of a double decide which of these it is.
-/

namespace BenchTracker

namespace Double

open Float.Model UnpackedFloat

theorem toNat_unpackExponent (x : Float) :
    (@unpackExponent .binary64 x.toBits.toBitVec).toNat = exponentField x := by
  simp [unpackExponent, exponentField]

theorem toNat_unpackMantissa (x : Float) :
    (@unpackMantissa .binary64 x.toBits.toBitVec).toNat = fractionField x := by
  simp [unpackMantissa, fractionField]

theorem unpackExponent_eq_iff (x : Float) :
    @unpackExponent .binary64 x.toBits.toBitVec = -1#_ ↔ exponentField x = 2047 := by
  rw [← toNat_unpackExponent, ← BitVec.toNat_inj]
  rfl

theorem isNaN_iff (x : Float) : isNaN x = true ↔ x.toModel.unpack = .notANumber := by
  have hexponent := unpackExponent_eq_iff x
  have hmantissa : @unpackMantissa .binary64 x.toBits.toBitVec = 0#_ ↔
      fractionField x = 0 := by
    rw [← toNat_unpackMantissa, ← BitVec.toNat_inj]
    rfl
  change _ ↔ UnpackedFloat.unpack Format.binary64 x.toBits.toBitVec = _
  rw [isNaN, Bool.and_eq_true, beq_iff_eq, bne_iff_ne, ← hexponent, Ne, ← hmantissa]
  delta UnpackedFloat.unpack
  dsimp only
  by_cases hx : @unpackExponent .binary64 x.toBits.toBitVec = -1#_
  · rw [if_pos hx]
    by_cases hzero : @unpackMantissa .binary64 x.toBits.toBitVec = 0#_
    · rw [if_pos hzero]
      exact iff_of_false (fun h => h.2 hzero) (by rintro ⟨⟩)
    · rw [if_neg hzero]
      exact iff_of_true ⟨hx, hzero⟩ rfl
  · rw [if_neg hx]
    refine iff_of_false (fun h => hx h.1) ?_
    by_cases hsubnormal : @unpackExponent .binary64 x.toBits.toBitVec = 0#_
    · rw [if_pos hsubnormal]
      by_cases hzero : @unpackMantissa .binary64 x.toBits.toBitVec = 0#_
      · rw [dif_pos hzero]
        rintro ⟨⟩
      · rw [dif_neg hzero]
        rintro ⟨⟩
    · rw [if_neg hsubnormal]
      rintro ⟨⟩

theorem lt_iff_compare (x y : Float) :
    x < y ↔ x.toModel.unpack.compare y.toModel.unpack = some .lt := by
  change decide (x.toModel < y.toModel) = true ↔ _
  rw [decide_eq_true_eq]
  exact beq_iff_eq

theorem le_iff_compare (x y : Float) :
    x ≤ y ↔ (x.toModel.unpack.compare y.toModel.unpack).any (·.isLE) = true := by
  change decide (x.toModel ≤ y.toModel) = true ↔ _
  rw [decide_eq_true_eq]
  rfl

theorem not_le_of_isNaN {x y : Float} (h : isNaN x = true ∨ isNaN y = true) : ¬ x ≤ y := by
  rw [isNaN_iff, isNaN_iff] at h
  rw [le_iff_compare]
  rcases h with h | h
  · rw [h]
    rintro ⟨⟩
  · rw [h]
    cases x.toModel.unpack <;> rintro ⟨⟩

theorem unpack_zero : (0.0 : Float).toModel.unpack = .zero .positive := rfl

theorem zero_lt_iff (x : Float) : 0.0 < x ↔ ¬ (isNaN x = true ∨ x ≤ 0.0) := by
  rw [lt_iff_compare, le_iff_compare, isNaN_iff, unpack_zero]
  cases x.toModel.unpack with
  | notANumber => exact iff_of_false (by rintro ⟨⟩) fun h => h (.inl rfl)
  | zero sign => exact iff_of_false (by rintro ⟨⟩) fun h => h (.inr rfl)
  | infinity sign =>
    cases sign with
    | positive => exact iff_of_true rfl (by rintro (⟨⟨⟩⟩ | ⟨⟨⟩⟩))
    | negative => exact iff_of_false (by rintro ⟨⟩) fun h => h (.inr rfl)
  | finite sign m e h =>
    cases sign with
    | positive => exact iff_of_true rfl (by rintro (⟨⟨⟩⟩ | ⟨⟨⟩⟩))
    | negative => exact iff_of_false (by rintro ⟨⟩) fun h => h (.inr rfl)

end Double

end BenchTracker
