import BenchTracker.Kernel
import Mathlib.Algebra.BigOperators.Group.List.Basic

/-!
# Volumes of kernels

A first product that saturates loses what it exceeds the limit by, but this makes no difference to
the volume: it is the product of all three dimensions, cut off at the limit. So the order of the
dimensions does not matter, and a greater dimension makes no kernel smaller. The limits of the size
classes are far below, so the class of a kernel is the one of its exact product.
-/

namespace BenchTracker

namespace Kernel

/-- The exact product of the dimensions. -/
def product (kernel : Kernel) : Nat := kernel.m.toNat * kernel.n.toNat * kernel.k.toNat

theorem saturatingMul_saturatingMul (a b c : Nat) :
    saturatingMul (saturatingMul a b) c = min (a * b * c) (Numeral.limit64 - 1) := by
  simp only [saturatingMul]
  rcases Nat.le_total (a * b) (Numeral.limit64 - 1) with hle | hle
  · rw [Nat.min_eq_left hle]
  · rw [Nat.min_eq_right hle]
    -- Only a last factor of zero brings the product below the limit again.
    rcases Nat.eq_zero_or_pos c with rfl | hpos
    · simp
    · have hlimit : Numeral.limit64 - 1 ≤ (Numeral.limit64 - 1) * c :=
        Nat.le_mul_of_pos_right _ hpos
      have hproduct : (Numeral.limit64 - 1) * c ≤ a * b * c := Nat.mul_le_mul_right c hle
      rw [Nat.min_eq_right hlimit, Nat.min_eq_right (Nat.le_trans hlimit hproduct)]

theorem volume_eq (kernel : Kernel) :
    kernel.volume = min kernel.product (Numeral.limit64 - 1) :=
  saturatingMul_saturatingMul ..

theorem sizeClass_eq (kernel : Kernel) : kernel.sizeClass = .ofVolume kernel.product := by
  have hlimit : SizeClass.mediumLimit < Numeral.limit64 - 1 := by decide
  have horder : SizeClass.smallLimit < SizeClass.mediumLimit := by decide
  have hsmall : kernel.volume ≤ SizeClass.smallLimit ↔ kernel.product ≤ SizeClass.smallLimit := by
    rw [volume_eq]
    omega
  have hmedium :
      kernel.volume ≤ SizeClass.mediumLimit ↔ kernel.product ≤ SizeClass.mediumLimit := by
    rw [volume_eq]
    omega
  simp only [sizeClass, SizeClass.ofVolume, hsmall, hmedium]

end Kernel

namespace SizeClass

variable {volume : Nat}

theorem ofVolume_eq_small : ofVolume volume = small ↔ volume ≤ 13 * 13 * 13 := by
  grind [ofVolume, smallLimit, mediumLimit]

theorem ofVolume_eq_medium :
    ofVolume volume = medium ↔ 13 * 13 * 13 < volume ∧ volume ≤ 23 * 23 * 23 := by
  grind [ofVolume, smallLimit, mediumLimit]

theorem ofVolume_eq_large : ofVolume volume = large ↔ 23 * 23 * 23 < volume := by
  grind [ofVolume, smallLimit, mediumLimit]

/-- The place of a class among those of greater kernels. -/
def rank : SizeClass → Nat
  | small => 0
  | medium => 1
  | large => 2

theorem rank_ofVolume_mono {volume' : Nat} (h : volume ≤ volume') :
    (ofVolume volume).rank ≤ (ofVolume volume').rank := by
  grind [ofVolume, rank, smallLimit, mediumLimit]

end SizeClass

namespace Kernel

variable {kernel kernel' : Kernel}

/-! ## Kernels with other dimensions -/

def dimensions (kernel : Kernel) : List Nat :=
  [kernel.m.toNat, kernel.n.toNat, kernel.k.toNat]

/-- No dimension is greater than the one of the other kernel. -/
structure AtMost (kernel kernel' : Kernel) : Prop where
  m : kernel.m ≤ kernel'.m
  n : kernel.n ≤ kernel'.n
  k : kernel.k ≤ kernel'.k

theorem product_of_perm (h : kernel.dimensions.Perm kernel'.dimensions) :
    kernel.product = kernel'.product := by
  have hprod (kernel : Kernel) : kernel.product = kernel.dimensions.prod := by
    simp [product, dimensions, mul_assoc]
  rw [hprod, hprod, h.prod_eq]

theorem AtMost.product_le (h : kernel.AtMost kernel') : kernel.product ≤ kernel'.product := by
  have hmn : kernel.m.toNat * kernel.n.toNat ≤ kernel'.m.toNat * kernel'.n.toNat :=
    Nat.mul_le_mul (UInt64.le_iff_toNat_le.1 h.m) (UInt64.le_iff_toNat_le.1 h.n)
  exact Nat.mul_le_mul hmn (UInt64.le_iff_toNat_le.1 h.k)

theorem AtMost.volume_le (h : kernel.AtMost kernel') : kernel.volume ≤ kernel'.volume := by
  have hproduct := h.product_le
  rw [volume_eq, volume_eq]
  omega

/-- The volume is the exact product up to the limit, whichever product is formed first. It and the
size class depend on the dimensions in any order and grow with each of them, and the class is the
one of the exact product. -/
theorem volume_exact (kernel : Kernel) :
    kernel.volume = min (2 ^ 64 - 1) (kernel.m.toNat * kernel.n.toNat * kernel.k.toNat) ∧
      kernel.sizeClass = .ofVolume (kernel.m.toNat * kernel.n.toNat * kernel.k.toNat) ∧
      (∀ kernel' : Kernel, kernel.dimensions.Perm kernel'.dimensions →
        kernel.volume = kernel'.volume ∧ kernel.sizeClass = kernel'.sizeClass) ∧
      ∀ kernel' : Kernel, kernel.AtMost kernel' →
        kernel.volume ≤ kernel'.volume ∧ kernel.sizeClass.rank ≤ kernel'.sizeClass.rank := by
  refine ⟨?_, sizeClass_eq kernel, fun kernel' hperm => ?_, fun kernel' hatMost => ?_⟩
  · rw [volume_eq, Nat.min_comm]
    rfl
  · have hproduct := product_of_perm hperm
    exact ⟨by rw [volume_eq, volume_eq, hproduct], by rw [sizeClass_eq, sizeClass_eq, hproduct]⟩
  · exact ⟨hatMost.volume_le, SizeClass.rank_ofVolume_mono hatMost.volume_le⟩

/-- The product of the first two dimensions is beyond 64 bits, and the last one brings the volume
back to zero or leaves it at the limit. -/
theorem volume_exact_saturated :
    let empty : Kernel := ⟨0x8000000000000000, 0x8000000000000000, 0⟩
    let turned : Kernel := ⟨0, 0x8000000000000000, 0x8000000000000000⟩
    let full : Kernel := ⟨0x8000000000000000, 0x8000000000000000, 1⟩
    (empty.dimensions.Perm turned.dimensions ∧ empty.AtMost full) ∧
      empty.volume = 0 ∧ turned.volume = 0 ∧ full.volume = 2 ^ 64 - 1 ∧
      empty.sizeClass = turned.sizeClass ∧ empty.sizeClass.rank ≤ full.sizeClass.rank := by
  intro empty turned full
  have hperm : empty.dimensions.Perm turned.dimensions := by decide
  have hatMost : empty.AtMost full := ⟨by decide, by decide, by decide⟩
  obtain ⟨hempty, -, hsame, hgrows⟩ := volume_exact empty
  have hvolume : empty.volume = 0 := hempty
  refine ⟨⟨hperm, hatMost⟩, hvolume, (hsame turned hperm).1 ▸ hvolume, by decide,
    (hsame turned hperm).2, (hgrows full hatMost).2⟩

end Kernel

end BenchTracker
