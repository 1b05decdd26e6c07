import BenchTracker.Parameters
import BenchTracker.Proofs.Decimal.Magnitude
import BenchTracker.Proofs.Kernel.Spelling
import BenchTracker.Proofs.Roofline.Band

/-!
# Rooflines without a bound

The intensity divides by the bytes that a kernel moves. A size ratio of zero says that it moves
none, so that the intensity and every bound are infinite. A band compares with multiples of the
bound, and zero times an infinite bound is a NaN. So a band from zero on has no lower side where the
bound is finite, and accepts nothing where it is not.
-/

namespace BenchTracker

open Double

namespace Kernel

/-- The operations of a matrix product. -/
def operations (kernel : Kernel) : Float :=
  2.0 * kernel.m.toFloat * kernel.n.toFloat * kernel.k.toFloat

/-- The bytes that a matrix product moves, by which its operations are divided. -/
def bytes (kernel : Kernel) (ratio : Float) : Float :=
  elementBytes * ratio * (kernel.k.toFloat * (kernel.m.toFloat + kernel.n.toFloat))

theorem intensity_eq (kernel : Kernel) (ratio : Float) :
    kernel.intensity ratio = kernel.operations / kernel.bytes ratio := rfl

/-- No dimension is zero. -/
structure Proper (kernel : Kernel) : Prop where
  m : kernel.m ≠ 0
  n : kernel.n ≠ 0
  k : kernel.k ≠ 0

variable {kernel : Kernel} {ratio : Float}

theorem proper_of_read? {s : String} (h : read? s = some kernel) : kernel.Proper := by
  obtain ⟨-, hm, hn, hk⟩ := read?_eq_some.1 h
  grind [Proper]

theorem within_operations (h : kernel.Proper) : Within 1 200 kernel.operations := by
  have htwo : Within 1 2 2.0 := .finite rfl (by decide) (by decide)
  have hm := within_mul htwo (within_toFloat h.m) (by decide) (by decide) (by decide)
  have hn := within_mul hm (within_toFloat h.n) (by decide) (by decide) (by decide)
  exact within_mul hn (within_toFloat h.k) (by decide) (by decide) (by decide)

theorem within_elements (h : kernel.Proper) :
    Within 0 133 (kernel.k.toFloat * (kernel.m.toFloat + kernel.n.toFloat)) := by
  have hsum := within_add (within_toFloat h.m) (within_toFloat h.n) (by decide)
  exact within_mul (within_toFloat h.k) hsum (by decide) (by decide) (by decide)

theorem zero_lt_bytes (h : kernel.Proper) (hratio : 0.0 < ratio) : 0.0 < kernel.bytes ratio := by
  have hfour : Within 2 3 elementBytes := .finite rfl (by decide) (by decide)
  have hsize := within_mul hfour (within_of_zero_lt hratio) (by decide) (by decide) (by decide)
  exact (within_mul hsize (within_elements h) (by decide) (by decide) (by decide)).zero_lt

theorem bytes_zero (h : kernel.Proper) : kernel.bytes 0.0 = 0.0 := by
  have helements := within_elements h
  have hnone : elementBytes * 0.0 = 0.0 := rfl
  rw [bytes, hnone, zero_mul_of_isFinite helements.zero_lt (helements.isFinite (by decide))]

theorem intensity_zero (h : kernel.Proper) : kernel.intensity 0.0 = infinity := by
  have hoperations := within_operations h
  rw [intensity_eq, bytes_zero h,
    div_zero_of_isFinite hoperations.zero_lt (hoperations.isFinite (by decide))]

end Kernel

/-- A bound that is not finite leaves no throughput in the band: zero times the bound is a NaN. -/
theorem Band.accepts_iff_of_least_eq {band : Band} {bound : Float} {x : Sample}
    (hleast : band.least = 0.0) (hkernels : 0 < x.total) (hfocus : 0.0 < x.focus) :
    band.accepts bound x = true ↔
      isFinite bound = true ∧ x.focus * 100.0 ≤ bound * band.most := by
  have hhundred : Within 6 7 100.0 := .finite rfl (by decide) (by decide)
  have hpercent : 0.0 < x.focus * 100.0 :=
    (within_mul (within_of_zero_lt hfocus) hhundred (by decide) (by decide) (by decide)).zero_lt
  have hlower : bound * 0.0 ≤ x.focus * 100.0 ↔ isFinite bound = true := by
    constructor
    · intro hle
      by_contra hinfinite
      rw [Bool.not_eq_true] at hinfinite
      exact not_le_of_isNaN (.inl (isNaN_mul_zero hinfinite)) hle
    · exact fun hfinite => mul_zero_le hfinite hpercent
  rw [accepts, hleast, Bool.and_eq_true, Bool.and_eq_true, decide_eq_true_eq, decide_eq_true_eq,
    decide_eq_true_eq, hlower]
  exact ⟨fun h => ⟨h.1.2, h.2⟩, fun h => ⟨⟨hkernels, h.1⟩, h.2⟩⟩

namespace Parameters

variable {raw : RawParameters} {p : Parameters}

theorem ofRaw?_eq_some (h : ofRaw? raw = some p) :
    Kernel.read? raw.focus = some p.focus ∧ p.ratio = clampRatio raw.ratio := by
  obtain ⟨focus, hfocus, rfl⟩ := Option.map_eq_some_iff.1 h
  exact ⟨hfocus, rfl⟩

/-- Whether the intensity of accepted parameters divides by zero is up to the size ratio alone,
which may be zero. With such a ratio the bound of every device with a bandwidth is infinite. A band
from zero on accepts a sample with kernels and a positive focus throughput just if the bound is
finite and the throughput is not above the upper side. -/
theorem accepts_from_zero_iff (h : ofRaw? raw = some p) :
    (0.0 < raw.ratio → 0.0 < p.focus.bytes p.ratio) ∧
      (¬ 0.0 < raw.ratio → p.focus.bytes p.ratio = 0.0) ∧
      ∀ peak : Peak, 0.0 < peak.bandwidth →
        (¬ 0.0 < raw.ratio → peak.bound p.intensity = infinity) ∧
        ∀ (band : Band) (x : Sample), band.least = 0.0 → 0 < x.total → 0.0 < x.focus →
          (band.accepts (peak.bound p.intensity) x = true ↔
            isFinite (peak.bound p.intensity) = true ∧
              x.focus * 100.0 ≤ peak.bound p.intensity * band.most) := by
  obtain ⟨hfocus, hratio⟩ := ofRaw?_eq_some h
  have hproper := Kernel.proper_of_read? hfocus
  refine ⟨fun hpos => ?_, fun hzero => ?_, fun peak hbandwidth => ⟨fun hzero => ?_, ?_⟩⟩
  · rw [hratio, clampRatio, if_pos hpos]
    exact Kernel.zero_lt_bytes hproper hpos
  · rw [hratio, clampRatio, if_neg hzero]
    exact Kernel.bytes_zero hproper
  · rw [Peak.bound, intensity, hratio, clampRatio, if_neg hzero, Kernel.intensity_zero hproper]
    exact infinity_mul hbandwidth
  · intro band x hleast hkernels hpositive
    exact Band.accepts_iff_of_least_eq hleast hkernels hpositive

/-- The parameters that nothing is said about. -/
theorem accepts_from_zero_iff_default :
    let peak : Peak := ⟨1.0, 900.0⟩
    let x : Sample := ⟨⟨100.0, 1⟩, ⟨0.0, 0⟩, ⟨0.0, 0⟩, 100.0, 1⟩
    ofRaw? {} = some {} ∧ 0.0 < ({} : Parameters).focus.bytes 2.0 ∧
      Band.full.accepts (peak.bound ({} : Parameters).intensity) x = true := by
  intro peak x
  have h : ofRaw? {} = some {} := rfl
  obtain ⟨hpositive, -, hpeak⟩ := accepts_from_zero_iff h
  refine ⟨h, hpositive (by decide +kernel), ?_⟩
  exact ((hpeak peak (by decide +kernel)).2 Band.full x rfl (by decide) (by decide +kernel)).2
    (by decide +kernel)

/-- A throughput below the upper side is not accepted with the size ratio zero, nor for a bandwidth
so large that the bound overflows. -/
theorem not_accepts_infinite_bound :
    let x : Sample := ⟨⟨100.0, 1⟩, ⟨0.0, 0⟩, ⟨0.0, 0⟩, 100.0, 1⟩
    let rejects (p : Parameters) (peak : Peak) : Prop :=
      0.0 < peak.bandwidth ∧ isFinite peak.bandwidth = true ∧ p.band.least = 0.0 ∧ 0 < x.total ∧
        0.0 < x.focus ∧ isFinite x.focus = true ∧
        x.focus * 100.0 ≤ peak.bound p.intensity * p.band.most ∧
        p.band.accepts (peak.bound p.intensity) x = false
    (∃ p, ofRaw? { ratio := 0.0 } = some p ∧ p.focus.bytes p.ratio = 0.0 ∧ rejects p ⟨1.0, 900.0⟩) ∧
      ∃ p, ofRaw? {} = some p ∧ 0.0 < p.focus.bytes p.ratio ∧ rejects p ⟨1.0, 1e308⟩ := by
  intro x rejects
  refine ⟨⟨{ ratio := 0.0 }, rfl, rfl, ?_⟩, {}, rfl, ?_⟩
  · decide +kernel
  · decide +kernel

end Parameters

end BenchTracker
