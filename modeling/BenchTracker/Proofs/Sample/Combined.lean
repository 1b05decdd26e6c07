import BenchTracker.Proofs.Classification
import BenchTracker.Proofs.Decimal.Magnitude

/-!
# The mean over all kernels

The sum over the buckets leaves out those without a positive mean, but it is divided by the number
of all kernels. So where every bucket is left out, the mean over all kernels is zero for a sample
without kernels, and otherwise the exponential of zero.
-/

namespace BenchTracker

variable {x : Sample}

/-! ## Aggregated buckets -/

namespace Classified

variable {xs : List Measurement}

/-- A positive mean is the mean of some values, which are counted. -/
theorem count_ne_zero_of_zero_lt_geomean (size : SizeClass) (hlength : xs.length < UInt32.size)
    (h : 0.0 < (bucket (values size xs)).geomean) : (bucket (values size xs)).count ≠ 0 := by
  intro hcount
  have hvalues := count_bucket_values size hlength
  rw [hcount] at hvalues
  have hnil : values size xs = [] := List.length_eq_zero_iff.1 hvalues.symm
  have hempty : ¬ 0.0 < (bucket []).geomean := by decide +kernel
  rw [hnil] at h
  exact hempty h

end Classified

namespace Sample

/-- A bucket that has kernels has a positive mean. -/
def HasMean (x : Sample) : Prop := ∃ b ∈ x.buckets, b.count ≠ 0 ∧ 0.0 < b.geomean

instance (x : Sample) : Decidable x.HasMean :=
  inferInstanceAs (Decidable (∃ b ∈ x.buckets, b.count ≠ 0 ∧ 0.0 < b.geomean))

/-- For an aggregated sample it is enough to look at the means. -/
theorem hasMean_iff_of_aggregate {focus : Kernel} {build : UInt64} {xs : List Measurement}
    (h : aggregate focus build xs = some x) (hlength : xs.length < UInt32.size) :
    x.HasMean ↔ ∃ b ∈ x.buckets, 0.0 < b.geomean := by
  rw [aggregate_eq] at h
  obtain ⟨value, -, rfl⟩ := Option.map_eq_some_iff.1 h
  constructor
  · rintro ⟨b, hb, -, hmean⟩
    exact ⟨b, hb, hmean⟩
  · rintro ⟨b, hb, hmean⟩
    refine ⟨b, hb, ?_, hmean⟩
    simp only [buckets, List.mem_cons, List.not_mem_nil, or_false] at hb
    rcases hb with rfl | rfl | rfl <;>
      exact Classified.count_ne_zero_of_zero_lt_geomean _ hlength hmean

/-! ## The mean over all kernels -/

theorem counts_iff {b : Bucket} : b.counts = true ↔ b.count ≠ 0 ∧ 0.0 < b.geomean := by
  rw [Bucket.counts, Bool.and_eq_true, decide_eq_true_eq, decide_eq_true_eq,
    UInt32.pos_iff_ne_zero]

theorem total_lt (x : Sample) : x.total < UInt64.size := by
  have hsmall := x.small.count.toNat_lt
  have hmedium := x.medium.count.toNat_lt
  have hlarge := x.large.count.toNat_lt
  simp only [total, buckets, List.map_cons, List.map_nil, List.foldr_cons, List.foldr_nil,
    UInt64.size]
  omega

theorem combined_eq_zero (h : ∀ b ∈ x.buckets, b.count = 0) : x.combined = 0.0 :=
  if_pos (total_eq_zero_iff.2 h)

/-- The quotient of an empty sum and a number of kernels is zero, and its exponential is one. -/
theorem combined_eq_one (h : ¬ x.HasMean) (hcount : ∃ b ∈ x.buckets, b.count ≠ 0) :
    x.combined = 1.0 := by
  have htotal : x.total ≠ 0 := by
    rw [Ne, total_eq_zero_iff]
    push Not
    exact hcount
  have hnone : x.buckets.filter Bucket.counts = [] := by
    rw [List.filter_eq_nil_iff]
    exact fun b hb hcounts => h ⟨b, hb, counts_iff.1 hcounts⟩
  have hempty : sum ([].map fun b : Bucket =>
      Double.ln b.geomean * Double.ofNat b.count.toNat) = 0.0 := rfl
  have hword : UInt64.ofNat x.total ≠ 0 := by
    rw [Ne, ← UInt64.toNat_inj, UInt64.toNat_ofNat_of_lt' x.total_lt]
    exact htotal
  have hwithin := Double.within_toFloat hword
  have hquotient : 0.0 / Double.ofNat x.total = 0.0 :=
    Double.zero_div_of_isFinite hwithin.zero_lt (hwithin.isFinite (by decide))
  rw [combined, if_neg htotal, hnone, hempty, hquotient]
  rfl

/-- The mean over all kernels is positive only with a positive mean of some kernels, and zero
otherwise, just if there is such a mean or no kernel at all. With kernels whose means are all zero
it is one. An aggregated sample has kernels, so that it is one if all means are rounded to zero. -/
theorem combined_convention_iff (x : Sample) :
    ((0.0 < x.combined → x.HasMean) ∧ (¬ x.HasMean → x.combined = 0.0) ↔
        x.HasMean ∨ ∀ b ∈ x.buckets, b.count = 0) ∧
      (¬ x.HasMean → (∃ b ∈ x.buckets, b.count ≠ 0) → x.combined = 1.0) ∧
      ∀ focus build xs, aggregate focus build xs = some x → xs.length < UInt32.size →
        (¬ ∃ b ∈ x.buckets, 0.0 < b.geomean) → x.combined = 1.0 := by
  refine ⟨⟨fun h => ?_, ?_⟩, combined_eq_one, ?_⟩
  · by_contra hneither
    push Not at hneither
    have hone := combined_eq_one hneither.1 hneither.2
    refine hneither.1 (h.1 ?_)
    rw [hone]
    decide
  · rintro (hmean | hcounts)
    · exact ⟨fun _ => hmean, fun hnone => absurd hmean hnone⟩
    · have hzero := combined_eq_zero hcounts
      refine ⟨fun hpositive => ?_, fun _ => hzero⟩
      have hirrefl : ¬ (0.0 : Float) < 0.0 := by decide
      rw [hzero] at hpositive
      exact absurd hpositive hirrefl
  · intro focus build xs hsample hlength hmeans
    rw [← hasMean_iff_of_aggregate hsample hlength] at hmeans
    exact combined_eq_one hmeans (exists_count_of_aggregate hsample hlength)

/-- One kernel whose throughput is rounded to zero. -/
theorem combined_rounded_to_zero :
    let x : Sample := ⟨⟨0.0, 0⟩, ⟨0.0, 1⟩, ⟨0.0, 0⟩, 0.04, 1⟩
    ¬ x.HasMean ∧ 0.0 < x.combined ∧ x.combined = 1.0 := by
  intro x
  have hnone : ¬ x.HasMean := by decide
  have hone : x.combined = 1.0 := combined_eq_one hnone (by decide)
  refine ⟨hnone, ?_, hone⟩
  rw [hone]
  decide

end Sample

end BenchTracker
