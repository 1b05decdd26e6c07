import BenchTracker.Proofs.Decimal.Double
import BenchTracker.Proofs.Store.Lookup
import BenchTracker.Roofline

/-!
# What a band leaves

Leaving out the samples outside of a band takes each series apart and makes it anew from the samples
that are kept. The store has the same steps and devices afterwards, and each series is what the band
accepts of it, in the same order.
-/

namespace BenchTracker

variable {band : Band} {bound : Float} {x : Sample}

namespace Band

/-- What a band asks of a sample: it counts some kernels, and its focus throughput in percent lies
between the ends of the band, each of which is in it. -/
structure Holds (band : Band) (bound : Float) (x : Sample) : Prop where
  kernels : x.small.count ≠ 0 ∨ x.medium.count ≠ 0 ∨ x.large.count ≠ 0
  least : bound * band.least ≤ x.focus * 100.0
  most : x.focus * 100.0 ≤ bound * band.most

theorem accepts_iff : band.accepts bound x = true ↔ band.Holds bound x := by
  have hkernels : 0 < x.total ↔ x.small.count ≠ 0 ∨ x.medium.count ≠ 0 ∨ x.large.count ≠ 0 := by
    rw [Nat.pos_iff_ne_zero, Ne, Sample.total_eq_zero_iff]
    simp only [Sample.buckets, List.forall_mem_cons, List.not_mem_nil]
    grind
  simp only [accepts, Bool.and_eq_true, decide_eq_true_eq, hkernels]
  constructor
  · rintro ⟨⟨hkernels, hleast⟩, hmost⟩
    exact ⟨hkernels, hleast, hmost⟩
  · exact fun h => ⟨⟨h.kernels, h.least⟩, h.most⟩

/-- Whatever a NaN is compared with, the sample is rejected. -/
theorem not_holds_of_isNaN (h : Double.isNaN (bound * band.least) = true ∨
    Double.isNaN (x.focus * 100.0) = true ∨ Double.isNaN (bound * band.most) = true) :
    ¬ band.Holds bound x := by
  intro hholds
  rcases h with h | h | h
  · exact Double.not_le_of_isNaN (.inl h) hholds.least
  · exact Double.not_le_of_isNaN (.inl h) hholds.most
  · exact Double.not_le_of_isNaN (.inr h) hholds.most

end Band

/-- A sample of a device with peak rates, for which a band holds. -/
def Plausible (peaks : PeakTable) (intensity : Float) (band : Band) (device : String)
    (x : Sample) : Prop :=
  ∃ peak, peaks.get? device = some peak ∧ band.Holds (peak.bound intensity) x

namespace Store

/-- Whether a sample of a device is kept. -/
def keeps (peaks : PeakTable) (intensity : Float) (band : Band) (device : String) (x : Sample) :
    Bool :=
  (peaks.get? device).any fun peak => band.accepts (peak.bound intensity) x

variable {peaks : PeakTable} {intensity : Float} {device : String}

theorem inBand_eq_filter (s : Store) :
    s.inBand peaks intensity band = s.filter (keeps peaks intensity band) := by
  refine congrArg (filter · s) (funext fun device => funext fun x => ?_)
  rw [keeps]
  cases peaks.get? device <;> rfl

theorem keeps_iff : keeps peaks intensity band device x = true ↔
    Plausible peaks intensity band device x := by
  simp only [keeps, Option.any_eq_true, Band.accepts_iff, Plausible]

/-- What the band leaves of a store has the same steps and devices. Each series is the part of the
former one, in order, that has exactly the plausible samples, and so is empty for a device without
peak rates; where one of the compared numbers is a NaN, a sample is not plausible. What is left
twice is what is left once, and it makes no difference whether the series are put in the order of
their builds before or after that. -/
theorem inBand_restricts (s : Store) (peaks : PeakTable) (intensity : Float) (band : Band) :
    let left := s.inBand peaks intensity band
    (left.stepNames = s.stepNames ∧ ∀ step,
      (left.steps.get? step).map Keyed.keys = (s.steps.get? step).map Keyed.keys) ∧
      (∀ step device series, s.series? step device = some series →
        ∃ rest, left.series? step device = some rest ∧ rest.samples.Sublist series.samples ∧
          (∀ x, x ∈ rest.samples ↔
            x ∈ series.samples ∧ Plausible peaks intensity band device x) ∧
          (peaks.get? device = none → rest.samples = [])) ∧
      (∀ device peak x, peaks.get? device = some peak →
        Double.isNaN (peak.bound intensity * band.least) = true ∨
          Double.isNaN (x.focus * 100.0) = true ∨
          Double.isNaN (peak.bound intensity * band.most) = true →
        ¬ Plausible peaks intensity band device x) ∧
      left.inBand peaks intensity band = left ∧
      s.finalizeAll.inBand peaks intensity band = left.finalizeAll := by
  intro left
  have hleft : left = s.filter (keeps peaks intensity band) := inBand_eq_filter s
  refine ⟨⟨?_, fun step => ?_⟩, ?_, ?_, ?_, ?_⟩
  · rw [hleft]
    exact stepNames_congr fun step => knows_filter _ s step
  · rw [hleft, keys_filter]
  · intro step device series hseries
    refine ⟨series.filter (keeps peaks intensity band device), ?_, ?_, fun x => ?_, fun hnone => ?_⟩
    · rw [hleft, series?_filter, hseries, Option.map_some]
    · rw [Series.samples_filter]
      exact List.filter_sublist
    · rw [Series.samples_filter, List.mem_filter, keeps_iff]
    · rw [Series.samples_filter, List.filter_eq_nil_iff]
      intro x _
      rw [keeps, hnone, Option.any_none]
      exact Bool.false_ne_true
  · rintro device peak x hpeak hnan ⟨peak', hpeak', hholds⟩
    obtain rfl : peak = peak' := Option.some.inj (hpeak.symm.trans hpeak')
    exact Band.not_holds_of_isNaN hnan hholds
  · rw [inBand_eq_filter, hleft, filter_filter]
  · rw [inBand_eq_filter, hleft, filter_finalizeAll]

end Store

end BenchTracker
