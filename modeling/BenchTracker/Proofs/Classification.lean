import BenchTracker.Classification
import BenchTracker.Proofs.Decimal.Double
import BenchTracker.Proofs.Kernel
import Mathlib.Data.List.Induction

/-!
# What classification keeps

The measurements of a job with a positive value each end up in the bucket of their size class, and
no others do. There is a sample exactly if one of them belongs to the focus kernel, and then its
counts add up to their number. What is classified in two parts comes out part by part, and it makes
no difference where values that do not count stand.
-/

namespace BenchTracker

/-- The measurements that count, those with a value above zero. -/
def positive (xs : List Measurement) : List Measurement := xs.filter fun x => 0.0 < x.value

theorem positive_append (xs ys : List Measurement) :
    positive (xs ++ ys) = positive xs ++ positive ys :=
  List.filter_append ..

theorem positive_singleton (x : Measurement) :
    positive [x] = if 0.0 < x.value then [x] else [] := by
  simp [positive, List.filter_cons]

/-- A value does not count if it is not a number or not above zero. -/
theorem positive_append_cons_of_not {x : Measurement}
    (h : Double.isNaN x.value = true ∨ x.value ≤ 0.0) (xs ys : List Measurement) :
    positive (xs ++ x :: ys) = positive (xs ++ ys) := by
  have hskip : ¬ 0.0 < x.value := fun hpos => (Double.zero_lt_iff x.value).1 hpos h
  simp [positive, hskip]

namespace Classified

variable {focus : Kernel} {build : UInt64} {xs : List Measurement} {x : Sample}

/-- The positive values of one size class, in order. -/
def values (size : SizeClass) (xs : List Measurement) : List Float :=
  ((positive xs).filter fun x => x.kernel.sizeClass = size).map (·.value)

/-- The last positive value of the focus kernel. -/
def focusValue? (focus : Kernel) (xs : List Measurement) : Option Float :=
  ((positive xs).filter fun x => x.kernel = focus).getLast?.map (·.value)

theorem values_append (size : SizeClass) (xs ys : List Measurement) :
    values size (xs ++ ys) = values size xs ++ values size ys := by
  simp only [values, positive_append, List.filter_append, List.map_append]

theorem focusValue?_append (focus : Kernel) (xs ys : List Measurement) :
    focusValue? focus (xs ++ ys) = (focusValue? focus ys).or (focusValue? focus xs) := by
  simp only [focusValue?, positive_append, List.filter_append, List.getLast?_append,
    Option.map_or]

theorem values_singleton (size : SizeClass) (x : Measurement) :
    values size [x] = if 0.0 < x.value ∧ x.kernel.sizeClass = size then [x.value] else [] := by
  by_cases hpos : 0.0 < x.value <;> by_cases hsize : x.kernel.sizeClass = size <;>
    simp [values, positive_singleton, hpos, hsize]

theorem focusValue?_singleton (focus : Kernel) (x : Measurement) :
    focusValue? focus [x] = if 0.0 < x.value ∧ x.kernel = focus then some x.value else none := by
  by_cases hpos : 0.0 < x.value <;> by_cases hfocus : x.kernel = focus <;>
    simp [focusValue?, positive_singleton, hpos, hfocus]

/-- A value that counts is put into its size class and, if it belongs to the focus kernel, takes
the place of the earlier ones. -/
theorem add_eq (focus : Kernel) (c : Classified) (x : Measurement) :
    add focus c x =
      ⟨c.small ++ values .small [x], c.medium ++ values .medium [x], c.large ++ values .large [x],
        (focusValue? focus [x]).or c.focus⟩ := by
  have hskip : (Double.isNaN x.value || decide (x.value ≤ 0.0)) = true ↔ ¬ 0.0 < x.value := by
    rw [Double.zero_lt_iff, not_not, Bool.or_eq_true, decide_eq_true_eq]
  rw [add]
  simp only [hskip, values_singleton, focusValue?_singleton]
  by_cases hpos : 0.0 < x.value
  · cases hsize : x.kernel.sizeClass <;> by_cases hfocus : x.kernel = focus <;>
      simp [hpos, hfocus]
  · simp [hpos]

theorem ofList_eq (focus : Kernel) (xs : List Measurement) :
    ofList focus xs =
      ⟨values .small xs, values .medium xs, values .large xs, focusValue? focus xs⟩ := by
  induction xs using List.reverseRecOn with
  | nil => rfl
  | append_singleton xs x ih =>
    have hstep : ofList focus (xs ++ [x]) = add focus (ofList focus xs) x := by
      simp [ofList]
    rw [hstep, ih, add_eq]
    simp only [values_append, focusValue?_append]

/-- The size classes share the positive measurements out. -/
theorem length_values (xs : List Measurement) :
    (values .small xs).length + (values .medium xs).length + (values .large xs).length =
      (positive xs).length := by
  simp only [values, List.length_map]
  induction positive xs with
  | nil => rfl
  | cons x rest ih =>
    cases hsize : x.kernel.sizeClass <;> simp [hsize] <;> omega

/-- Only the positive measurements matter. -/
theorem ofList_congr {xs ys : List Measurement} (h : positive xs = positive ys) :
    ofList focus xs = ofList focus ys := by
  simp only [ofList_eq, values, focusValue?, h]

/-- The values of measurements in two parts, those of the one part in front of those of the other.
A focus value of the second part takes the place of one of the first. -/
def append (c d : Classified) : Classified :=
  ⟨c.small ++ d.small, c.medium ++ d.medium, c.large ++ d.large, d.focus.or c.focus⟩

theorem ofList_append (focus : Kernel) (xs ys : List Measurement) :
    ofList focus (xs ++ ys) = (ofList focus xs).append (ofList focus ys) := by
  simp only [ofList_eq, append, values_append, focusValue?_append]

/-- The positive values of the kernels whose exact product of dimensions the class is made for. -/
theorem values_eq (size : SizeClass) (xs : List Measurement) :
    values size xs =
      ((positive xs).filter fun x => SizeClass.ofVolume x.kernel.product = size).map (·.value) := by
  simp only [values, Kernel.sizeClass_eq]

theorem length_values_le (size : SizeClass) (xs : List Measurement) :
    (values size xs).length ≤ xs.length := by
  rw [values, List.length_map]
  exact Nat.le_trans (List.length_filter_le ..) (List.length_filter_le ..)

/-- A count is exact as long as it fits. -/
theorem count_bucket_values (size : SizeClass) (hlength : xs.length < UInt32.size) :
    (bucket (values size xs)).count.toNat = (values size xs).length :=
  UInt32.toNat_ofNat_of_lt' (Nat.lt_of_le_of_lt (length_values_le size xs) hlength)

theorem zero_lt_of_focusValue? {value : Float} (h : focusValue? focus xs = some value) :
    0.0 < value := by
  obtain ⟨x, hlast, rfl⟩ := Option.map_eq_some_iff.1 h
  have hmem := List.mem_filter.1 (List.mem_filter.1 (List.mem_of_getLast? hlast)).1
  simpa using hmem.2

theorem focusValue?_eq_none :
    focusValue? focus xs = none ↔ ∀ x ∈ xs, x.kernel = focus → ¬ 0.0 < x.value := by
  simp only [focusValue?, positive, Option.map_eq_none_iff, List.getLast?_eq_none_iff,
    List.filter_filter, List.filter_eq_nil_iff, Bool.and_eq_true, decide_eq_true_eq, not_and]

end Classified

section aggregate

open Classified

variable {focus : Kernel} {build : UInt64} {xs : List Measurement} {x : Sample}

theorem aggregate_eq (focus : Kernel) (build : UInt64) (xs : List Measurement) :
    aggregate focus build xs = (focusValue? focus xs).map fun value =>
      ⟨bucket (values .small xs), bucket (values .medium xs), bucket (values .large xs), value,
        build⟩ := by
  rw [aggregate, ofList_eq, sample?]
  cases h : focusValue? focus xs with
  | none => rfl
  | some value => simp [zero_lt_of_focusValue? h]

/-- There is no sample if the focus kernel has no positive value. -/
theorem aggregate_eq_none :
    aggregate focus build xs = none ↔ ∀ x ∈ xs, x.kernel = focus → ¬ 0.0 < x.value := by
  rw [aggregate_eq, Option.map_eq_none_iff, focusValue?_eq_none]

theorem zero_lt_focus_of_aggregate (h : aggregate focus build xs = some x) : 0.0 < x.focus := by
  rw [aggregate_eq] at h
  obtain ⟨value, hvalue, rfl⟩ := Option.map_eq_some_iff.1 h
  exact zero_lt_of_focusValue? hvalue

/-- Unless there are so many that a count overflows, the counts add up to the number of positive
measurements. -/
theorem total_of_aggregate (h : aggregate focus build xs = some x)
    (hlength : xs.length < UInt32.size) : x.total = (positive xs).length := by
  rw [aggregate_eq] at h
  obtain ⟨value, -, rfl⟩ := Option.map_eq_some_iff.1 h
  have hsum := length_values xs
  simp only [Sample.total, Sample.buckets, List.map_cons, List.map_nil, List.foldr_cons,
    List.foldr_nil, count_bucket_values _ hlength]
  omega

/-- The focus kernel is among the positive measurements. -/
theorem positive_ne_nil_of_aggregate (h : aggregate focus build xs = some x) :
    positive xs ≠ [] := by
  intro hnil
  have hnone : aggregate focus build xs = none :=
    aggregate_eq_none.2 fun y hy _ => by simpa using List.filter_eq_nil_iff.1 hnil y hy
  rw [h] at hnone
  cases hnone

/-- The focus kernel counts in one of the buckets. -/
theorem exists_count_of_aggregate (h : aggregate focus build xs = some x)
    (hlength : xs.length < UInt32.size) : ∃ b ∈ x.buckets, b.count ≠ 0 := by
  have htotal : x.total ≠ 0 := by
    rw [total_of_aggregate h hlength]
    exact fun hzero => positive_ne_nil_of_aggregate h (List.length_eq_zero_iff.1 hzero)
  rw [Ne, Sample.total_eq_zero_iff] at htotal
  push Not at htotal
  exact htotal

/-- A sample of measurements has the last positive value of the focus kernel, and it counts each
positive measurement in the bucket of its size class. -/
structure SampleOf (focus : Kernel) (build : UInt64) (xs : List Measurement) (x : Sample) :
    Prop where
  build : x.build = build
  last : ((positive xs).filter fun y => y.kernel = focus).getLast?.map (·.value) = some x.focus
  small : x.small.count.toNat = (ofList focus xs).small.length
  medium : x.medium.count.toNat = (ofList focus xs).medium.length
  large : x.large.count.toNat = (ofList focus xs).large.length
  total : x.total = (positive xs).length
  one_le_total : 1 ≤ x.total

theorem sampleOf_aggregate (h : aggregate focus build xs = some x)
    (hlength : xs.length < UInt32.size) : SampleOf focus build xs x := by
  have htotal := total_of_aggregate h hlength
  have hpos := List.length_pos_iff.2 (positive_ne_nil_of_aggregate h)
  have hcount (size : SizeClass) := count_bucket_values size hlength
  rw [aggregate_eq] at h
  obtain ⟨value, hvalue, rfl⟩ := Option.map_eq_some_iff.1 h
  rw [← htotal] at hpos
  exact {
    build := rfl
    last := hvalue
    small := by rw [ofList_eq]; exact hcount .small
    medium := by rw [ofList_eq]; exact hcount .medium
    large := by rw [ofList_eq]; exact hcount .large
    total := htotal
    one_le_total := hpos }

/-- Classification divides the positive values among the size classes by the exact products of the
dimensions, in order, and works part by part. There is a sample if and only if the focus kernel has
a positive value, and its counts are the lengths of the classes. Values that are not positive make
no difference anywhere. -/
theorem ofList_partitions (focus : Kernel) (build : UInt64) (xs : List Measurement)
    (hlength : xs.length < UInt32.size) :
    (ofList focus xs).small =
        ((positive xs).filter fun x => x.kernel.product ≤ 13 * 13 * 13).map (·.value) ∧
      (ofList focus xs).medium =
        ((positive xs).filter fun x =>
          13 * 13 * 13 < x.kernel.product ∧
            x.kernel.product ≤ 23 * 23 * 23).map (·.value) ∧
      (ofList focus xs).large =
        ((positive xs).filter fun x => 23 * 23 * 23 < x.kernel.product).map (·.value) ∧
      (∀ ys, ofList focus (xs ++ ys) = (ofList focus xs).append (ofList focus ys)) ∧
      (aggregate focus build xs = none ↔ ∀ x ∈ xs, x.kernel = focus → ¬ 0.0 < x.value) ∧
      (∀ x, aggregate focus build xs = some x → SampleOf focus build xs x) ∧
      ∀ front x back, xs = front ++ x :: back → Double.isNaN x.value = true ∨ x.value ≤ 0.0 →
        ofList focus xs = ofList focus (front ++ back) ∧
          aggregate focus build xs = aggregate focus build (front ++ back) := by
  refine ⟨?_, ?_, ?_, ofList_append focus xs, aggregate_eq_none,
    fun x h => sampleOf_aggregate h hlength, ?_⟩
  · simp only [ofList_eq, values_eq, SizeClass.ofVolume_eq_small]
  · simp only [ofList_eq, values_eq, SizeClass.ofVolume_eq_medium]
  · simp only [ofList_eq, values_eq, SizeClass.ofVolume_eq_large]
  · rintro front x back rfl hskip
    have hclassified : ofList focus (front ++ x :: back) = ofList focus (front ++ back) :=
      ofList_congr (positive_append_cons_of_not hskip front back)
    exact ⟨hclassified, by rw [aggregate, aggregate, hclassified]⟩

/-- Two of the values are positive for the focus kernel, one is no number and one is negative. The
first product of one kernel saturates before it is multiplied by zero. -/
theorem ofList_partitions_mixed :
    let focus : Kernel := ⟨23, 23, 23⟩
    let odd : Measurement := ⟨focus, 0.0 / 0.0⟩
    let front : List Measurement := [⟨focus, 9.5⟩, ⟨⟨30, 30, 30⟩, -1.0⟩, ⟨⟨24, 23, 23⟩, 80.0⟩]
    let back : List Measurement := [⟨⟨0x8000000000000000, 4, 0⟩, 2.0⟩, ⟨focus, 12.5⟩]
    let xs := front ++ odd :: back
    xs.length < UInt32.size ∧ (Double.isNaN odd.value = true ∨ odd.value ≤ 0.0) ∧
      (ofList focus xs).small = [2.0] ∧ (ofList focus xs).medium = [9.5, 12.5] ∧
      (ofList focus xs).large = [80.0] ∧
      ofList focus xs = ofList focus (front ++ back) ∧
      ∃ x, aggregate focus 7 xs = some x ∧ SampleOf focus 7 xs x ∧ x.total = 4 := by
  intro focus odd front back xs
  have hlength : xs.length < UInt32.size := by decide
  have hodd : Double.isNaN odd.value = true ∨ odd.value ≤ 0.0 := .inl (by decide)
  obtain ⟨hsmall, hmedium, hlarge, -, hnone, hsample, hskip⟩ :=
    ofList_partitions focus 7 xs hlength
  have hsome : ∃ x, aggregate focus 7 xs = some x := by
    refine Option.ne_none_iff_exists'.1 fun h => ?_
    exact hnone.1 h ⟨focus, 12.5⟩ (by simp [xs, back]) rfl (by decide)
  obtain ⟨x, hx⟩ := hsome
  exact ⟨hlength, hodd, hsmall.trans (by decide +kernel), hmedium.trans (by decide +kernel),
    hlarge.trans (by decide +kernel), (hskip front odd back rfl hodd).1, x, hx, hsample x hx,
    (hsample x hx).total.trans (by decide +kernel)⟩

end aggregate

end BenchTracker
