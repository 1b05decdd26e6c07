import BenchTracker.Proofs.Rollup.Lockstep
import Mathlib.Data.List.DropRight

/-!
# The range of efficiencies

The greatest efficiency is the one of the best device. For the least one, zero is the efficiency of
a device and also stands for no device so far. So a device at zero percent is forgotten as soon as
another one follows it, and the least efficiency depends on the order of the devices.
-/

namespace BenchTracker

theorem setOf_mem_append_singleton {α : Type} (xs : List α) (x : α) :
    {y | y ∈ xs ++ [x]} = insert x {y | y ∈ xs} := by
  ext y
  simp only [Set.mem_insert_iff, Set.mem_ofPred_eq, List.mem_append, List.mem_singleton, or_comm]

theorem isGreatest_foldl_max (xs : List Int) :
    IsGreatest (insert 0 {x | x ∈ xs}) (xs.foldl max 0) := by
  induction xs using List.reverseRecOn with
  | nil => simp
  | append_singleton xs x ih =>
    rw [List.foldl_append, List.foldl_cons, List.foldl_nil, setOf_mem_append_singleton,
      Set.insert_comm, max_comm]
    exact ih.insert x

theorem isGreatest_foldl_max_of_ne_nil {xs : List Int} (h : ∀ x ∈ xs, 0 ≤ x) (hne : xs ≠ []) :
    IsGreatest {x | x ∈ xs} (xs.foldl max 0) := by
  have hgreatest := isGreatest_foldl_max xs
  refine ⟨?_, fun x hx => hgreatest.2 (Set.mem_insert_of_mem 0 hx)⟩
  rcases hgreatest.1 with hzero | hmem
  · -- Nothing is above zero, so all items are zero.
    obtain ⟨x, hx⟩ := List.exists_mem_of_ne_nil xs hne
    have hle : x ≤ 0 := hzero ▸ hgreatest.2 (Set.mem_insert_of_mem 0 hx)
    obtain rfl : x = 0 := le_antisymm hle (h x hx)
    rw [hzero]
    exact hx
  · exact hmem

namespace Rollup

/-! ## The least efficiency so far -/

/-- The percents behind the last zero. -/
def behindZero (percents : List Int) : List Int := percents.rtakeWhile (· ≠ 0)

theorem behindZero_append_zero (percents : List Int) : behindZero (percents ++ [0]) = [] :=
  List.rtakeWhile_concat_neg _ _ _ (by simp)

theorem behindZero_append_of_ne {percent : Int} (h : percent ≠ 0) (percents : List Int) :
    behindZero (percents ++ [percent]) = behindZero percents ++ [percent] :=
  List.rtakeWhile_concat_pos _ _ _ (by simpa using h)

theorem behindZero_eq_self {percents : List Int} (h : 0 ∉ percents) :
    behindZero percents = percents := by
  refine List.rtakeWhile_eq_self_iff.2 fun x hx => ?_
  rw [decide_eq_true_eq]
  rintro rfl
  exact h hx

theorem mem_behindZero {percents : List Int} {percent : Int} (h : percent ∈ behindZero percents) :
    percent ≠ 0 ∧ percent ∈ percents :=
  ⟨by simpa using List.mem_rtakeWhile_imp h, (List.rtakeWhile_suffix _ _).subset h⟩

theorem behindZero_eq_nil_iff {percents : List Int} :
    behindZero percents = [] ↔ percents = [] ∨ percents.getLast? = some 0 := by
  rcases List.eq_nil_or_concat' percents with rfl | ⟨front, last, rfl⟩
  · simp [behindZero]
  · by_cases hlast : last = 0
    · subst last
      simp [behindZero_append_zero]
    · simp [behindZero_append_of_ne hlast, hlast]

/-- The number is the least of the percents behind the last zero, or zero if there are none. -/
structure LeastBehindZero (percents : List Int) (least : Int) : Prop where
  eq_zero : behindZero percents = [] → least = 0
  isLeast : behindZero percents ≠ [] → IsLeast {x | x ∈ behindZero percents} least

variable {percents : List Int} {least percent : Int}

theorem LeastBehindZero.nonneg (h : LeastBehindZero percents least)
    (hpercents : ∀ x ∈ percents, 0 ≤ x) : 0 ≤ least := by
  by_cases hnil : behindZero percents = []
  · rw [h.eq_zero hnil]
  · exact hpercents _ (mem_behindZero (h.isLeast hnil).1).2

/-- One more percent either ends what stands behind the last zero, or joins it. -/
theorem LeastBehindZero.append (h : LeastBehindZero percents least)
    (hpercents : ∀ x ∈ percents, 0 ≤ x) :
    LeastBehindZero (percents ++ [percent]) (leastOf least percent) := by
  have hleast := h.nonneg hpercents
  by_cases hzero : percent = 0
  · subst percent
    refine ⟨fun _ => ?_, fun hne => absurd (behindZero_append_zero percents) hne⟩
    unfold leastOf
    split <;> omega
  · have hnew : IsLeast {x | x ∈ behindZero (percents ++ [percent])}
        (leastOf least percent) := by
      rw [behindZero_append_of_ne hzero, setOf_mem_append_singleton]
      by_cases hnil : behindZero percents = []
      · obtain rfl := h.eq_zero hnil
        simp [hnil, leastOf]
      · have hne := (mem_behindZero (h.isLeast hnil).1).1
        have hmin : leastOf least percent = min percent least := by
          unfold leastOf
          split <;> omega
        rw [hmin]
        exact (h.isLeast hnil).insert percent
    refine ⟨fun hnil => ?_, fun _ => hnew⟩
    rw [behindZero_append_of_ne hzero] at hnil
    exact absurd hnil (List.append_ne_nil_of_right_ne_nil _ (List.cons_ne_nil _ _))

/-- The least percent behind the last zero is the least one altogether if there is no zero, or if
nothing stands behind it. -/
theorem LeastBehindZero.isLeast_iff (h : LeastBehindZero percents least)
    (hpercents : ∀ x ∈ percents, 0 ≤ x) (hne : percents ≠ []) :
    IsLeast {x | x ∈ percents} least ↔ (0 ∈ percents → percents.getLast? = some 0) := by
  constructor
  · intro hleast hmem
    have hzero : least = 0 := le_antisymm (hleast.2 hmem) (h.nonneg hpercents)
    have hbehind : behindZero percents = [] := by
      by_contra hsome
      exact (mem_behindZero (h.isLeast hsome).1).1 hzero
    exact (behindZero_eq_nil_iff.1 hbehind).resolve_left hne
  · intro hlast
    by_cases hmem : 0 ∈ percents
    · rw [h.eq_zero (behindZero_eq_nil_iff.2 (.inr (hlast hmem)))]
      exact ⟨hmem, hpercents⟩
    · have hsome := h.isLeast ((behindZero_eq_self hmem).symm ▸ hne)
      rwa [behindZero_eq_self hmem] at hsome

/-- Without a zero, the order of the percents does not matter. -/
theorem LeastBehindZero.unique {percents' : List Int} {least' : Int}
    (h : LeastBehindZero percents least) (h' : LeastBehindZero percents' least')
    (hmem : ∀ x, x ∈ percents' ↔ x ∈ percents) (hzero : 0 ∉ percents) : least' = least := by
  have hself := behindZero_eq_self hzero
  have hself' := behindZero_eq_self (mt (hmem 0).1 hzero)
  by_cases hnil : percents = []
  · have hnil' : percents' = [] := by
      rw [List.eq_nil_iff_forall_not_mem]
      intro x hx
      rw [hmem, hnil] at hx
      cases hx
    rw [h.eq_zero (hself.trans hnil), h'.eq_zero (hself'.trans hnil')]
  · have hne' : percents' ≠ [] := by
      obtain ⟨x, hx⟩ := List.exists_mem_of_ne_nil percents hnil
      exact List.ne_nil_of_mem ((hmem x).2 hx)
    have hleast := h.isLeast (hself.symm ▸ hnil)
    have hleast' := h'.isLeast (hself'.symm ▸ hne')
    rw [hself] at hleast
    rw [hself'] at hleast'
    simp only [hmem] at hleast'
    exact hleast'.unique hleast

theorem leastBehindZero_foldl (h : ∀ x ∈ percents, 0 ≤ x) :
    LeastBehindZero percents (percents.foldl leastOf 0) := by
  induction percents using List.reverseRecOn with
  | nil => exact ⟨fun _ => rfl, fun hne => absurd rfl hne⟩
  | append_singleton percents percent ih =>
    have hfront : ∀ x ∈ percents, 0 ≤ x := fun x hx => h x (List.mem_append_left _ hx)
    rw [List.foldl_append, List.foldl_cons, List.foldl_nil]
    exact (ih hfront).append hfront

end Rollup

/-! ## The range of a rollup -/

variable {p : Parameters} {intensity : Float} {peaks : PeakTable} {s : Store}

theorem DeviceRollup.efficiencyPercent_of? {device : String} {r : DeviceRollup}
    (h : of? p intensity peaks s device = some r) :
    r.efficiencyPercent = (r.steps.map (·.efficiencyPercent)).foldl max 0 := by
  simp only [of?, bind, Option.bind_eq_some_iff] at h
  obtain ⟨peak, -, minlen, -, longest, -, h⟩ := h
  split at h
  · cases h
  · cases h
    rfl

namespace Rollup

variable {devices devices' : List String}

theorem nonneg_of_mem_percents {percent : Int}
    (h : percent ∈ (ofStore p intensity peaks s devices).devices.map (·.efficiencyPercent)) :
    0 ≤ percent := by
  obtain ⟨r, hr, rfl⟩ := List.mem_map.1 h
  rw [DeviceRollup.efficiencyPercent_of? (of?_of_mem hr)]
  exact (isGreatest_foldl_max _).2 (Set.mem_insert 0 _)

theorem mem_percents_congr (h : ∀ device, device ∈ devices' ↔ device ∈ devices) (percent : Int) :
    percent ∈ (ofStore p intensity peaks s devices').devices.map (·.efficiencyPercent) ↔
      percent ∈ (ofStore p intensity peaks s devices).devices.map (·.efficiencyPercent) := by
  simp only [ofStore, List.mem_map, List.mem_filterMap, mem_distinct, h]

/-- The greatest efficiency is the one of the best device, and the least efficiency the one of the
worst device behind the last one at zero percent. It is the least one altogether exactly if no
device is at zero percent, or the last one is. The order of the devices does not matter for the
greatest efficiency, and for the least one if no device is at zero percent. -/
theorem efficiencies_ofStore (p : Parameters) (intensity : Float) (peaks : PeakTable) (s : Store)
    (devices : List String) :
    let r := ofStore p intensity peaks s devices
    let percents := r.devices.map (·.efficiencyPercent)
    (percents = [] → r.leastEfficiency = 0 ∧ r.greatestEfficiency = 0) ∧
      (percents ≠ [] → IsGreatest {x | x ∈ percents} r.greatestEfficiency) ∧
      (behindZero percents = [] → r.leastEfficiency = 0) ∧
      (behindZero percents ≠ [] → IsLeast {x | x ∈ behindZero percents} r.leastEfficiency) ∧
      (percents ≠ [] → (IsLeast {x | x ∈ percents} r.leastEfficiency ↔
        (0 ∈ percents → percents.getLast? = some 0))) ∧
      ∀ devices' : List String, (∀ device, device ∈ devices' ↔ device ∈ devices) →
        let r' := ofStore p intensity peaks s devices'
        r'.greatestEfficiency = r.greatestEfficiency ∧
          (0 ∉ percents → r'.leastEfficiency = r.leastEfficiency) := by
  intro r percents
  have hnonneg : ∀ x ∈ percents, 0 ≤ x := fun x hx => nonneg_of_mem_percents hx
  have hleast : LeastBehindZero percents r.leastEfficiency := leastBehindZero_foldl hnonneg
  refine ⟨fun hnil => ⟨?_, ?_⟩, isGreatest_foldl_max_of_ne_nil hnonneg, hleast.eq_zero,
    hleast.isLeast, hleast.isLeast_iff hnonneg, ?_⟩
  · exact hleast.eq_zero (behindZero_eq_nil_iff.2 (.inl hnil))
  · change percents.foldl max 0 = 0
    rw [hnil, List.foldl_nil]
  · intro devices' hdevices r'
    have hmem (x : Int) : x ∈ r'.devices.map (·.efficiencyPercent) ↔ x ∈ percents :=
      mem_percents_congr hdevices x
    have hgreatest' := isGreatest_foldl_max (r'.devices.map (·.efficiencyPercent))
    simp only [hmem] at hgreatest'
    have hleast' : LeastBehindZero (r'.devices.map (·.efficiencyPercent)) r'.leastEfficiency :=
      leastBehindZero_foldl fun x hx => nonneg_of_mem_percents hx
    exact ⟨hgreatest'.unique (isGreatest_foldl_max percents), hleast.unique hleast' hmem⟩

/-- Two devices in one step, of which the first one has no bandwidth and so is at zero percent. The
least efficiency is the one of the second device, unless the devices are swapped. -/
theorem leastEfficiency_swapped :
    let series := Series.ofList [⟨⟨1.0, 1⟩, ⟨0.0, 0⟩, ⟨0.0, 0⟩, 1.0, 1⟩]
    let s : Store := ⟨.ofList [("OpenCL perf", .ofList [("GPU0", series), ("GPU1", series)])]⟩
    let peaks : PeakTable := .ofList [("GPU0", ⟨1.0, 0.0⟩), ("GPU1", ⟨1.0, 1.0⟩)]
    let r := ofStore {} 1.0 peaks s ["GPU0", "GPU1"]
    let swapped := ofStore {} 1.0 peaks s ["GPU1", "GPU0"]
    r.devices.map (·.efficiencyPercent) = [0, 100] ∧ r.leastEfficiency = 100 ∧
      swapped.devices.map (·.efficiencyPercent) = [100, 0] ∧ swapped.leastEfficiency = 0 := by
  decide +kernel

end Rollup

end BenchTracker
