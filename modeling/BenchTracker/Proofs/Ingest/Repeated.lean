import BenchTracker.Proofs.Ingest.Paging

/-!
# The same builds once more

A pass that starts from what an earlier pass left, with no lower watermark and the same provider,
examines a front part of the same builds. It finds all their samples in the store, so it adds
nothing, and it finds no latest build above the earlier one.
-/

namespace BenchTracker

namespace Ingest

variable {settings : Settings} {provider : Provider} {watermark watermark' : Nat} {s : Store}

/-- What a pass leaves for the next one. -/
def left (settings : Settings) (provider : Provider) (watermark : Nat) (s : Store) : Store :=
  (run settings provider watermark s).store.finalizeAll

theorem knows_left (step : String) :
    (left settings provider watermark s).knows step = s.knows step := by
  rw [left, Store.knows_finalizeAll, knows_run]

theorem complete_left {b : Build} :
    Complete settings provider (left settings provider watermark s) b ↔
      Complete settings provider s b :=
  complete_congr knows_left

/-- The samples of all examined builds are there. -/
theorem contains_left {b : Build} (hb : b ∈ examined provider watermark) {a : Addition}
    (ha : a ∈ additions settings provider s b) :
    (left settings provider watermark s).contains a.step a.device a.sample.build = true := by
  rw [left, Store.contains_finalizeAll, store_run]
  exact Store.contains_addAll (List.mem_flatMap.2 ⟨b, hb, ha⟩)

theorem store_run_left (hle : watermark ≤ watermark') :
    (run settings provider watermark' (left settings provider watermark s)).store =
      left settings provider watermark s := by
  rw [store_run, additions_congr knows_left]
  refine Store.addAll_eq_self fun a ha => ?_
  obtain ⟨b, hb, hab⟩ := List.mem_flatMap.1 ha
  exact contains_left ((examined_prefix_examined hle provider).subset hb) hab

theorem left_left (hle : watermark ≤ watermark') :
    left settings provider watermark' (left settings provider watermark s) =
      left settings provider watermark s := by
  rw [left, store_run_left hle, left, Store.finalizeAll_finalizeAll]

/-! ## The latest build -/

theorem latest_run_left_le_iff (n : Nat) :
    (run settings provider watermark'
        (left settings provider watermark s)).report.latest.toNat ≤ n ↔
      ∀ b ∈ examined provider watermark', Complete settings provider s b →
        b.number.toNat ≤ n := by
  simp only [latest_run_le_iff, complete_left]

/-- The same builds have the same latest one. -/
theorem latest_run_left :
    (run settings provider watermark (left settings provider watermark s)).report.latest =
      (run settings provider watermark s).report.latest := by
  apply UInt64.toNat_inj.1
  apply eq_of_forall_ge_iff
  intro n
  exact (latest_run_left_le_iff n).trans (latest_run_le_iff s n).symm

theorem latest_run_left_le (hle : watermark ≤ watermark') :
    (run settings provider watermark'
        (left settings provider watermark s)).report.latest.toNat ≤
      (run settings provider watermark s).report.latest.toNat := by
  refine (latest_run_left_le_iff _).2 fun b hb hc => ?_
  exact (latest_run_le_iff s _).1 (Nat.le_refl _) b
    ((examined_prefix_examined hle provider).subset hb) hc

/-- Above the earlier latest build there is no complete one. -/
theorem latest_run_left_eq_zero (hle : watermark ≤ watermark')
    (hlatest : (run settings provider watermark s).report.latest.toNat ≤ watermark') :
    (run settings provider watermark'
      (left settings provider watermark s)).report.latest = 0 := by
  have hzero : (run settings provider watermark'
      (left settings provider watermark s)).report.latest.toNat ≤ 0 := by
    refine (latest_run_left_le_iff _).2 fun b hb hc => ?_
    have hlt := lt_of_mem_examined hb
    have hbound := (latest_run_le_iff s _).1 (Nat.le_refl _) b
      ((examined_prefix_examined hle provider).subset hb) hc
    omega
  exact UInt64.toNat_inj.1 (Nat.le_zero.1 hzero)

/-- Where the latest builds are listed first, the earlier latest build is found again if it lies
above the watermark. -/
theorem latest_le_latest_run_left
    (hlisting : (listing provider).Pairwise fun a b => b.number ≤ a.number)
    (hlt : watermark' < (run settings provider watermark s).report.latest.toNat) :
    (run settings provider watermark s).report.latest.toNat ≤
      (run settings provider watermark'
        (left settings provider watermark s)).report.latest.toNat := by
  have hcases : (run settings provider watermark s).report.latest = 0 ∨
      ∃ b ∈ examined provider watermark, Complete settings provider s b ∧
        (run settings provider watermark s).report.latest = b.number := latest_run_cases s
  rcases hcases with hzero | ⟨b, hb, hc, hlatest⟩
  · rw [hzero]
    exact Nat.zero_le _
  · rw [hlatest] at hlt ⊢
    have hmem : b ∈ examined provider watermark' := by
      rw [examined, fresh_eq_filter hlisting, List.mem_filter]
      refine ⟨(List.takeWhile_prefix _).subset hb, by simpa using hlt⟩
    exact (latest_run_left_le_iff _).1 (Nat.le_refl _) b hmem hc

/-- If the second pass finds a latest build at all, it ends with the watermark of the first one. For
this it has to start from the same watermark or from one that the first pass reached, unless the
latest builds are listed first. -/
theorem nextWatermark_left (hle : watermark ≤ watermark')
    (hstart : watermark = watermark' ∨
      (run settings provider watermark s).report.latest.toNat ≤ watermark' ∨
      (listing provider).Pairwise fun a b => b.number ≤ a.number)
    (hpos : (run settings provider watermark'
      (left settings provider watermark s)).report.latest ≠ 0) :
    (run settings provider watermark'
        (left settings provider watermark s)).report.nextWatermark watermark' =
      (run settings provider watermark s).report.nextWatermark watermark := by
  have hbound : (run settings provider watermark'
      (left settings provider watermark s)).report.latest.toNat ≤
        (run settings provider watermark s).report.latest.toNat := latest_run_left_le hle
  simp only [Report.nextWatermark]
  rcases hstart with rfl | hlatest | hlisting
  · rw [latest_run_left]
  · exact absurd (latest_run_left_eq_zero hle hlatest) hpos
  · have hlt : watermark' < (run settings provider watermark s).report.latest.toNat := by
      by_contra hnot
      exact hpos (latest_run_left_eq_zero hle (Nat.not_lt.1 hnot))
    have hlatest := latest_le_latest_run_left hlisting hlt
    omega

end Ingest

end BenchTracker
