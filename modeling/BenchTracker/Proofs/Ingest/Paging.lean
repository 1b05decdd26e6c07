import BenchTracker.Proofs.Ingest.Builds
import Mathlib.Data.List.TakeWhile

/-!
# The builds that a pass examines

A provider lists builds over its pages, up to the first page that fails or is empty. A pass examines
the front part of this listing that lies above its watermark, whatever the pages are, and takes
these builds in one after the other.
-/

namespace BenchTracker

namespace Ingest

variable {settings : Settings} {provider : Provider} {watermark : Nat}

/-! ## The listing of a provider -/

/-- The builds on the pages from the given one on. The number of pages is bounded. -/
def listingFrom (provider : Provider) : Nat → Nat → List Build
  | 0, _ => []
  | fuel + 1, number =>
    match provider.page number with
    | .error _ => []
    | .ok builds => if builds = [] then [] else builds ++ listingFrom provider fuel (number + 1)

/-- All builds that a provider lists, in order. -/
def listing (provider : Provider) : List Build := listingFrom provider pageLimit 1

/-- The builds that a pass above the watermark takes in, in order. -/
def examined (provider : Provider) (watermark : Nat) : List Build :=
  fresh watermark (listing provider)

/-- The pages from the given number on, none of which is empty. -/
def HasPages (provider : Provider) : Nat → List (List Build) → Prop
  | _, [] => True
  | number, page :: rest =>
    provider.page number = .ok page ∧ page ≠ [] ∧ HasPages provider (number + 1) rest

theorem hasPages_iff {number : Nat} {cut : List (List Build)} :
    HasPages provider number cut ↔ (∀ page ∈ cut, page ≠ []) ∧
      ∀ n < cut.length, provider.page (number + n) = .ok (cut.getD n []) := by
  induction cut generalizing number with
  | nil => simp [HasPages]
  | cons page rest ih =>
    rw [HasPages, ih, List.forall_mem_cons]
    constructor
    · rintro ⟨hfirst, hne, hrest, hpages⟩
      refine ⟨⟨hne, hrest⟩, fun n hn => ?_⟩
      cases n with
      | zero => exact hfirst
      | succ n =>
        rw [List.getD_cons_succ, ← hpages n (by simpa using hn), Nat.add_right_comm]
        rfl
    · rintro ⟨⟨hne, hrest⟩, hpages⟩
      refine ⟨hpages 0 (by simp), hne, hrest, fun n hn => ?_⟩
      rw [Nat.add_right_comm]
      exact hpages (n + 1) (by simpa using hn)

/-- The builds on these pages come first. -/
theorem listingFrom_append {number : Nat} {cut : List (List Build)}
    (h : HasPages provider number cut) (fuel : Nat) :
    listingFrom provider (cut.length + fuel) number =
      cut.flatten ++ listingFrom provider fuel (number + cut.length) := by
  induction cut generalizing number with
  | nil => simp
  | cons page rest ih =>
    obtain ⟨hfirst, hne, hrest⟩ := h
    have hnumber : number + (page :: rest).length = number + 1 + rest.length := by
      rw [List.length_cons, ← Nat.add_assoc, Nat.add_right_comm]
    rw [hnumber, List.length_cons, Nat.add_right_comm, listingFrom]
    simp only [hfirst, if_neg hne, ih hrest, List.flatten_cons, List.append_assoc]

/-- A page that is empty or fails is the end. -/
theorem listing_of_hasPages {cut : List (List Build)} (h : HasPages provider 1 cut)
    (hlimit : cut.length + 1 ≤ pageLimit)
    (hlast : ∀ builds, provider.page (1 + cut.length) = .ok builds → builds = []) :
    listing provider = cut.flatten := by
  obtain ⟨fuel, hfuel⟩ : ∃ fuel, pageLimit = cut.length + (fuel + 1) :=
    ⟨pageLimit - (cut.length + 1), by omega⟩
  have hend : listingFrom provider (fuel + 1) (1 + cut.length) = [] := by
    rw [listingFrom]
    cases hpage : provider.page (1 + cut.length) with
    | error cause => rfl
    | ok builds => simp [hlast builds hpage]
  rw [listing, hfuel, listingFrom_append h, hend, List.append_nil]

theorem fresh_eq_self_iff {builds : List Build} :
    fresh watermark builds = builds ↔ ∀ b ∈ builds, watermark < b.number.toNat := by
  simp [fresh, List.takeWhile_eq_self_iff]

theorem length_fresh_lt_iff {builds : List Build} :
    (fresh watermark builds).length < builds.length ↔ fresh watermark builds ≠ builds := by
  have hfront : fresh watermark builds <+: builds := List.takeWhile_prefix _
  constructor
  · intro hlt heq
    rw [heq] at hlt
    omega
  · intro hne
    exact Nat.lt_of_le_of_ne hfront.length_le fun h => hne (hfront.eq_of_length h)

theorem fresh_append_of_eq {builds rest : List Build} (h : fresh watermark builds = builds) :
    fresh watermark (builds ++ rest) = builds ++ fresh watermark rest :=
  List.takeWhile_append_of_pos fun b hb => by simpa using fresh_eq_self_iff.1 h b hb

theorem fresh_append_of_ne {builds rest : List Build} (h : fresh watermark builds ≠ builds) :
    fresh watermark (builds ++ rest) = fresh watermark builds := by
  have hlength := (length_fresh_lt_iff.2 h).ne
  exact List.takeWhile_append.trans (if_neg hlength)

theorem lt_of_mem_fresh {builds : List Build} {b : Build} (h : b ∈ fresh watermark builds) :
    watermark < b.number.toNat := by
  simpa using List.mem_takeWhile_imp h

/-- The higher the watermark, the shorter is the front part above it. -/
theorem fresh_prefix_fresh {lower : Nat} (h : lower ≤ watermark) (builds : List Build) :
    fresh watermark builds <+: fresh lower builds := by
  induction builds with
  | nil => exact List.prefix_refl _
  | cons b rest ih =>
    simp only [fresh, List.takeWhile_cons, decide_eq_true_eq] at ih ⊢
    by_cases hb : watermark < b.number.toNat
    · rw [if_pos hb, if_pos (by omega)]
      exact (List.prefix_cons_inj b).2 ih
    · rw [if_neg hb]
      exact List.nil_prefix

theorem examined_prefix_examined {lower : Nat} (h : lower ≤ watermark) (provider : Provider) :
    examined provider watermark <+: examined provider lower :=
  fresh_prefix_fresh h _

theorem lt_of_mem_examined {b : Build} (h : b ∈ examined provider watermark) :
    watermark < b.number.toNat :=
  lt_of_mem_fresh h

/-- Where the latest builds are listed first, all builds above the watermark are examined. -/
theorem fresh_eq_filter {builds : List Build}
    (h : builds.Pairwise fun a b => b.number ≤ a.number) :
    fresh watermark builds = builds.filter fun b => watermark < b.number.toNat := by
  induction builds with
  | nil => rfl
  | cons b rest ih =>
    obtain ⟨hhead, hrest⟩ := List.pairwise_cons.1 h
    have ih := ih hrest
    simp only [fresh, List.takeWhile_cons, List.filter_cons, decide_eq_true_eq] at ih ⊢
    by_cases hb : watermark < b.number.toNat
    · rw [if_pos hb, if_pos hb, ih]
    · rw [if_neg hb, if_neg hb]
      refine (List.filter_eq_nil_iff.2 fun c hc => ?_).symm
      have hle : c.number.toNat ≤ b.number.toNat := UInt64.le_iff_toNat_le.1 (hhead c hc)
      simp only [decide_eq_true_eq]
      omega

/-! ## Paging -/

/-- What a pass has gathered from builds. -/
structure Harvest where
  store : Store
  work : Nat
  latest : UInt64
  stepErrors : Nat
  valueErrors : Nat

def Progress.harvest (p : Progress) : Harvest :=
  ⟨p.store, p.report.work, p.report.latest, p.report.stepErrors, p.report.valueErrors⟩

/-- What a build adds to the harvest does not depend on the paging. -/
theorem harvest_addBuild_congr {p q : Progress} (h : p.harvest = q.harvest) (build : Build) :
    (addBuild settings provider p build).harvest =
      (addBuild settings provider q build).harvest := by
  simp only [Progress.harvest, Harvest.mk.injEq] at h
  obtain ⟨hstore, hwork, hlatest, hstep, hvalue⟩ := h
  simp only [Progress.harvest, addBuild, hstore, hwork, hlatest, hstep, hvalue]

theorem harvest_foldl_congr {p q : Progress} (h : p.harvest = q.harvest) (builds : List Build) :
    (builds.foldl (addBuild settings provider) p).harvest =
      (builds.foldl (addBuild settings provider) q).harvest := by
  induction builds generalizing p q with
  | nil => exact h
  | cons build rest ih => exact ih (harvest_addBuild_congr h build)

theorem harvest_fromPage (fuel number : Nat) (p : Progress) :
    (fromPage settings provider watermark fuel number p).harvest =
      ((fresh watermark (listingFrom provider fuel number)).foldl
        (addBuild settings provider) p).harvest := by
  induction fuel generalizing number p with
  | zero => rfl
  | succ fuel ih =>
    rw [fromPage, listingFrom]
    cases provider.page number with
    | error cause => rfl
    | ok builds =>
      by_cases hnil : builds = []
      · simp only [hnil, if_true]
        rfl
      · simp only [hnil, if_false, length_fresh_lt_iff]
        by_cases hall : fresh watermark builds = builds
        · rw [if_neg (not_not.2 hall), ih, fresh_append_of_eq hall, List.foldl_append, hall]
          refine harvest_foldl_congr (harvest_foldl_congr ?_ builds) _
          rfl
        · rw [if_pos hall, fresh_append_of_ne hall]
          change ((fresh watermark builds).foldl (addBuild settings provider) _).harvest = _
          refine harvest_foldl_congr ?_ _
          rfl

/-- A pass comes to the same as taking in the examined builds one after the other. -/
theorem harvest_run (s : Store) :
    (run settings provider watermark s).harvest =
      ((examined provider watermark).foldl (addBuild settings provider) { store := s }).harvest :=
  harvest_fromPage pageLimit 1 _

theorem store_run (s : Store) :
    (run settings provider watermark s).store =
      s.addAll ((examined provider watermark).flatMap (additions settings provider s)) :=
  (congrArg Harvest.store (harvest_run s)).trans (store_foldl_addBuild _ _)

theorem knows_run (settings : Settings) (provider : Provider) (watermark : Nat) (s : Store)
    (step : String) : (run settings provider watermark s).store.knows step = s.knows step := by
  rw [store_run]
  refine Store.knows_addAll (fun a ha => ?_) step
  obtain ⟨b, -, hab⟩ := List.mem_flatMap.1 ha
  exact knows_of_mem_additions hab

theorem latest_run_le_iff (s : Store) (n : Nat) :
    (run settings provider watermark s).report.latest.toNat ≤ n ↔
      ∀ b ∈ examined provider watermark, Complete settings provider s b →
        b.number.toNat ≤ n := by
  have h : (run settings provider watermark s).report.latest = _ :=
    congrArg Harvest.latest (harvest_run s)
  rw [h]
  exact (latest_foldl_le_iff _ _ n).trans (and_iff_right (Nat.zero_le n))

theorem latest_run_cases (s : Store) :
    (run settings provider watermark s).report.latest = 0 ∨
      ∃ b ∈ examined provider watermark, Complete settings provider s b ∧
        (run settings provider watermark s).report.latest = b.number := by
  have h : (run settings provider watermark s).report.latest = _ :=
    congrArg Harvest.latest (harvest_run s)
  rw [h]
  exact latest_foldl_cases _ _

/-! ## Pages that were received -/

/-- The page has builds, all of them above the watermark, so that a pass goes on behind it. -/
def GoesOn (provider : Provider) (watermark number : Nat) : Prop :=
  ∃ builds, provider.page number = .ok builds ∧ builds ≠ [] ∧
    ∀ b ∈ builds, watermark < b.number.toNat

/-- A pass asks for the page and receives it. -/
def Received (provider : Provider) (watermark number : Nat) (builds : List Build) : Prop :=
  1 ≤ number ∧ number ≤ pageLimit ∧ provider.page number = .ok builds ∧
    ∀ k, 1 ≤ k → k < number → GoesOn provider watermark k

theorem mem_fresh_listingFrom {fuel first : Nat} {b : Build} :
    b ∈ fresh watermark (listingFrom provider fuel first) ↔
      ∃ number builds, first ≤ number ∧ number < first + fuel ∧
        provider.page number = .ok builds ∧ b ∈ fresh watermark builds ∧
        ∀ k, first ≤ k → k < number → GoesOn provider watermark k := by
  induction fuel generalizing first with
  | zero =>
    simp only [listingFrom, fresh, List.takeWhile_nil, List.not_mem_nil, false_iff]
    rintro ⟨number, builds, hle, hlt, -⟩
    omega
  | succ fuel ih =>
    constructor
    · intro h
      rw [listingFrom] at h
      cases hpage : provider.page first with
      | error cause => simp [hpage, fresh] at h
      | ok builds =>
        have here (hb : b ∈ fresh watermark builds) : ∃ number builds, first ≤ number ∧
            number < first + (fuel + 1) ∧ provider.page number = .ok builds ∧
            b ∈ fresh watermark builds ∧
            ∀ k, first ≤ k → k < number → GoesOn provider watermark k :=
          ⟨first, builds, by omega, by omega, hpage, hb, fun k hle hlt => by omega⟩
        simp only [hpage] at h
        by_cases hnil : builds = []
        · simp [hnil, fresh] at h
        rw [if_neg hnil] at h
        by_cases hall : fresh watermark builds = builds
        · rw [fresh_append_of_eq hall] at h
          rcases List.mem_append.1 h with hmem | hmem
          · exact here (by rwa [hall])
          · obtain ⟨number, bs, hle, hlt, hbs, hb, hbefore⟩ := ih.1 hmem
            refine ⟨number, bs, by omega, by omega, hbs, hb, fun k hk hlt => ?_⟩
            rcases Nat.eq_or_lt_of_le hk with rfl | hk
            · exact ⟨builds, hpage, hnil, fresh_eq_self_iff.1 hall⟩
            · exact hbefore k hk hlt
        · rw [fresh_append_of_ne hall] at h
          exact here h
    · rintro ⟨number, builds, hle, hlt, hpage, hb, hbefore⟩
      rw [listingFrom]
      rcases Nat.eq_or_lt_of_le hle with rfl | hgt
      · have hnil : builds ≠ [] := by
          rintro rfl
          simp [fresh] at hb
        simp only [hpage, if_neg hnil]
        by_cases hall : fresh watermark builds = builds
        · rw [fresh_append_of_eq hall]
          exact List.mem_append_left _ (by rwa [hall] at hb)
        · rw [fresh_append_of_ne hall]
          exact hb
      · obtain ⟨bs, hbs, hnil, hall⟩ := hbefore first (Nat.le_refl _) hgt
        simp only [hbs, if_neg hnil]
        rw [fresh_append_of_eq (fresh_eq_self_iff.2 hall)]
        exact List.mem_append_right _ (ih.2 ⟨number, builds, hgt, by omega, hpage, hb,
          fun k hk hlt => hbefore k (by omega) hlt⟩)

/-- The build stands on a page that a pass receives, in front of the first build there that is not
above the watermark. -/
def Examined (provider : Provider) (watermark : Nat) (b : Build) : Prop :=
  ∃ number before after, Received provider watermark number (before ++ b :: after) ∧
    ∀ c ∈ b :: before, watermark < c.number.toNat

theorem mem_fresh_iff {builds : List Build} {b : Build} :
    b ∈ fresh watermark builds ↔
      ∃ before after, builds = before ++ b :: after ∧
        ∀ c ∈ b :: before, watermark < c.number.toNat := by
  constructor
  · intro h
    obtain ⟨before, after, hsplit⟩ := List.append_of_mem h
    have hfront : before ++ b :: after <+: builds := hsplit ▸ List.takeWhile_prefix _
    obtain ⟨rest, rfl⟩ := hfront
    refine ⟨before, after ++ rest, by simp, fun c hc => ?_⟩
    have hmem : c ∈ before ++ b :: after := by
      rcases List.mem_cons.1 hc with rfl | hc
      · exact List.mem_append_right _ List.mem_cons_self
      · exact List.mem_append_left _ hc
    exact lt_of_mem_fresh (hsplit ▸ hmem)
  · rintro ⟨before, after, rfl, habove⟩
    have hsplit : before ++ b :: after = (before ++ [b]) ++ after := by simp
    have hfront : fresh watermark (before ++ [b]) = before ++ [b] := by
      refine fresh_eq_self_iff.2 fun c hc => habove c ?_
      simpa [or_comm] using hc
    rw [hsplit, fresh_append_of_eq hfront]
    simp

theorem mem_examined_iff {b : Build} :
    b ∈ examined provider watermark ↔ Examined provider watermark b := by
  rw [examined, listing, mem_fresh_listingFrom]
  constructor
  · rintro ⟨number, builds, hpos, hlt, hpage, hb, hbefore⟩
    obtain ⟨before, after, rfl, habove⟩ := mem_fresh_iff.1 hb
    exact ⟨number, before, after, ⟨hpos, by omega, hpage, hbefore⟩, habove⟩
  · rintro ⟨number, before, after, ⟨hpos, hle, hpage, hbefore⟩, habove⟩
    exact ⟨number, _, hpos, by omega, hpage, mem_fresh_iff.2 ⟨before, after, rfl, habove⟩, hbefore⟩

end Ingest

end BenchTracker
