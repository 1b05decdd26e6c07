import BenchTracker.Proofs.Json.Shape
import BenchTracker.Proofs.Keyed.Traverse
import BenchTracker.Proofs.Series.Lookup
import BenchTracker.Store.Json

/-!
# Stores that are read back

What is read for a written store, in any layout and with any names, comes from what is read for its
doubles. If nothing is read for one of them, as for one that is not finite, then nothing is read at
all. Otherwise the store is read with all steps, devices and builds, and it is the same store if
each double reads back as itself.
-/

namespace BenchTracker

open Json Json.Reader

/-- The double is finite and reads back as itself. -/
def Keeps (y : Float) : Prop := Double.isFinite y = true ∧ ReadsBack y

theorem keeps_of_isFinite {ys : List Float} (hfinite : ∀ y ∈ ys, Double.isFinite y = true)
    (hreads : ∀ y ∈ ys, Double.isFinite y = true → ReadsBack y) : ∀ y ∈ ys, Keeps y :=
  fun y hy => ⟨hfinite y hy, hreads y hy (hfinite y hy)⟩

theorem Keeps.reread_eq {y : Float} (h : Keeps y) : Json.reread y = some y := readsBack_iff.1 h.2

/-! ## The doubles of a store -/

/-- The doubles of a sample. -/
def Sample.numbers (x : Sample) : List Float :=
  [x.small.geomean, x.medium.geomean, x.large.geomean, x.focus]

def Series.numbers (s : Series) : List Float := s.samples.flatMap Sample.numbers

/-- The doubles of all samples. -/
def Store.numbers (s : Store) : List Float :=
  s.steps.values.flatMap fun devices => devices.values.flatMap Series.numbers

/-! ## What is read for them -/

/-- What is read for the mean of a bucket, with its count. -/
def Bucket.reread (b : Bucket) : Option Bucket :=
  (Json.reread b.geomean).map fun y => ⟨y, b.count⟩

/-- What is read for the doubles of a sample, with its counts and its build. -/
def Sample.reread (x : Sample) : Option Sample := do
  let small ← x.small.reread
  let medium ← x.medium.reread
  let large ← x.large.reread
  let focus ← Json.reread x.focus
  some ⟨small, medium, large, focus, x.build⟩

def Series.reread (s : Series) : Option Series := (s.samples.mapM Sample.reread).map ofList

/-- What is read for the doubles of a store, with its steps, devices and builds. -/
def Store.reread (s : Store) : Option Store :=
  (s.steps.traverse (Keyed.traverse Series.reread)).map Store.mk

theorem Bucket.reread_eq_self {b : Bucket} :
    b.reread = some b ↔ Json.reread b.geomean = some b.geomean := by
  obtain ⟨geomean, count⟩ := b
  cases h : Json.reread geomean <;> simp [reread, h]

theorem Bucket.reread_eq_none {b : Bucket} :
    b.reread = .none ↔ Json.reread b.geomean = .none := by
  rw [reread, Option.map_eq_none_iff]

theorem Sample.build_of_reread {x y : Sample} (h : x.reread = some y) : y.build = x.build := by
  simp only [reread, Option.bind_eq_bind, Option.bind_eq_some_iff] at h
  obtain ⟨_, _, _, _, _, _, _, _, h⟩ := h
  cases h
  rfl

theorem Sample.reread_eq_self {x : Sample} :
    x.reread = some x ↔ ∀ y ∈ x.numbers, Json.reread y = some y := by
  obtain ⟨small, medium, large, focus, build⟩ := x
  simp only [reread, numbers, Option.bind_eq_bind, Option.bind_eq_some_iff, Option.some.injEq,
    Sample.mk.injEq, List.forall_mem_cons, ← Bucket.reread_eq_self]
  grind

theorem Sample.reread_eq_none {x : Sample} :
    x.reread = none ↔ ∃ y ∈ x.numbers, Json.reread y = none := by
  simp only [reread, numbers, Option.bind_eq_bind, List.exists_mem_cons_iff,
    ← Bucket.reread_eq_none]
  cases x.small.reread <;> cases x.medium.reread <;> cases x.large.reread <;>
    cases Json.reread x.focus <;> simp

/-- The builds stay. -/
theorem Series.samples_of_reread {s : Series} {ys : List Sample}
    (h : s.samples.mapM Sample.reread = some ys) : (ofList ys).samples = ys := by
  have hbuilds : ys.map Sample.build = s.samples.map Sample.build :=
    map_eq_of_mapM h fun _ _ => Sample.build_of_reread
  have hunique : (ys.map Sample.build).Nodup := hbuilds ▸ s.unique
  exact samples_foldl_append (s := empty) hunique

theorem Series.reread_eq_self {s : Series} :
    s.reread = some s ↔ ∀ y ∈ s.numbers, Json.reread y = some y := by
  have hself : s.reread = some s ↔ s.samples.mapM Sample.reread = some s.samples := by
    constructor
    · intro h
      obtain ⟨ys, hys, heq⟩ := Option.map_eq_some_iff.1 h
      rw [hys, ← heq, samples_of_reread hys]
    · intro h
      rw [reread, h, Option.map_some, ofList_samples]
  rw [hself, mapM_eq_self, numbers, List.forall_mem_flatMap]
  exact forall₂_congr fun x _ => Sample.reread_eq_self

theorem Series.reread_eq_none {s : Series} :
    s.reread = none ↔ ∃ y ∈ s.numbers, Json.reread y = none := by
  rw [reread, Option.map_eq_none_iff, mapM_eq_none, numbers]
  simp only [Sample.reread_eq_none, List.mem_flatMap]
  grind

/-- A store is read for itself exactly if each of its doubles is. -/
theorem Store.reread_eq_self {s : Store} :
    s.reread = some s ↔ ∀ y ∈ s.numbers, Json.reread y = some y := by
  have hself : s.reread = some s ↔
      s.steps.traverse (Keyed.traverse Series.reread) = some s.steps := by
    rw [reread, Option.map_eq_some_iff]
    constructor
    · rintro ⟨steps, hsteps, rfl⟩
      exact hsteps
    · exact fun h => ⟨s.steps, h, rfl⟩
  rw [hself, Keyed.traverse_eq_self, numbers, List.forall_mem_flatMap]
  refine forall₂_congr fun devices _ => ?_
  rw [Keyed.traverse_eq_self, List.forall_mem_flatMap]
  exact forall₂_congr fun series _ => Series.reread_eq_self

/-- Nothing is read for a store exactly if nothing is read for one of its doubles. -/
theorem Store.reread_eq_none {s : Store} :
    s.reread = none ↔ ∃ y ∈ s.numbers, Json.reread y = none := by
  rw [reread, Option.map_eq_none_iff, Keyed.traverse_eq_none, numbers]
  simp only [Keyed.traverse_eq_none, Series.reread_eq_none, List.mem_flatMap]
  grind

/-- The steps stay. -/
theorem Store.knows_of_reread {s t : Store} (h : s.reread = some t) (step : String) :
    t.knows step = s.knows step := by
  obtain ⟨steps, hsteps, rfl⟩ := Option.map_eq_some_iff.1 h
  exact Keyed.contains_of_traverse hsteps step

/-! ## Reading written samples -/

variable {layout : Layout}

theorem Bucket.reads (hlayout : layout.IsBlank) (b : Bucket) (depth : Nat) :
    Reads Bucket.reader (write layout depth b.toJson) b.reread := by
  have hgeomean : Reads real (write layout (depth + 1) (.real b.geomean)) (Json.reread b.geomean) :=
    reads_real b.geomean
  have hcount : Reads (natural (1 <<< 32)) (write layout (depth + 1) (.integer b.count.toNat))
      (some b.count.toNat) := reads_of_takes (takes_natural b.count.toNat_lt (by decide))
  refine reads_between (b := .square) (hlayout.lineStart depth) depth fun r => ?_
  simp only [writeItems, toOption_bind, toOption_element_first hlayout hgeomean,
    toOption_element_behind hlayout hcount, Option.bind_map, Option.map_some, Option.bind_some,
    Function.comp_def, UInt32.ofNat_toNat]
  rw [reread]
  cases Json.reread b.geomean <;> rfl

theorem Sample.reads (hlayout : layout.IsBlank) (x : Sample) (depth : Nat) :
    Reads Sample.reader (write layout depth x.toJson) x.reread := by
  have hsmall := x.small.reads hlayout (depth + 1)
  have hmedium := x.medium.reads hlayout (depth + 1)
  have hlarge := x.large.reads hlayout (depth + 1)
  have hfocus : Reads real (write layout (depth + 1) (.real x.focus)) (Json.reread x.focus) :=
    reads_real x.focus
  have hbuild : Reads (natural Numeral.limit64)
      (write layout (depth + 1) (.integer x.build.toNat)) (some x.build.toNat) :=
    reads_of_takes (takes_natural x.build.toNat_lt (Nat.le_refl _))
  refine reads_between (b := .square) (hlayout.lineStart depth) depth fun r => ?_
  simp only [writeItems, toOption_bind, toOption_element_first hlayout hsmall,
    toOption_element_behind hlayout hmedium, toOption_element_behind hlayout hlarge,
    toOption_element_behind hlayout hfocus, toOption_element_behind hlayout hbuild,
    Option.bind_map, Option.map_some, Option.bind_some, Function.comp_def, UInt64.ofNat_toNat,
    reread, Option.bind_eq_bind, Option.map_bind]
  rfl

/-! ## Reading written series and stores -/

theorem Series.reads (hlayout : layout.IsBlank) (s : Series) (depth : Nat) :
    Reads Series.reader (write layout depth s.toJson) s.reread := by
  have hitems (x : Sample) (_ : x ∈ s.samples) :
      Reads Sample.reader (write layout (depth + 1) x.toJson) x.reread :=
    x.reads hlayout (depth + 1)
  rw [toJson, write, writeItems_map]
  exact (reads_between_items (b := .square) hlayout hitems depth).map ofList

theorem Series.skipsGap_reader : SkipsGap Series.reader :=
  (skipsGap_between .square _).map ofList

theorem Store.reads_devices (hlayout : layout.IsBlank) (devices : DeviceSeries) (depth : Nat) :
    Reads Store.devicesReader
      (write layout depth (.object (devices.toList.map fun e => (e.1, e.2.toJson))))
      (devices.traverse Series.reread) := by
  have hitems (e : String × Series) (_ : e ∈ devices.entries) :
      Reads (field Series.reader)
        (writeText e.1 ++ ':' :: (layout.gap ++ write layout (depth + 1) e.2.toJson))
        (e.2.reread.map fun s => (e.1, s)) :=
    reads_field (e.2.reads hlayout (depth + 1)) Series.skipsGap_reader hlayout e.1
  rw [write, Keyed.toList, writeFields_map layout (depth + 1) Series.toJson]
  exact (reads_between_items (b := .curly) hlayout hitems depth).map Keyed.ofList

theorem Store.skipsGap_devicesReader : SkipsGap Store.devicesReader :=
  (skipsGap_between .curly _).map Keyed.ofList

theorem Store.reads (hlayout : layout.IsBlank) (s : Store) (depth : Nat) :
    Reads Store.reader (write layout depth s.toJson) s.reread := by
  let written (devices : DeviceSeries) : Json :=
    .object (devices.toList.map fun e => (e.1, e.2.toJson))
  have hitems (e : String × DeviceSeries) (_ : e ∈ s.steps.entries) :
      Reads (field Store.devicesReader)
        (writeText e.1 ++ ':' :: (layout.gap ++ write layout (depth + 1) (written e.2)))
        ((e.2.traverse Series.reread).map fun devices => (e.1, devices)) :=
    reads_field (Store.reads_devices hlayout e.2 (depth + 1)) Store.skipsGap_devicesReader
      hlayout e.1
  have hfields := writeFields_map layout (depth + 1) written s.steps.entries
  have hreads := (reads_between_items (b := .curly) hlayout hitems depth).map
    fun es => (⟨Keyed.ofList es⟩ : Store)
  rw [toJson, write, Keyed.toList, hfields, reread, Keyed.traverse, Option.map_map]
  exact hreads

/-- What is read for a written store, in either layout. -/
theorem Store.toOption_read (s : Store) :
    (Store.read s.toJson.compact).toOption = s.reread ∧
      (Store.read s.toJson.pretty).toOption = s.reread :=
  ⟨toOption_readAll (s.reads Layout.isBlank_compact 0),
    toOption_readAll (s.reads Layout.isBlank_pretty 0)⟩

theorem Store.read_of_keeps (s : Store) (h : ∀ y ∈ s.numbers, Keeps y) :
    Store.read s.toJson.compact = .ok s ∧ Store.read s.toJson.pretty = .ok s := by
  have hself : s.reread = some s := reread_eq_self.2 fun y hy => (h y hy).reread_eq
  obtain ⟨hcompact, hpretty⟩ := s.toOption_read
  rw [hself] at hcompact hpretty
  exact ⟨toOption_eq_some.1 hcompact, toOption_eq_some.1 hpretty⟩

/-- A store is read back from the compact text and from the pretty one. It is assumed that each of
its doubles reads back as itself. -/
theorem Store.read_toJson (s : Store) (hfinite : ∀ y ∈ s.numbers, Double.isFinite y = true)
    (hreads : ∀ y ∈ s.numbers, Double.isFinite y = true → ReadsBack y) :
    Store.read s.toJson.compact = .ok s ∧ Store.read s.toJson.pretty = .ok s :=
  s.read_of_keeps (keeps_of_isFinite hfinite hreads)

/-- Names with quotes, control characters and none at all, and the greatest numbers. -/
theorem Store.read_toJson_odd_names :
    let x : Sample := ⟨⟨12.5, 4294967295⟩, .none, ⟨0.1, 1⟩, 1e-9, 18446744073709551615⟩
    let s := ((Store.empty.register "").ensure "\"\\\n\x01" "").append "perf" "µ" x
    Store.read s.toJson.compact = .ok s ∧ Store.read s.toJson.pretty = .ok s :=
  Store.read_toJson _ (by decide +kernel) (by decide +kernel)

end BenchTracker
