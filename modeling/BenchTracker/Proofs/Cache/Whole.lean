import BenchTracker.Proofs.Cache.Loading
import BenchTracker.Proofs.Decimal.Digits
import BenchTracker.Proofs.Store.Document

/-!
# Loading as a whole

A cache is loaded as a whole or not at all. Whatever stands in its two files, either the store stays
as it was and all builds are asked for again, or there is a positive watermark and all steps of the
series file have come into the store.
-/

namespace BenchTracker

/-! ## Documents in a store -/

/-- The steps of a document have taken the place of those that a store had. Under each step stand
the devices of the document, and each of them has the first sample of each build. Where a step or a
device is repeated, the last one counts. -/
structure Document.Replaces (doc : Document) (seed s : Store) : Prop where
  kept : ∀ step, step ∉ doc.map Prod.fst → s.steps.get? step = seed.steps.get? step
  taken : ∀ step devices, Keyed.lookup step doc.reverse = some devices →
    ∃ table, s.steps.get? step = some table ∧
      ∀ device, (table.get? device).map Series.samples =
        (Keyed.lookup device devices.reverse).map (List.eraseDupsBy Series.sameBuild)

theorem Document.samples_devices (es : List (String × List Sample)) (device : String) :
    ((Document.devices es).get? device).map Series.samples =
      (Keyed.lookup device es.reverse).map (List.eraseDupsBy Series.sameBuild) := by
  rw [Document.devices, Keyed.get?_ofList, Keyed.lookup_reverse_map, Option.map_map]
  congr 1
  funext xs
  exact Series.samples_ofList xs

theorem Document.replaces_merge (doc : Document) (seed : Store) :
    doc.Replaces seed (seed.merge doc.store) := by
  have hget (step : String) : (seed.merge doc.store).steps.get? step =
      ((Keyed.lookup step doc.reverse).map Document.devices).or (seed.steps.get? step) := by
    rw [Store.get?_merge, Document.store, Keyed.get?_ofList, Keyed.lookup_reverse_map]
  refine ⟨fun step hstep => ?_, fun step es hes => ?_⟩
  · rw [hget]
    cases hes : Keyed.lookup step doc.reverse with
    | none => rfl
    | some es =>
      have hmem : (step, es) ∈ doc := List.mem_reverse.1 (Keyed.mem_of_lookup hes)
      exact absurd (List.mem_map_of_mem hmem) hstep
  · refine ⟨Document.devices es, ?_, Document.samples_devices es⟩
    rw [hget, hes]
    rfl

namespace Cache

variable {c : Cache} {d : Directory} {s : Store} {watermark explicit : Nat}

/-! ## What the files hold -/

/-- The series file is there, and its text is a document. -/
def HasDocument (c : Cache) (d : Directory) (doc : Document) : Prop :=
  ∃ text, d.read c.seriesPath = .ok text ∧ Document.read text = .ok doc

/-- The watermark file is there, and without the white space around it, its text spells the 64-bit
number. -/
def HasNumber (c : Cache) (d : Directory) (watermark : Nat) : Prop :=
  ∃ text numeral, d.read c.watermarkPath = .ok text ∧ Text.TrimsTo text.toList numeral ∧
    Numeral.Spells numeral watermark ∧ watermark < Numeral.limit64

theorem readSeries_eq_ok :
    c.readSeries d = .ok s ↔ ∃ doc, c.HasDocument d doc ∧ doc.store = s := by
  constructor
  · intro h
    unfold readSeries at h
    split at h
    · cases h
    · rename_i text htext
      rw [Store.read_eq_map] at h
      cases hdoc : Document.read text with
      | error fault => simp [hdoc, Except.map] at h
      | ok doc =>
        simp only [hdoc, Except.map, Except.ok.injEq] at h
        exact ⟨doc, ⟨text, htext, hdoc⟩, h⟩
  · rintro ⟨doc, ⟨text, htext, hdoc⟩, rfl⟩
    simp only [readSeries, htext, Store.read_eq_map, hdoc, Except.map]

theorem readWatermark_eq_ok : c.readWatermark d = .ok watermark ↔ c.HasNumber d watermark := by
  constructor
  · intro h
    unfold readWatermark at h
    split at h
    · cases h
    · rename_i text htext
      split at h
      · cases h
      · rename_i n hread
        obtain rfl : n = watermark := Except.ok.inj h
        obtain ⟨hspells, hlimit⟩ := (Numeral.read_eq_ok_iff_spells (by decide)).1 hread
        exact ⟨text, _, htext, Text.trimsTo_trim _, hspells, hlimit⟩
  · rintro ⟨text, numeral, htext, htrim, hspells, hlimit⟩
    have hread : Numeral.read Numeral.limit64 (Text.trim text.toList) = .ok watermark := by
      rw [Text.trim_eq_iff.2 htrim]
      exact (Numeral.read_eq_ok_iff_spells (by decide)).2 ⟨hspells, hlimit⟩
    simp only [readWatermark, htext, hread]

/-! ## What is loaded -/

/-- The watermark to start from: the explicit one, or else the stored one. -/
def Starts (c : Cache) (d : Directory) (explicit watermark : Nat) : Prop :=
  (explicit ≠ 0 → watermark = explicit) ∧ (explicit = 0 → c.HasNumber d watermark)

/-- Series that can be read are loaded with a positive watermark to start from. -/
theorem load_of_starts {doc : Document} (hdoc : c.HasDocument d doc) (hpos : 0 < watermark)
    (hstarts : c.Starts d explicit watermark) (seed : Store) :
    (c.load d explicit seed).watermark = watermark ∧
      (c.load d explicit seed).store = seed.merge doc.store := by
  have hseries : c.readSeries d = .ok doc.store := readSeries_eq_ok.2 ⟨doc, hdoc, rfl⟩
  obtain ⟨hexplicit, hstored⟩ := hstarts
  have hloaded := load_of_readSeries hseries hpos
    (fun hzero => readWatermark_eq_ok.2 (hstored hzero)) seed
  refine ⟨hloaded.1.trans ?_, hloaded.2⟩
  split
  · rfl
  · rename_i hne
    exact (hexplicit hne).symm

/-- What is loaded with a positive watermark was read. -/
theorem exists_document_of_load {seed : Store} (hpos : 0 < (c.load d explicit seed).watermark) :
    c.Starts d explicit (c.load d explicit seed).watermark ∧
      ∃ doc, c.HasDocument d doc ∧ (c.load d explicit seed).store = seed.merge doc.store := by
  rcases load_cases c d explicit seed with ⟨hzero, -⟩ | ⟨s, hseries, hstore, hzero, hne⟩
  · omega
  · obtain ⟨doc, hdoc, rfl⟩ := readSeries_eq_ok.1 hseries
    exact ⟨⟨hne, fun h => readWatermark_eq_ok.1 (hzero h)⟩, doc, hdoc, hstore⟩

theorem pos_of_stored (h : c.stored d explicit = .ok (watermark, some s)) : 0 < watermark := by
  have hoption := congrArg Except.toOption h
  rw [toOption_stored] at hoption
  obtain ⟨w, -, hw⟩ := Option.bind_eq_some_iff.1 hoption
  split at hw
  · cases hw
  · obtain ⟨series, -, hloaded⟩ := Option.map_eq_some_iff.1 hw
    cases hloaded
    omega

/-- With the watermark zero nothing is loaded. -/
theorem store_of_load_eq_zero {seed : Store} (hzero : (c.load d explicit seed).watermark = 0) :
    (c.load d explicit seed).store = seed := by
  unfold load at hzero ⊢
  cases hstored : c.stored d explicit with
  | error failure => rfl
  | ok p =>
    obtain ⟨w, series?⟩ := p
    cases series? with
    | none => rfl
    | some s =>
      have hpos := pos_of_stored hstored
      simp only [hstored] at hzero
      omega

theorem load_eq_zero_iff (c : Cache) (d : Directory) (explicit : Nat) (seed : Store) :
    (c.load d explicit seed).watermark = 0 ↔ (∀ doc, ¬ c.HasDocument d doc) ∨
      explicit = 0 ∧ ∀ watermark, 0 < watermark → ¬ c.HasNumber d watermark := by
  constructor
  · intro hzero
    by_contra hnot
    simp only [not_or, not_and, not_forall, not_not] at hnot
    obtain ⟨⟨doc, hdoc⟩, hstart⟩ := hnot
    have hstarts : ∃ watermark, 0 < watermark ∧ c.Starts d explicit watermark := by
      by_cases hexplicit : explicit = 0
      · obtain ⟨watermark, hpos, hnumber⟩ := hstart hexplicit
        exact ⟨watermark, hpos, fun hne => absurd hexplicit hne, fun _ => hnumber⟩
      · exact ⟨explicit, Nat.pos_of_ne_zero hexplicit, fun _ => rfl,
          fun h => absurd h hexplicit⟩
    obtain ⟨watermark, hpos, hstarts⟩ := hstarts
    have hloaded := (load_of_starts hdoc hpos hstarts seed).1
    omega
  · intro h
    by_contra hne
    obtain ⟨⟨-, hnumber⟩, doc, hdoc, -⟩ :=
      exists_document_of_load (Nat.pos_of_ne_zero hne)
    rcases h with hnone | ⟨hexplicit, hnone⟩
    · exact hnone doc hdoc
    · exact hnone _ (Nat.pos_of_ne_zero hne) (hnumber hexplicit)

/-- Either nothing is loaded, or a positive watermark with all steps of the series file. -/
theorem load_whole_or_nothing (c : Cache) (d : Directory) (explicit : Nat) (seed : Store) :
    let loaded := c.load d explicit seed
    (loaded.watermark = 0 → loaded.store = seed) ∧
    (0 < loaded.watermark →
      (explicit ≠ 0 → loaded.watermark = explicit) ∧
      (explicit = 0 → c.HasNumber d loaded.watermark) ∧
      ∃ doc, c.HasDocument d doc ∧ doc.Replaces seed loaded.store) ∧
    (loaded.watermark = 0 ↔ (∀ doc, ¬ c.HasDocument d doc) ∨
      explicit = 0 ∧ ∀ watermark, 0 < watermark → ¬ c.HasNumber d watermark) := by
  intro loaded
  refine ⟨store_of_load_eq_zero, fun hpos => ?_, load_eq_zero_iff c d explicit seed⟩
  obtain ⟨⟨hexplicit, hnumber⟩, doc, hdoc, hstore⟩ := exists_document_of_load hpos
  refine ⟨hexplicit, hnumber, doc, hdoc, ?_⟩
  have hmerged : loaded.store = seed.merge doc.store := hstore
  rw [hmerged]
  exact doc.replaces_merge seed

/-- The watermark has white space and a sign, the file repeats a build and a device, and the store
has another device of the step. -/
theorem load_whole_or_nothing_repeated :
    let c : Cache := ⟨"data", ⟨4, 4, 4⟩⟩
    let d : Directory := ⟨[(["data"], .folder),
      (["buildkite-4x4x4.last", "data"], .file " +9\n"),
      (["buildkite-4x4x4.json", "data"], .file "\x7b\"perf\":\x7b\"P100\":[],\"P100\":[
        [[1.5,1],[0.0,0],[0.0,0],2.5,7],[[3.5,1],[0.0,0],[0.0,0],4.5,7]]\x7d\x7d")], []⟩
    let seed := Store.empty.append "perf" "4090" ⟨.none, .none, .none, 2.5, 8⟩
    let loaded := c.load d 0 seed
    loaded.watermark = 9 ∧ c.HasNumber d 9 ∧
      ∃ doc, c.HasDocument d doc ∧ doc.Replaces seed loaded.store := by
  intro c d seed loaded
  have hwatermark : loaded.watermark = 9 := by decide +kernel
  have hpos : 0 < loaded.watermark := by omega
  obtain ⟨-, hwhole, -⟩ := load_whole_or_nothing c d 0 seed
  obtain ⟨-, hnumber, hdocument⟩ := hwhole hpos
  have hnine : c.HasNumber d 9 := hwatermark ▸ hnumber rfl
  exact ⟨hwatermark, hnine, hdocument⟩

end Cache

end BenchTracker
