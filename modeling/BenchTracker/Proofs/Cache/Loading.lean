import BenchTracker.Proofs.Cache.Saving
import BenchTracker.Proofs.Store.Lookup
import BenchTracker.Proofs.Text.Blank

/-!
# Loading what was saved

Loading depends on nothing but the texts of the two files, and a watermark and a store that were
saved are read as they were.
-/

namespace BenchTracker

namespace Cache

open Directory

variable {c : Cache} {d d' : Directory} {s seed : Store} {watermark explicit : Nat}

theorem readWatermark_of_read
    (h : d.read c.watermarkPath = .ok (Numeral.text watermark ++ "\n"))
    (hlimit : watermark < Numeral.limit64) : c.readWatermark d = .ok watermark := by
  have htrim : Text.trim (Numeral.text watermark ++ "\n").toList = Numeral.digits watermark := by
    have hlist : (Numeral.text watermark ++ "\n").toList = Numeral.digits watermark ++ ['\n'] := by
      simp [Numeral.text]
    rw [hlist]
    exact Text.trim_append_newline fun c hc =>
      Text.isBlank_of_isDigit (Numeral.isDigit_of_mem_digits hc)
  simp only [readWatermark, h, htrim, Numeral.read_digits hlimit]

theorem toOption_readSeries (c : Cache) (d : Directory) :
    (c.readSeries d).toOption =
      (d.text? c.seriesPath).bind fun text => (Store.read text).toOption := by
  unfold readSeries text?
  cases d.read c.seriesPath with
  | error fault => rfl
  | ok text =>
    simp only [Except.toOption, Option.bind_some]
    cases Store.read text <;> rfl

/-- What is read for series that were written. -/
theorem toOption_readSeries_of_read (h : d.read c.seriesPath = .ok s.toJson.pretty) :
    (c.readSeries d).toOption = s.reread := by
  rw [toOption_readSeries, text?_eq_some.2 h, Option.bind_some, s.toOption_read.2]

theorem readSeries_of_read (h : d.read c.seriesPath = .ok s.toJson.pretty)
    (hkeeps : ∀ y ∈ s.numbers, Keeps y) : c.readSeries d = .ok s := by
  refine toOption_eq_some.1 ((toOption_readSeries_of_read h).trans ?_)
  exact Store.reread_eq_self.2 fun y hy => (hkeeps y hy).reread_eq

theorem readWatermark_lt (h : c.readWatermark d = .ok watermark) :
    watermark < Numeral.limit64 := by
  unfold readWatermark at h
  split at h
  · cases h
  · split at h
    · cases h
    · cases h
      exact Numeral.read_lt (by decide) ‹_›

/-- The two files have the same texts in both trees, where they can be read at all. -/
structure SameFiles (c : Cache) (d d' : Directory) : Prop where
  series : d'.text? c.seriesPath = d.text? c.seriesPath
  watermark : d'.text? c.watermarkPath = d.text? c.watermarkPath

theorem SameFiles.refl (c : Cache) (d : Directory) : SameFiles c d d := ⟨rfl, rfl⟩

theorem SameFiles.symm (h : SameFiles c d d') : SameFiles c d' d :=
  ⟨h.series.symm, h.watermark.symm⟩

theorem SameFiles.trans {d'' : Directory} (h : SameFiles c d d') (h' : SameFiles c d' d'') :
    SameFiles c d d'' :=
  ⟨h'.series.trans h.series, h'.watermark.trans h.watermark⟩

/-- Two caches that hold the same are the same. -/
theorem Holds.sameFiles (h : c.Holds d s watermark) (h' : c.Holds d' s watermark) :
    SameFiles c d d' where
  series := by rw [text?_eq_some.2 h.series, text?_eq_some.2 h'.series]
  watermark := by rw [text?_eq_some.2 h.watermark, text?_eq_some.2 h'.watermark]

theorem SameFiles.holds (h : SameFiles c d d') (hholds : c.Holds d s watermark) :
    c.Holds d' s watermark := by
  refine ⟨text?_eq_some.1 ?_, text?_eq_some.1 ?_⟩
  · rw [h.series, text?_eq_some.2 hholds.series]
  · rw [h.watermark, text?_eq_some.2 hholds.watermark]

theorem toOption_readWatermark (c : Cache) (d : Directory) :
    (c.readWatermark d).toOption = (d.text? c.watermarkPath).bind fun text =>
      (Numeral.read Numeral.limit64 (Text.trim text.toList)).toOption := by
  unfold readWatermark text?
  cases d.read c.watermarkPath with
  | error fault => rfl
  | ok text =>
    simp only [Except.toOption, Option.bind_some]
    cases Numeral.read Numeral.limit64 (Text.trim text.toList) <;> rfl

theorem toOption_stored (c : Cache) (d : Directory) (explicit : Nat) :
    (c.stored d explicit).toOption =
      (if explicit = 0 then (c.readWatermark d).toOption else some explicit).bind fun watermark =>
        if watermark = 0 then some (0, none)
        else (c.readSeries d).toOption.map fun series => (watermark, some series) := by
  have hrest (w : Nat) : (if w = 0 then Except.ok (0, none) else do
      let series ← c.readSeries d
      .ok (w, some series)).toOption =
        if w = 0 then some (0, none)
        else (c.readSeries d).toOption.map fun series => (w, some series) := by
    split
    · rfl
    · cases c.readSeries d <;> rfl
  unfold stored
  split
  · cases c.readWatermark d with
    | error failure => rfl
    | ok w => exact hrest w
  · exact hrest explicit

theorem SameFiles.toOption_stored_eq (h : SameFiles c d d') (explicit : Nat) :
    (c.stored d' explicit).toOption = (c.stored d explicit).toOption := by
  simp only [toOption_stored, toOption_readSeries, toOption_readWatermark, h.series, h.watermark]

/-- Loading depends on the texts alone. Only the events tell more, such as whether there is a
watermark file at all. -/
theorem SameFiles.load_eq (h : SameFiles c d d') (explicit : Nat) (seed : Store) :
    (c.load d' explicit seed).watermark = (c.load d explicit seed).watermark ∧
      (c.load d' explicit seed).store = (c.load d explicit seed).store := by
  have hstored := h.toOption_stored_eq explicit
  unfold load
  cases hnew : c.stored d' explicit with
  | error failure =>
    cases hold : c.stored d explicit with
    | error failure => exact ⟨rfl, rfl⟩
    | ok p => simp [hnew, hold, Except.toOption] at hstored
  | ok p =>
    cases hold : c.stored d explicit with
    | error failure => simp [hnew, hold, Except.toOption] at hstored
    | ok q =>
      obtain rfl : p = q := by simpa [hnew, hold, Except.toOption] using hstored
      obtain ⟨w, series?⟩ := p
      cases series? <;> exact ⟨rfl, rfl⟩

/-- Readable series are loaded with the explicit watermark, or else with the stored one. -/
theorem load_of_readSeries (hseries : c.readSeries d = .ok s) (hpos : 0 < watermark)
    (hwatermark : explicit = 0 → c.readWatermark d = .ok watermark) (seed : Store) :
    (c.load d explicit seed).watermark = (if explicit = 0 then watermark else explicit) ∧
      (c.load d explicit seed).store = seed.merge s := by
  by_cases hexplicit : explicit = 0
  · have hstored : c.stored d explicit = .ok (watermark, some s) := by
      simp only [stored, if_pos hexplicit, hwatermark hexplicit, hseries, bind, Except.bind,
        if_neg (Nat.ne_of_gt hpos)]
    simp only [load, hstored, if_pos hexplicit, and_self]
  · have hstored : c.stored d explicit = .ok (explicit, some s) := by
      simp only [stored, if_neg hexplicit, hseries, bind, Except.bind]
    simp only [load, hstored, if_neg hexplicit, and_self]

/-- Where loading succeeds, nothing is stored for the watermark zero, and the series otherwise. -/
theorem stored_eq_ok {series? : Option Store}
    (h : c.stored d explicit = .ok (watermark, series?)) :
    (watermark = 0 ∧ series? = none) ∨
      ∃ s, c.readSeries d = .ok s ∧ series? = some s ∧
        (explicit = 0 → c.readWatermark d = .ok watermark) ∧
        (explicit ≠ 0 → watermark = explicit) := by
  have hrest {w : Nat} (hw : (if w = 0 then .ok (0, none) else do
      let series ← c.readSeries d
      .ok (w, some series)) = Except.ok (watermark, series?)) :
      (watermark = 0 ∧ series? = none) ∨
        ∃ s, c.readSeries d = .ok s ∧ series? = some s ∧ watermark = w := by
    split at hw
    · cases hw
      exact .inl ⟨rfl, rfl⟩
    · obtain ⟨s, hs, hw⟩ := bind_eq_ok.1 hw
      cases hw
      exact .inr ⟨s, hs, rfl, rfl⟩
  unfold stored at h
  by_cases hexplicit : explicit = 0
  · rw [if_pos hexplicit] at h
    obtain ⟨w, hread, h⟩ := bind_eq_ok.1 h
    rcases hrest h with hnone | ⟨s, hs, hseries, rfl⟩
    · exact .inl hnone
    · exact .inr ⟨s, hs, hseries, fun _ => hread, fun hne => absurd hexplicit hne⟩
  · rw [if_neg hexplicit] at h
    rcases hrest h with hnone | ⟨s, hs, hseries, hw⟩
    · exact .inl hnone
    · exact .inr ⟨s, hs, hseries, fun hzero => absurd hzero hexplicit, fun _ => hw⟩

/-- Either nothing is loaded and all builds are asked for, or the stored series are merged into the
store. -/
theorem load_cases (c : Cache) (d : Directory) (explicit : Nat) (seed : Store) :
    ((c.load d explicit seed).watermark = 0 ∧ (c.load d explicit seed).store = seed) ∨
      ∃ s, c.readSeries d = .ok s ∧ (c.load d explicit seed).store = seed.merge s ∧
        (explicit = 0 → c.readWatermark d = .ok (c.load d explicit seed).watermark) ∧
        (explicit ≠ 0 → (c.load d explicit seed).watermark = explicit) := by
  unfold load
  cases hstored : c.stored d explicit with
  | error failure => exact .inl ⟨rfl, rfl⟩
  | ok p =>
    obtain ⟨watermark, series?⟩ := p
    rcases stored_eq_ok hstored with ⟨rfl, rfl⟩ | ⟨s, hs, rfl, hzero, hne⟩
    · exact .inl ⟨rfl, rfl⟩
    · exact .inr ⟨s, hs, rfl, hzero, hne⟩

/-- Loading keeps all known steps. -/
theorem knows_load (c : Cache) (d : Directory) (explicit : Nat) {seed : Store} {step : String}
    (h : seed.knows step = true) : (c.load d explicit seed).store.knows step = true := by
  rcases load_cases c d explicit seed with ⟨-, hstore⟩ | ⟨s, -, hstore, -⟩
  · rw [hstore, h]
  · rw [hstore, Store.knows_merge, h, Bool.true_or]

end Cache

end BenchTracker
