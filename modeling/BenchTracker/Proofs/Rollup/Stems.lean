import BenchTracker.Proofs.Rollup.Drawing

/-!
# Stems that are shared

A stem joins the name of a device and the properties of a step by a hyphen, with the letters made
small and the marks left out that no file name should have. So names that are different may come to
the same stem, and a hyphen inside a name may pass for the one that joins. Each device and
properties have charts of their own if and only if none of this happens among the names at hand.
-/

namespace BenchTracker

variable {p : Parameters} {intensity : Float} {peaks : PeakTable} {s : Store}
  {devices : List String} {device device' props props' : String}

/-- Lists with a mark between their parts agree in the parts, or one of them has the mark in a part
where the other one has it between its parts. -/
theorem append_cons_eq_append_cons {α : Type} {a b x y : List α} {c : α} :
    a ++ c :: x = b ++ c :: y ↔ a = b ∧ x = y ∨
      (∃ mid, b = a ++ c :: mid ∧ x = mid ++ c :: y) ∨
        ∃ mid, a = b ++ c :: mid ∧ y = mid ++ c :: x := by
  constructor
  · intro h
    rcases List.append_eq_append_iff.1 h with ⟨mid, hb, hx⟩ | ⟨mid, ha, hy⟩
    · cases mid with
      | nil => exact .inl ⟨by simpa using hb.symm, by simpa using hx⟩
      | cons first mid =>
        obtain ⟨rfl, hrest⟩ := List.cons.inj hx
        exact .inr (.inl ⟨mid, hb, hrest⟩)
    · cases mid with
      | nil => exact .inl ⟨by simpa using ha, by simpa using hy.symm⟩
      | cons first mid =>
        obtain ⟨rfl, hrest⟩ := List.cons.inj hy
        exact .inr (.inr ⟨mid, ha, hrest⟩)
  · rintro (⟨rfl, rfl⟩ | ⟨mid, rfl, rfl⟩ | ⟨mid, rfl, rfl⟩)
    · rfl
    · rw [List.append_assoc, List.cons_append]
    · rw [List.append_assoc, List.cons_append]

/-! ## Stems -/

/-- What is left of properties in a file name. -/
def Caption.fileForm (props : String) : List Char :=
  Unicode.toLower (fileProps props.toList)

/-- How names and properties come to the same stem. -/
inductive SharesStem (device props device' props' : String) : Prop where
  | same (hdevice : Unicode.toLower device.toList = Unicode.toLower device'.toList)
      (hprops : Caption.fileForm props = Caption.fileForm props')
  /-- The second name goes on with a hyphen where the first one ends. -/
  | longer (mid : List Char)
      (hdevice : Unicode.toLower device'.toList = Unicode.toLower device.toList ++ '-' :: mid)
      (hprops : Caption.fileForm props = mid ++ '-' :: Caption.fileForm props')
  /-- The first name goes on with a hyphen where the second one ends. -/
  | shorter (mid : List Char)
      (hdevice : Unicode.toLower device.toList = Unicode.toLower device'.toList ++ '-' :: mid)
      (hprops : Caption.fileForm props' = mid ++ '-' :: Caption.fileForm props)

theorem toList_chartStem (device props : String) : (chartStem device props).toList =
    "buildkite-".toList ++ (Unicode.toLower device.toList ++ '-' :: Caption.fileForm props) := by
  simp only [chartStem, String.append_assoc, String.toList_append, String.toList_ofList]
  rfl

theorem chartStem_eq_iff :
    chartStem device props = chartStem device' props' ↔
      SharesStem device props device' props' := by
  rw [← String.toList_inj, toList_chartStem, toList_chartStem, List.append_cancel_left_eq,
    append_cons_eq_append_cons]
  constructor
  · rintro (⟨hdevice, hprops⟩ | ⟨mid, hdevice, hprops⟩ | ⟨mid, hdevice, hprops⟩)
    · exact .same hdevice hprops
    · exact .longer mid hdevice hprops
    · exact .shorter mid hdevice hprops
  · intro h
    cases h with
    | same hdevice hprops => exact .inl ⟨hdevice, hprops⟩
    | longer mid hdevice hprops => exact .inr (.inl ⟨mid, hdevice, hprops⟩)
    | shorter mid hdevice hprops => exact .inr (.inr ⟨mid, hdevice, hprops⟩)

/-! ## Charts of their own -/

namespace Rollup

variable {r r' : DeviceRollup}

/-- Each chart has a stem of its own, and its lines come from steps with the same properties. -/
structure OwnCharts (r : Rollup) : Prop where
  stem : ((r.devices.flatMap (·.charts)).map (·.stem)).Nodup
  props : ∀ d ∈ r.devices, ∀ c ∈ d.charts, ∀ t ∈ d.stepsOf c, ∀ t' ∈ d.stepsOf c,
    t.caption.props = t'.caption.props

/-- No stem is shared among the devices that can be compared and the steps of a store. -/
def ToldApart (peaks : PeakTable) (s : Store) (devices : List String) : Prop :=
  ∀ device ∈ devices, ∀ device' ∈ devices,
    DeviceRollup.Comparable peaks s device → DeviceRollup.Comparable peaks s device' →
      ∀ step step', s.knows step = true → s.knows step' = true →
        SharesStem device (Caption.ofStep step).props device' (Caption.ofStep step').props →
          device = device' ∧ (Caption.ofStep step).props = (Caption.ofStep step').props

/-- Each known step is among those of a device that is shown. -/
theorem exists_step_of_knows (h : r ∈ (ofStore p intensity peaks s devices).devices)
    {step : String} (hstep : s.knows step = true) :
    ∃ t ∈ r.steps, t.caption = .ofStep step := by
  obtain ⟨peak, minlen, longest, -, hcharted⟩ := DeviceRollup.charted_of_mem h
  have hmem : step ∈ r.steps.map (·.step) := by
    rw [hcharted.map_step]
    exact Store.mem_stepNames.2 hstep
  obtain ⟨t, ht, rfl⟩ := List.mem_map.1 hmem
  exact ⟨t, ht, hcharted.caption_of_mem ht⟩

theorem caption_of_mem (h : r ∈ (ofStore p intensity peaks s devices).devices)
    {t : StepRollup} (ht : t ∈ r.steps) :
    ∃ step, s.knows step = true ∧ t.caption = .ofStep step := by
  obtain ⟨peak, minlen, longest, -, hcharted⟩ := DeviceRollup.charted_of_mem h
  have hmem : t.step ∈ s.stepNames := by
    rw [← hcharted.map_step]
    exact List.mem_map_of_mem ht
  exact ⟨t.step, Store.mem_stepNames.1 hmem, hcharted.caption_of_mem ht⟩

theorem ToldApart.eq_of_stem (htold : ToldApart peaks s devices)
    (h : r ∈ (ofStore p intensity peaks s devices).devices)
    (h' : r' ∈ (ofStore p intensity peaks s devices).devices) {t t' : StepRollup}
    (ht : t ∈ r.steps) (ht' : t' ∈ r'.steps)
    (hstem : chartStem r.device t.caption.props = chartStem r'.device t'.caption.props) :
    r.device = r'.device ∧ t.caption.props = t'.caption.props := by
  obtain ⟨hlisted, hcomparable⟩ := mem_map_device_iff.1 (List.mem_map_of_mem h)
  obtain ⟨hlisted', hcomparable'⟩ := mem_map_device_iff.1 (List.mem_map_of_mem h')
  obtain ⟨step, hstep, hcaption⟩ := caption_of_mem h ht
  obtain ⟨step', hstep', hcaption'⟩ := caption_of_mem h' ht'
  rw [hcaption, hcaption'] at hstem ⊢
  exact htold _ hlisted _ hlisted' hcomparable hcomparable' step step' hstep hstep'
    (chartStem_eq_iff.1 hstem)

theorem ToldApart.ownCharts (htold : ToldApart peaks s devices) :
    (ofStore p intensity peaks s devices).OwnCharts where
  stem := by
    rw [List.map_flatMap, List.nodup_flatMap]
    constructor
    · intro r hr
      rw [DeviceRollup.map_stem_of_mem hr]
      exact nodup_distinct _
    · refine (List.pairwise_map.1 (nodup_map_device devices)).imp_of_mem ?_
      intro r r' hr hr' hne stem hstem hstem'
      obtain ⟨t, ht, rfl⟩ := (DeviceRollup.mem_map_stem_iff hr).1 hstem
      obtain ⟨t', ht', heq⟩ := (DeviceRollup.mem_map_stem_iff hr').1 hstem'
      exact hne (htold.eq_of_stem hr hr' ht ht' heq.symm).1
  props := by
    intro r hr c hc t ht t' ht'
    obtain ⟨ht, hstem⟩ := DeviceRollup.mem_stepsOf.1 ht
    obtain ⟨ht', hstem'⟩ := DeviceRollup.mem_stepsOf.1 ht'
    exact (htold.eq_of_stem hr hr ht ht' (hstem.trans hstem'.symm)).2

/-- A stem that occurs once stands for one device. -/
theorem OwnCharts.eq_of_stem {rollup : Rollup} (hown : rollup.OwnCharts) {d d' : DeviceRollup}
    (hd : d ∈ rollup.devices) (hd' : d' ∈ rollup.devices) {stem : String}
    (hstem : stem ∈ d.charts.map (·.stem)) (hstem' : stem ∈ d'.charts.map (·.stem)) :
    d = d' := by
  by_contra hne
  have hnodup := hown.stem
  rw [List.map_flatMap, List.nodup_flatMap] at hnodup
  have hsymm : Std.Symm (Function.onFun List.Disjoint fun d : DeviceRollup =>
      d.charts.map (·.stem)) := ⟨fun _ _ h => h.symm⟩
  exact hnodup.2.forall hd hd' hne hstem hstem'

theorem OwnCharts.toldApart (hown : (ofStore p intensity peaks s devices).OwnCharts) :
    ToldApart peaks s devices := by
  intro device hlisted device' hlisted' hcomparable hcomparable' step step' hstep hstep' hshares
  have hshown {device : String} (hlisted : device ∈ devices)
      (hcomparable : DeviceRollup.Comparable peaks s device) :
      ∃ r ∈ (ofStore p intensity peaks s devices).devices, r.device = device :=
    List.mem_map.1 (mem_map_device_iff.2 ⟨hlisted, hcomparable⟩)
  obtain ⟨r, hr, rfl⟩ := hshown hlisted hcomparable
  obtain ⟨r', hr', rfl⟩ := hshown hlisted' hcomparable'
  obtain ⟨t, ht, hcaption⟩ := exists_step_of_knows hr hstep
  obtain ⟨t', ht', hcaption'⟩ := exists_step_of_knows hr' hstep'
  have hstem : chartStem r.device t.caption.props = chartStem r'.device t'.caption.props := by
    rw [hcaption, hcaption']
    exact chartStem_eq_iff.2 hshares
  have hmem := (DeviceRollup.mem_map_stem_iff hr).2 ⟨t, ht, rfl⟩
  obtain rfl : r = r' := by
    apply hown.eq_of_stem hr hr' hmem
    exact (DeviceRollup.mem_map_stem_iff hr').2 ⟨t', ht', hstem.symm⟩
  obtain ⟨c, hc, hstemc⟩ := List.mem_map.1 hmem
  have hprops : t.caption.props = t'.caption.props := by
    apply hown.props r hr c hc
    · exact DeviceRollup.mem_stepsOf.2 ⟨ht, hstemc.symm⟩
    · exact DeviceRollup.mem_stepsOf.2 ⟨ht', hstem.symm.trans hstemc.symm⟩
  rw [hcaption, hcaption'] at hprops
  exact ⟨rfl, hprops⟩

end Rollup

end BenchTracker
