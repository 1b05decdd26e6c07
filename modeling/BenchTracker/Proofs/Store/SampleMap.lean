import BenchTracker.Proofs.Store.Document
import BenchTracker.Proofs.Store.Lookup

/-!
# What a store stands for

A store stands for a map from steps to devices to builds to samples. The order of the samples does
not show in the map. Each operation on stores comes to an operation on maps that does not know of
lists or an index.
-/

namespace BenchTracker

/-- The samples of one series by build. -/
abbrev BuildMap := UInt64 → Option Sample

/-- The samples of one step by device and build. -/
abbrev DeviceMap := String → Option BuildMap

/-- The known steps with their samples by device and build. -/
abbrev SampleMap := String → Option DeviceMap

namespace SampleMap

def empty : SampleMap := fun _ => none

/-- The sample of a step, device and build. -/
def sample? (m : SampleMap) (step device : String) (build : UInt64) : Option Sample :=
  ((m step).bind fun devices => devices device).bind fun samples => samples build

/-- The devices of a step, none if it is not known. -/
def devices (m : SampleMap) (step : String) : DeviceMap := (m step).getD fun _ => none

/-- Makes a step known. -/
def register (m : SampleMap) (step : String) : SampleMap :=
  Function.update m step (some (m.devices step))

/-- Changes the samples of a device, of which there are none at first. -/
def alterDevice (devices : DeviceMap) (device : String) (f : BuildMap → BuildMap) : DeviceMap :=
  Function.update devices device (some (f ((devices device).getD fun _ => none)))

/-- Changes the samples of a step and device, of which there are none at first. -/
def alter (m : SampleMap) (step device : String) (f : BuildMap → BuildMap) : SampleMap :=
  Function.update m step (some (alterDevice (m.devices step) device f))

def ensure (m : SampleMap) (step device : String) : SampleMap := m.alter step device id

/-- Puts a sample in, unless there is one of its build. -/
def append (m : SampleMap) (step device : String) (x : Sample) : SampleMap :=
  m.alter step device fun samples build =>
    (samples build).or (if x.build = build then some x else none)

/-- Takes the steps of another map over, with all their devices. -/
def merge (m other : SampleMap) : SampleMap := fun step => (other step).or (m step)

/-- Leaves the samples that `keep` accepts; all steps and devices stay. -/
def filter (keep : String → Sample → Bool) (m : SampleMap) : SampleMap := fun step =>
  (m step).map fun devices device =>
    (devices device).map fun samples build => (samples build).filter (keep device)

theorem sample?_filter (keep : String → Sample → Bool) (m : SampleMap) (step device : String)
    (build : UInt64) :
    (m.filter keep).sample? step device build =
      (m.sample? step device build).filter (keep device) := by
  simp only [sample?, filter]
  cases m step with
  | none => rfl
  | some devices =>
    simp only [Option.map_some, Option.bind_some]
    cases devices device <;> rfl

/-- The map of a document: of steps and devices that stand there twice the last one counts, and of
samples of one build the first one. -/
def ofDocument (d : Document) : SampleMap := fun step =>
  (Keyed.lookup step d.reverse).map fun devices device =>
    (Keyed.lookup device devices.reverse).map fun xs build => xs.find? fun x => x.build == build

/-- Where there are samples, even if none for any build, nothing changes. -/
theorem alter_id {m : SampleMap} {step device : String} {devices : DeviceMap} {samples : BuildMap}
    (hstep : m step = some devices) (hdevice : devices device = some samples) :
    m.alter step device id = m := by
  have hdevices : alterDevice devices device id = devices := by
    rw [alterDevice, hdevice, Option.getD_some, id_eq, ← hdevice, Function.update_eq_self]
  rw [alter, SampleMap.devices, hstep, Option.getD_some, hdevices, ← hstep,
    Function.update_eq_self]

end SampleMap

/-! ## The map of a store -/

namespace Store

/-- The map that a store stands for. -/
def sampleMap (s : Store) : SampleMap := s.steps.view (Keyed.view Series.sample?)

theorem sample?_sampleMap (s : Store) (step device : String) (build : UInt64) :
    s.sampleMap.sample? step device build = s.sample? step device build := by
  rw [SampleMap.sample?, sampleMap, Keyed.view, sample?, series?]
  cases s.steps.get? step with
  | none => rfl
  | some devices =>
    rw [Option.map_some, Option.bind_some, Option.bind_some, Keyed.view]
    cases devices.get? device <;> rfl

theorem devices_sampleMap (s : Store) (step : String) :
    s.sampleMap.devices step = Keyed.view Series.sample? ((s.steps.get? step).getD .empty) := by
  rw [SampleMap.devices, sampleMap, Keyed.view]
  cases s.steps.get? step <;> rfl

theorem sampleMap_register (s : Store) (step : String) :
    (s.register step).sampleMap = s.sampleMap.register step := by
  rw [sampleMap, register, Keyed.view_alter, SampleMap.register, devices_sampleMap]
  rfl

theorem sampleMap_alter (s : Store) (step device : String) {f : Series → Series}
    {g : BuildMap → BuildMap} (hfg : ∀ series : Series, (f series).sample? = g series.sample?) :
    (s.alter step device f).sampleMap = s.sampleMap.alter step device g := by
  rw [sampleMap, alter, Keyed.view_alter, Keyed.view_alter, SampleMap.alter,
    SampleMap.alterDevice, devices_sampleMap, hfg]
  congr 4
  rw [Keyed.view]
  cases ((s.steps.get? step).getD .empty).get? device <;> rfl

theorem sampleMap_ensure (s : Store) (step device : String) :
    (s.ensure step device).sampleMap = s.sampleMap.ensure step device :=
  s.sampleMap_alter step device fun _ => rfl

theorem sampleMap_append (s : Store) (step device : String) (x : Sample) :
    (s.append step device x).sampleMap = s.sampleMap.append step device x :=
  s.sampleMap_alter step device fun series => funext (series.sample?_append x)

/-- Putting a series in the order of its builds does not change what the store stands for. -/
theorem sampleMap_finalize (s : Store) (step device : String) :
    (s.finalize step device).sampleMap = s.sampleMap := by
  rw [finalize]
  split
  · rename_i h
    obtain ⟨series, hseries⟩ := Option.isSome_iff_exists.1 h
    obtain ⟨devices, hdevices, hdevice⟩ := Option.bind_eq_some_iff.1 hseries
    have hstep : s.sampleMap step = some (devices.view Series.sample?) := by
      rw [sampleMap, Keyed.view, hdevices, Option.map_some]
    have hsamples : devices.view Series.sample? device = some series.sample? := by
      rw [Keyed.view, hdevice, Option.map_some]
    rw [s.sampleMap_alter step device (g := id) fun series => funext series.sample?_finalize]
    exact SampleMap.alter_id hstep hsamples
  · rfl

theorem sampleMap_mapSeries (s : Store) {f : String → String → Series → Series}
    {g : String → BuildMap → BuildMap}
    (hfg : ∀ step device series, (f step device series).sample? = g device series.sample?)
    (step : String) :
    (s.mapSeries f).sampleMap step = (s.sampleMap step).map fun devices device =>
      (devices device).map (g device) := by
  rw [sampleMap, mapSeries, Keyed.view_map, sampleMap, Keyed.view, Option.map_map]
  congr 1
  funext devices device
  rw [Keyed.view_map, Function.comp, Keyed.view, Option.map_map]
  simp only [hfg]
  rfl

theorem sampleMap_finalizeAll (s : Store) : s.finalizeAll.sampleMap = s.sampleMap := by
  funext step
  rw [finalizeAll, s.sampleMap_mapSeries (g := fun _ => id) fun _ _ series =>
    funext series.sample?_finalize]
  simp

theorem sampleMap_filter (keep : String → Sample → Bool) (s : Store) :
    (s.filter keep).sampleMap = s.sampleMap.filter keep := by
  funext step
  exact s.sampleMap_mapSeries (fun _ device series => funext (series.sample?_filter (keep device)))
    step

theorem sampleMap_merge (s other : Store) :
    (s.merge other).sampleMap = s.sampleMap.merge other.sampleMap := by
  funext step
  exact Keyed.view_override _ s.steps other.steps step

end Store

theorem Document.sampleMap_store (d : Document) : d.store.sampleMap = .ofDocument d := by
  funext step
  rw [Store.sampleMap, store, Keyed.view_ofList_map, SampleMap.ofDocument]
  congr 1
  funext es device
  rw [Function.comp, devices, Keyed.view_ofList_map]
  congr 1
  funext xs build
  exact Series.sample?_ofList xs build

end BenchTracker
