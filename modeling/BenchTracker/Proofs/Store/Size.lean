import BenchTracker.Proofs.Store.Lookup
import Mathlib.Data.Set.Card

/-!
# The size of a store

The size of a store adds up the lengths of its series. It is the number of triples of a step, a
device and a build that have a sample, since no table repeats a key and no series a build.
-/

namespace BenchTracker

namespace Store

/-- The step, device and build of every listed sample. -/
def places (s : Store) : List (String × String × UInt64) :=
  s.steps.entries.flatMap fun step => step.2.entries.flatMap fun device =>
    device.2.samples.map fun x => (step.1, device.1, x.build)

theorem mem_places {s : Store} {step device : String} {build : UInt64} :
    (step, device, build) ∈ s.places ↔ s.contains step device build = true := by
  rw [contains, Option.any_eq_true]
  simp only [places, List.mem_flatMap, List.mem_map, Prod.exists, Prod.mk.injEq,
    Keyed.mem_entries, series?, Option.bind_eq_some_iff, Series.contains_iff]
  constructor
  · rintro ⟨_, devices, hstep, _, series, hdevice, x, hx, rfl, rfl, rfl⟩
    exact ⟨series, ⟨devices, hstep, hdevice⟩, x, hx, rfl⟩
  · rintro ⟨series, ⟨devices, hstep, hdevice⟩, x, hx, rfl⟩
    exact ⟨step, devices, hstep, device, series, hdevice, x, hx, rfl, rfl, rfl⟩

theorem nodup_places (s : Store) : s.places.Nodup := by
  refine List.nodup_flatMap.2 ⟨fun step _ => List.nodup_flatMap.2 ⟨fun device _ => ?_, ?_⟩, ?_⟩
  · refine List.Nodup.of_map (fun p => p.2.2) ?_
    rw [List.map_map]
    exact device.2.unique
  · refine step.2.pairwise_ne.imp fun hne p hp hq => hne ?_
    simp only [List.mem_map] at hp hq
    grind
  · refine s.steps.pairwise_ne.imp fun hne p hp hq => hne ?_
    simp only [List.mem_flatMap, List.mem_map] at hp hq
    grind

theorem length_places (s : Store) : s.places.length = s.size := by
  have hdevices (step : String) (es : List (String × Series)) (n : Nat) :
      (es.map (·.2)).foldr (·.size + ·) n = (es.flatMap fun device =>
        device.2.samples.map fun x => (step, device.1, x.build)).length + n := by
    induction es with
    | nil => simp
    | cons e rest ih =>
      rw [List.map_cons, List.foldr_cons, ih, List.flatMap_cons, List.length_append,
        List.length_map, Nat.add_assoc]
      rfl
  have hsteps (es : List (String × DeviceSeries)) :
      (es.map (·.2)).foldr (fun devices n => devices.values.foldr (·.size + ·) n) 0 =
        (es.flatMap fun step => step.2.entries.flatMap fun device =>
          device.2.samples.map fun x => (step.1, device.1, x.build)).length := by
    induction es with
    | nil => rfl
    | cons e rest ih =>
      rw [List.map_cons, List.foldr_cons, ih, List.flatMap_cons, List.length_append]
      exact hdevices e.1 e.2.entries _
  exact (hsteps s.steps.entries).symm

/-- The size counts the triples that have a sample. -/
theorem encard_eq_size (s : Store) :
    {p : String × String × UInt64 | s.contains p.1 p.2.1 p.2.2 = true}.encard = s.size := by
  have hset : {p : String × String × UInt64 | s.contains p.1 p.2.1 p.2.2 = true} =
      (s.places.toFinset : Set (String × String × UInt64)) := by
    ext p
    simp [← mem_places]
  rw [hset, Set.encard_coe_eq_coe_finsetCard, List.toFinset_card_of_nodup s.nodup_places,
    length_places]

end Store

end BenchTracker
