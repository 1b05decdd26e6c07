import BenchTracker.Json.Printer
import BenchTracker.Json.Shape
import BenchTracker.Store

/-!
# The written form of stores

A sample is a list `[[mean, count], [mean, count], [mean, count], focus, build]`, a series the list
of its samples, and a store an object of objects of series.
-/

namespace BenchTracker

open Json (Reader Fault)

namespace Bucket

def toJson (b : Bucket) : Json := .list [.real b.geomean, .integer b.count.toNat]

def reader : Reader Bucket :=
  Reader.between .square fun s => do
    let (geomean, s) ← Reader.element Reader.real true s
    let (count, s) ← Reader.element (Reader.natural (1 <<< 32)) false s
    .ok (⟨geomean, UInt32.ofNat count⟩, s)

end Bucket

namespace Sample

def toJson (x : Sample) : Json :=
  .list [x.small.toJson, x.medium.toJson, x.large.toJson, .real x.focus, .integer x.build.toNat]

def reader : Reader Sample :=
  Reader.between .square fun s => do
    let (small, s) ← Reader.element Bucket.reader true s
    let (medium, s) ← Reader.element Bucket.reader false s
    let (large, s) ← Reader.element Bucket.reader false s
    let (focus, s) ← Reader.element Reader.real false s
    let (build, s) ← Reader.element (Reader.natural Numeral.limit64) false s
    .ok (⟨small, medium, large, focus, UInt64.ofNat build⟩, s)

def read (text : String) : Except Fault Sample := Reader.readAll reader text

end Sample

namespace Series

def toJson (s : Series) : Json := .list (s.samples.map Sample.toJson)

/-- Reads a series; of two samples of one build the first one stays. -/
def reader : Reader Series := fun s =>
  (Reader.listOf Sample.reader s).map fun (xs, s) => (ofList xs, s)

end Series

namespace Store

def toJson (s : Store) : Json :=
  .object (s.steps.toList.map fun (step, devices) =>
    (step, .object (devices.toList.map fun (device, series) => (device, series.toJson))))

/-- Reads the devices of a step; of two series of one device the last one stays. -/
def devicesReader : Reader DeviceSeries := fun s =>
  (Reader.fieldsOf Series.reader s).map fun (es, s) => (.ofList es, s)

def reader : Reader Store := fun s =>
  (Reader.fieldsOf devicesReader s).map fun (es, s) => (⟨.ofList es⟩, s)

def read (text : String) : Except Fault Store := Reader.readAll reader text

end Store

end BenchTracker
