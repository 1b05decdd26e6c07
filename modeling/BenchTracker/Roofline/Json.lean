import BenchTracker.Json.Printer
import BenchTracker.Json.Shape
import BenchTracker.Roofline

/-!
# The written form of peak tables

The peak rates of a device are a list `[compute, bandwidth]`, and a table is an object of them.
-/

namespace BenchTracker

open Json (Reader Fault)

namespace Peak

def toJson (p : Peak) : Json := .list [.real p.compute, .real p.bandwidth]

def reader : Reader Peak :=
  Reader.between .square fun s => do
    let (compute, s) ← Reader.element Reader.real true s
    let (bandwidth, s) ← Reader.element Reader.real false s
    .ok (⟨compute, bandwidth⟩, s)

end Peak

namespace PeakTable

def toJson (t : PeakTable) : Json := .object (t.toList.map fun (device, p) => (device, p.toJson))

def reader : Reader PeakTable := fun s =>
  (Reader.fieldsOf Peak.reader s).map fun (es, s) => (Keyed.ofList es, s)

def read (text : String) : Except Fault PeakTable := Reader.readAll reader text

end PeakTable

end BenchTracker
