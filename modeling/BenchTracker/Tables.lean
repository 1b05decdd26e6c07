import BenchTracker.Failure
import BenchTracker.Roofline.Json
import BenchTracker.Store.Json

/-!
# Configuration tables

Three files of a folder say what a pass works with: the aliases of devices, their peak rates, and
the steps of the pipeline that are tracked.
-/

namespace BenchTracker

/-- The contents of the three files. -/
structure Tables where
  devices : List (List String)
  peaks : PeakTable
  steps : Store

namespace Tables

def devicesFile : String := "buildkite-devs.json"

def peaksFile : String := "buildkite-metric.json"

def stepsFile : String := "buildkite-steps.json"

/-- No aliases, no peak rates and no steps. -/
def empty : Tables := ⟨[], .empty, .empty⟩

instance : Inhabited Tables := ⟨empty⟩

/-- Reads the groups of device aliases. -/
def readDevices (text : String) : Except Json.Fault (List (List String)) :=
  Json.Reader.readAll (Json.Reader.listOf (Json.Reader.listOf Json.Reader.text)) text

/-- Reads one file of the folder. -/
def readFile {α : Type} (d : Directory) (folder name : String)
    (read : String → Except Json.Fault α) : Except Failure α :=
  let path := Path.join folder name
  match d.read path with
  | .error fault => .error (.table path fault.message)
  | .ok text => (read text).mapError fun fault => .table path fault.message

/-- Reads the tables of a folder; the first file that cannot be read is reported. -/
def load (d : Directory) (folder : String) : Except Failure Tables := do
  let devices ← readFile d folder devicesFile readDevices
  let peaks ← readFile d folder peaksFile PeakTable.read
  let steps ← readFile d folder stepsFile Store.read
  .ok ⟨devices, peaks, steps⟩

end Tables

end BenchTracker
