import BenchTracker.Build
import BenchTracker.Json.Printer
import BenchTracker.Json.Shape

/-!
# The written form of builds

Builds and jobs are objects, or lists of their fields in order. Unknown fields are skipped. A job
may lack any field, and a build may lack its jobs.
-/

namespace BenchTracker

open Json (Reader Fault)

namespace Job

def optional {α : Type} (toJson : α → Json) : Option α → Json
  | none => .null
  | some x => toJson x

def toJson (job : Job) : Json :=
  .object [
    ("name", optional .text job.name),
    ("exit_status", optional .integer job.exitStatus),
    ("log_url", optional .text job.logUrl)]

/-- The fields of a job that have been read, each with a value or as `null`. -/
structure Fields where
  name : Option (Option String) := none
  exitStatus : Option (Option Int) := none
  logUrl : Option (Option String) := none

def Fields.job (fs : Fields) : Job := ⟨fs.name.join, fs.exitStatus.join, fs.logUrl.join⟩

def member (key : String) (fs : Fields) : Reader Fields :=
  if key = "name" then
    Reader.once fs.name (Reader.orNull Reader.text) fun x => { fs with name := some x }
  else if key = "exit_status" then
    Reader.once fs.exitStatus (Reader.orNull Reader.integer) fun x =>
      { fs with exitStatus := some x }
  else if key = "log_url" then
    Reader.once fs.logUrl (Reader.orNull Reader.text) fun x => { fs with logUrl := some x }
  else Reader.skipMember fs

/-- Reads the fields of a job from a list; the last ones may be missing. -/
def elements : Reader Fields := fun s => do
  let (name, s) ← Reader.item? ']' (Reader.orNull Reader.text) true s
  let (exitStatus, s) ← Reader.item? ']' (Reader.orNull Reader.integer) false s
  let (logUrl, s) ← Reader.item? ']' (Reader.orNull Reader.text) false s
  .ok (⟨name, exitStatus, logUrl⟩, s)

def reader : Reader Job := fun s => do
  let (fs, s) ←
    if (Reader.skipGap s).head? = some '[' then Reader.between .square elements s
    else Reader.members member {} s
  .ok (fs.job, s)

end Job

namespace Build

def toJson (build : Build) : Json :=
  .object [
    ("number", .integer build.number.toNat),
    ("jobs", .list (build.jobs.map Job.toJson))]

/-- The fields of a build that have been read. -/
structure Fields where
  number : Option Nat := none
  jobs : Option (List Job) := none

def Fields.build? (fs : Fields) : Option Build :=
  fs.number.map fun number => ⟨UInt64.ofNat number, fs.jobs.getD []⟩

def numberReader : Reader Nat := Reader.natural Numeral.limit64

def jobsReader : Reader (List Job) := Reader.listOf Job.reader

def member (key : String) (fs : Fields) : Reader Fields :=
  if key = "number" then Reader.once fs.number numberReader fun x => { fs with number := some x }
  else if key = "jobs" then Reader.once fs.jobs jobsReader fun x => { fs with jobs := some x }
  else Reader.skipMember fs

/-- Reads the fields of a build from a list; the jobs may be missing. -/
def elements : Reader Fields := fun s => do
  let (number, s) ← Reader.element numberReader true s
  let (jobs, s) ← Reader.item? ']' jobsReader false s
  .ok (⟨some number, jobs⟩, s)

def reader : Reader Build := fun s => do
  let (fs, s) ←
    if (Reader.skipGap s).head? = some '[' then Reader.between .square elements s
    else Reader.members member {} s
  match fs.build? with
  | some build => .ok (build, s)
  | none => .error .mismatched

def readPage (text : String) : Except Fault (List Build) :=
  Reader.readAll (Reader.listOf reader) text

def pageToJson (builds : List Build) : Json := .list (builds.map toJson)

end Build

end BenchTracker
