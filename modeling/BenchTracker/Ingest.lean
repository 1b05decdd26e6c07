import BenchTracker.Event
import BenchTracker.Log
import BenchTracker.Provider
import BenchTracker.Store

/-!
# Ingestion

A pass over the builds above a watermark. Pages are asked for in order until one fails, is empty or
reaches the watermark. The log of every successful job of a known step is fetched, and what it
measured is added to the store. A job that fails does not keep others from being added, but a build
counts as complete only if each of its jobs produced a sample.
-/

namespace BenchTracker

namespace Ingest

/-- How logs are read: the device aliases, the lines that name a device, and the focus kernel. -/
structure Settings where
  aliases : AliasTable
  chain : List DeviceLine := DeviceLine.defaultChain
  focus : Kernel

/-- What a job comes to. -/
inductive JobResult where
  | produced (device : String) (sample : Sample)
  /-- No known device. -/
  | skipped
  | rejected (errors : Nat)
  | failed (cause : Failure)
  deriving Repr

/-- What a fetched log comes to. -/
def logResult (settings : Settings) (build : UInt64) (log : List Char) : JobResult :=
  match Log.read settings.aliases settings.chain log with
  | .noDevice => .skipped
  | .invalid _ errors => .rejected errors
  | .measured device xs =>
    match aggregate settings.focus build xs with
    | some sample => .produced device sample
    | none => .rejected 1

/-- What a job of a step comes to. -/
def jobResult (settings : Settings) (provider : Provider) (build : UInt64) (step : String)
    (job : Job) : JobResult :=
  match job.logUrl with
  | none => .failed (.missingLog step)
  | some url =>
    match provider.log url with
    | .error cause => .failed cause
    | .ok text => logResult settings build (Log.unescape text.toList)

namespace JobResult

/-- Puts a sample into the store. -/
def addTo (s : Store) (step : String) : JobResult → Store
  | produced device sample => s.append step device sample
  | _ => s

def isProduced : JobResult → Bool
  | produced .. => true
  | _ => false

def stepErrors : JobResult → Nat
  | failed _ => 1
  | _ => 0

def valueErrors : JobResult → Nat
  | rejected errors => errors
  | _ => 0

/-- What is reported of a job besides its counts. -/
def events : JobResult → List Event
  | produced .. => []
  | skipped => [⟨.debug, .fetch⟩]
  | rejected _ => [⟨.debug, .fetch⟩]
  | failed _ => [⟨.warn, .fetch⟩]

end JobResult

/-- One request to a provider. -/
inductive Request where
  | page (number : Nat)
  | log (url : String)
  deriving DecidableEq, Repr

/-- The counts of a pass. -/
structure Report where
  /-- The builds above the watermark that were looked at. -/
  work : Nat := 0
  /-- The highest complete build, zero if there is none. -/
  latest : UInt64 := 0
  /-- The jobs without a log. -/
  stepErrors : Nat := 0
  /-- The measurements that could not be used. -/
  valueErrors : Nat := 0
  /-- The pages that were received. -/
  pages : Nat := 0
  /-- Why the last page could not be fetched, if it could not. -/
  transportError : Option Failure := none
  deriving Repr, Inhabited

namespace Report

def hasErrors (r : Report) : Bool := 0 < r.stepErrors || 0 < r.valueErrors

/-- The watermark after the pass, never below the one before. -/
def nextWatermark (r : Report) (previous : Nat) : Nat := max previous r.latest.toNat

end Report

/-- How far a pass has got. -/
structure Progress where
  store : Store
  report : Report := {}
  /-- What has been asked for, in order. -/
  requests : List Request := []
  events : List Event := []

/-- The jobs of a build that belong to known steps, with the steps. -/
def targeted (s : Store) (build : Build) : List (String × Job) :=
  build.jobs.filterMap fun job =>
    match job.name with
    | some name => if s.knows name then some (name, job) else none
    | none => none

/-- The targeted jobs that succeeded, with what they come to. -/
def results (settings : Settings) (provider : Provider) (s : Store) (build : Build) :
    List (String × Job × JobResult) :=
  ((targeted s build).filter fun t => t.2.succeeded).map fun (step, job) =>
    (step, job, jobResult settings provider build.number step job)

/-- Takes one build in. -/
def addBuild (settings : Settings) (provider : Provider) (p : Progress) (build : Build) :
    Progress :=
  let rs := results settings provider p.store build
  let complete := (rs.filter (·.2.2.isProduced)).length = (targeted p.store build).length
  { store := rs.foldl (fun s r => r.2.2.addTo s r.1) p.store
    report :=
      { p.report with
        work := p.report.work + 1
        latest := if complete ∧ p.report.latest < build.number then build.number
          else p.report.latest
        stepErrors := p.report.stepErrors + (rs.map (·.2.2.stepErrors)).foldr (· + ·) 0
        valueErrors := p.report.valueErrors + (rs.map (·.2.2.valueErrors)).foldr (· + ·) 0 }
    requests := p.requests ++ rs.filterMap fun r => r.2.1.logUrl.map .log
    events := p.events ++ rs.flatMap (·.2.2.events) ++ [⟨.debug, .fetch⟩] }

/-- The builds of a page in front of the first one that is not above the watermark. -/
def fresh (watermark : Nat) (builds : List Build) : List Build :=
  builds.takeWhile fun b => watermark < b.number.toNat

/-- Takes pages in, from the given one on. The number of pages is bounded. -/
def fromPage (settings : Settings) (provider : Provider) (watermark : Nat) :
    Nat → Nat → Progress → Progress
  | 0, _, p => p
  | fuel + 1, number, p =>
    let p : Progress := { p with requests := p.requests ++ [.page number] }
    match provider.page number with
    | .error cause =>
      { p with
        report := { p.report with transportError := some cause }
        events := p.events ++ [⟨.warn, .fetch⟩] }
    | .ok builds =>
      let p : Progress := { p with report := { p.report with pages := p.report.pages + 1 } }
      if builds = [] then p
      else
        let above := fresh watermark builds
        let p := above.foldl (addBuild settings provider) p
        if above.length < builds.length then
          { p with events := p.events ++ [⟨.debug, .fetch⟩] }
        else fromPage settings provider watermark fuel (number + 1) p

/-- The number of pages that can be asked for. -/
def pageLimit : Nat := 1 <<< 32 - 1

/-- Takes all builds above the watermark in. -/
def run (settings : Settings) (provider : Provider) (watermark : Nat) (s : Store) : Progress :=
  fromPage settings provider watermark pageLimit 1 { store := s }

end Ingest

end BenchTracker
