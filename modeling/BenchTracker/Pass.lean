import BenchTracker.Cache
import BenchTracker.Ingest
import BenchTracker.Rollup
import BenchTracker.Tables

/-!
# Passes

One complete pass: load what is cached, take new builds in, store the cache, leave implausible
samples out, and summarise the rest in lines and charts.
-/

namespace BenchTracker

/-- What is to be done with a chart: steps on the directory, or nothing if the chart is refused. -/
abbrev ChartSink := Chart → Option (List Directory.Step)

namespace ChartSink

/-- Takes charts without doing anything with them. -/
def discard : ChartSink := fun _ => some []

/-- The path of a chart's file in a folder. -/
def chartPath (folder : String) (c : Chart) : String := Path.join folder (c.stem ++ ".json")

/-- The folder that is made for charts. A path that ends in a dot only leads to a folder that is
there already, so the folders around it are all that can be made. -/
def folderToMake (folder : String) : String :=
  if Path.endsInDot folder then Path.parent folder else folder

/-- Writes each chart into a file of the folder. -/
def toFolder (folder : String) : ChartSink := fun c =>
  some [.makeFolders (folderToMake folder),
    .write (chartPath folder c) (c.toJson.pretty ++ "\n")]

end ChartSink

namespace Pass

/-- What a pass is asked to do. -/
structure Request where
  /-- The folder with the tables and the cache. -/
  folder : String
  params : Parameters
  /-- Whether a dot is printed for every build. -/
  progress : Bool := false

/-- How far the charts have been handed over. -/
structure Handover where
  directory : Directory
  taken : List Chart := []
  events : List Event := []

/-- Hands one chart over. -/
def handOver (sink : ChartSink) (h : Handover) (c : Chart) : Handover :=
  match sink c with
  | none => { h with events := h.events ++ [⟨.warn, .run⟩] }
  | some steps =>
    match h.directory.performAll steps with
    | (d, none) =>
      { directory := d
        taken := h.taken ++ [c]
        events := h.events ++ if steps = [] then [] else [⟨.debug, .render⟩] }
    | (d, some _) => { h with directory := d, events := h.events ++ [⟨.warn, .run⟩] }

/-- What a pass comes to. -/
structure Result where
  before : Nat
  after : Nat
  report : Ingest.Report
  requests : List Ingest.Request
  rollup : Rollup
  /-- The text that is printed. -/
  out : String
  directory : Directory
  /-- The charts that were taken. -/
  charts : List Chart
  events : List Event

/-- The text of some lines. -/
def lines (xs : List String) : String := String.join (xs.map (· ++ "\n"))

/-- What is printed about the builds that were taken in. -/
def reportLines (r : Ingest.Report) : List String :=
  if r.work = 0 then []
  else "" :: (if r.hasErrors then
    ["Errors: steps=" ++ Numeral.text r.stepErrors ++ " vals=" ++ Numeral.text r.valueErrors]
    else [])

/-- One dot for every build, where they are asked for. -/
def dots (request : Request) (r : Ingest.Report) : String :=
  if request.progress then String.ofList (List.replicate r.work '.') else ""

/-- The store after the pass and the cache written from it, unless there is nothing new. -/
def persist (cache : Cache) (d : Directory) (s : Store) (r : Ingest.Report) (after : Nat) :
    Directory × List Event :=
  if r.latest = 0 then (d, [])
  else
    match cache.save d s after with
    | (d, none) => (d, [])
    | (d, some _) => (d, [⟨.warn, .run⟩])

/-- One pass with tables that have been read. -/
def run (request : Request) (tables : Tables) (provider : Provider) (sink : ChartSink)
    (d : Directory) : Result :=
  let params := request.params
  let aliases := AliasTable.ofTexts tables.devices
  let cache : Cache := ⟨request.folder, params.focus⟩
  let loaded := cache.load d params.watermark tables.steps
  let before := loaded.watermark
  let p := Ingest.run { aliases, focus := params.focus } provider before loaded.store
  let s := p.store.finalizeAll
  let after := p.report.nextWatermark before
  let (d, saveEvents) := persist cache d s p.report after
  let rollup := Rollup.ofStore params params.intensity tables.peaks
    (s.inBand tables.peaks params.intensity params.band) aliases.canonicalNames
  let charts := rollup.devices.flatMap (·.charts)
  let h := charts.foldl (handOver sink) { directory := d }
  { before
    after
    report := p.report
    requests := p.requests
    rollup
    out := dots request p.report ++ lines (reportLines p.report ++
      rollup.devices.flatMap (fun r => r.steps.map (·.line r.device)) ++
      rollup.closingLines tables.peaks before p.report.latest.toNat)
    directory := h.directory
    charts := h.taken
    events := loaded.events ++ [⟨.info, .run⟩] ++ p.events ++ saveEvents ++ [⟨.info, .run⟩] ++
      h.events }

/-- One pass with the tables of its folder: what it comes to, or why the tables cannot be read, and
the directory then. -/
def execInFolder (request : Request) (provider : Provider) (sink : ChartSink) (d : Directory) :
    Except Failure Result × Directory :=
  match Tables.load d request.folder with
  | .error failure => (.error failure, d)
  | .ok tables =>
    let result := run request tables provider sink d
    (.ok result, result.directory)

/-- What one pass with the tables of its folder comes to. -/
def runInFolder (request : Request) (provider : Provider) (sink : ChartSink) (d : Directory) :
    Except Failure Result :=
  (execInFolder request provider sink d).1

end Pass

end BenchTracker
