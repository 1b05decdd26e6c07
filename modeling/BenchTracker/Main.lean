import BenchTracker.CommandLine

/-!
# The program

Reads the files that a pass works with, runs the pass on them, and writes back what it changed. No
transport is built in, so the provider counts as one that cannot be reached.
-/

namespace BenchTracker

namespace Program

def help : String :=
  "Track CI benchmark results of SMM kernels against a roofline\n\n" ++
  "Usage: acc-trend [OPTIONS] [URL] [TOKEN] [WATERMARK] [INDEX] [FOCUS] [LASTN] [SPRAT] [MAXN] " ++
  "[MAXM] [VMIN] [VMAX]\n\n" ++
  "Options:\n" ++
  "      --dir <DIR>                    Folder with configuration tables and cache files\n" ++
  "      --chart-dir <CHART_DIR>        Write chart data as JSON into this folder\n" ++
  "      --timeout-secs <TIMEOUT_SECS>  Seconds that a request may take\n" ++
  "  -q, --quiet                        Do not print progress dots\n" ++
  "      --log-level <LOG_LEVEL>        trace, debug, info, warn, error or off\n" ++
  "      --log-format <LOG_FORMAT>      text or json\n" ++
  "  -h, --help                         Print help\n"

/-- The paths that a pass may touch, charts apart. -/
def paths (o : CommandLine.Options) : List String :=
  let caches := (Kernel.read? o.raw.focus).toList.map fun focus => Cache.mk o.folder focus
  [Tables.devicesFile, Tables.peaksFile, Tables.stepsFile].map (Path.join o.folder) ++
    (caches.flatMap fun c => [c.watermarkPath, c.seriesPath]).flatMap
      (fun path => [path, path ++ ".tmp"]) ++
    o.chartFolder.toList

/-- The places on the way along some names. -/
def way : Place → List String → List Place
  | place, [] => [place]
  | place, name :: rest =>
    place :: way (if name = ".." then place.tail else name :: place) rest

def absolute (place : Place) : String := "/" ++ Path.ofPlace place

/-- What stands at a place of the file system, as far as it can be read. -/
def entryAt (place : Place) : IO (Option Entry) := do
  let path := (← IO.currentDir).join (absolute place)
  if ← path.isDir then return some .folder
  try return some (.file (← IO.FS.readFile path))
  catch _ => return none

/-- The part of the file system that lies along some paths. -/
def load (current : Place) (paths : List String) : IO Directory := do
  let mut d : Directory := ⟨[], current⟩
  for path in paths do
    for place in way (d.start path) (Path.names path) do
      if let some entry ← entryAt place then d := d.set place entry
  return d

/-- Writes what has changed, each file under another name first. -/
def store (before after : Directory) : IO Unit := do
  for (place, entry) in after.entries.reverse do
    if before.at? place ≠ some entry then
      let path := absolute place
      match entry with
      | .folder => IO.FS.createDirAll path
      | .file text =>
        IO.FS.writeFile (path ++ ".tmp") text
        IO.FS.rename (path ++ ".tmp") path

def logLine : CommandLine.LogFormat × Event → String
  | (.plain, e) => e.level.name ++ " " ++ e.part.target
  | (.json, e) =>
    (Json.object [("level", .text e.level.name), ("target", .text e.part.target)]).compact

/-- The directory as far as the arguments need it. -/
def needed (args : List String) (env : String → Option String) : IO Directory := do
  let current := (Path.names (← IO.currentDir).toString).reverse
  match CommandLine.Arguments.read args with
  | .error _ => return ⟨[], current⟩
  | .ok a => load current (paths (.of a env))

end Program

end BenchTracker

open BenchTracker in
def main (args : List String) : IO UInt32 := do
  let url ← IO.getEnv "ACC_TREND_URL"
  let token ← IO.getEnv "ACC_TREND_TOKEN"
  let env := fun name =>
    if name = "ACC_TREND_URL" then url else if name = "ACC_TREND_TOKEN" then token else none
  let before ← Program.needed args env
  let (outcome, after) := CommandLine.exec args env (fun _ _ => .unreachable) before
  Program.store before after
  match outcome with
  | .stopped .help => IO.print Program.help
  | .stopped .misuse => IO.eprint Program.help
  | _ => IO.print outcome.out
  for line in outcome.logged do IO.eprintln (Program.logLine line)
  IO.eprint outcome.errorText
  return UInt32.ofNat outcome.code
