import BenchTracker.Event
import BenchTracker.Failure
import BenchTracker.Kernel
import BenchTracker.Store.Json

/-!
# The cache of a focus kernel

Between passes two files hold what was gathered for a focus kernel: the watermark and the series.
Both are replaced by renaming a finished file, the series first, so that a watermark never points
beyond the samples that are stored.
-/

namespace BenchTracker

/-- Where the two files of a focus kernel stand. -/
structure Cache where
  folder : String
  focus : Kernel
  deriving DecidableEq, Repr

namespace Cache

def fileName (c : Cache) (extension : String) : String :=
  "buildkite-" ++ c.focus.text ++ extension

def watermarkPath (c : Cache) : String := Path.join c.folder (c.fileName ".last")

def seriesPath (c : Cache) : String := Path.join c.folder (c.fileName ".json")

/-- Reads the stored watermark; white space may stand around it. -/
def readWatermark (c : Cache) (d : Directory) : Except Failure Nat :=
  match d.read c.watermarkPath with
  | .error fault => .error (.file fault)
  | .ok text =>
    match Numeral.read Numeral.limit64 (Text.trim text.toList) with
    | .error fault => .error (.watermark c.watermarkPath fault)
    | .ok watermark => .ok watermark

/-- Reads the stored series. -/
def readSeries (c : Cache) (d : Directory) : Except Failure Store :=
  match d.read c.seriesPath with
  | .error fault => .error (.file fault)
  | .ok text =>
    match Store.read text with
    | .error fault => .error (.json fault)
    | .ok store => .ok store

/-- The watermark to start from, with the stored series unless the watermark is zero. An explicit
watermark goes before the stored one. -/
def stored (c : Cache) (d : Directory) (explicit : Nat) : Except Failure (Nat × Option Store) := do
  let watermark ← if explicit = 0 then c.readWatermark d else .ok explicit
  if watermark = 0 then .ok (0, none)
  else
    let series ← c.readSeries d
    .ok (watermark, some series)

/-- What loading a cache comes to. -/
structure Loaded where
  watermark : Nat
  store : Store
  events : List Event

/-- The watermark to start from and the store with the stored series merged into it. If anything
cannot be read, all builds are asked for again. -/
def load (c : Cache) (d : Directory) (explicit : Nat) (store : Store) : Loaded :=
  match c.stored d explicit with
  | .ok (watermark, some series) => ⟨watermark, store.merge series, [⟨.debug, .cache⟩]⟩
  | .ok (watermark, none) => ⟨watermark, store, []⟩
  | .error _ =>
    let level := if 0 < explicit ∨ d.has c.watermarkPath then .warn else .debug
    ⟨0, store, [⟨level, .cache⟩]⟩

/-- The steps that replace a file by another text. -/
def replaceSteps (path text : String) : List Directory.Step :=
  [.write (path ++ ".tmp") text, .rename (path ++ ".tmp") path]

/-- The steps that store series and watermark. -/
def saveSteps (c : Cache) (store : Store) (watermark : Nat) : List Directory.Step :=
  .makeFolders c.folder :: replaceSteps c.seriesPath store.toJson.pretty ++
    replaceSteps c.watermarkPath (Numeral.text watermark ++ "\n")

/-- Stores series and watermark: the directory afterwards, and why it failed. -/
def save (c : Cache) (d : Directory) (store : Store) (watermark : Nat) :
    Directory × Option Failure :=
  let (d, fault) := d.performAll (c.saveSteps store watermark)
  (d, fault.map Failure.file)

end Cache

end BenchTracker
