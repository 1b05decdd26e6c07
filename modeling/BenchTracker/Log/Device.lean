import BenchTracker.Log.Scan
import BenchTracker.Unicode.Word

/-!
# Devices in logs

A log names the device it was measured on in one of two lines: the report of the backend or the
host name that the agent prints.
-/

namespace BenchTracker

/-- A line that names a device. -/
inductive DeviceLine where
  /-- `INFO ACC/OpenCL: ndevices=1 device0="name"` -/
  | report
  /-- `hostname: name` -/
  | hostname
  deriving DecidableEq, Repr

namespace DeviceLine

open Scan

/-- The report of the backend: the name runs up to the last quote of the line. -/
def report? (s : List Char) : Option (List Char × List Char) := do
  let s ← after? "INFO ACC/OpenCL:".toList s
  let (_, s) ← run? Text.isBlank s
  let s ← after? "ndevices=".toList s
  let (_, s) ← run? isDigit s
  let (_, s) ← run? Text.isBlank s
  let s ← after? "device".toList s
  let (_, s) ← run? isDigit s
  let s ← after? "=\"".toList s
  afterPiece? (after? ['"']) s

/-- The characters of a host name. -/
def isHostChar (c : Char) : Bool := Unicode.isWord c || c = '-'

/-- The host name that the agent prints. -/
def hostname? (s : List Char) : Option (List Char × List Char) := do
  let s ← after? "hostname:".toList s
  let (_, s) ← run? Text.isBlank s
  run? isHostChar s

/-- The device that the first such line of a log names. -/
def find? (line : DeviceLine) (log : List Char) : Option (List Char) :=
  match line with
  | report => first? report? log
  | hostname => first? hostname? log

/-- The kinds of lines to look for, in order. -/
def defaultChain : List DeviceLine := [report, hostname]

/-- The device that the first kind of line names that is there at all. -/
def findAny? (chain : List DeviceLine) (log : List Char) : Option (List Char) :=
  chain.findSome? (·.find? log)

end DeviceLine

end BenchTracker
