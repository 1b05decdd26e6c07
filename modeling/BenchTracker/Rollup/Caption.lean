import BenchTracker.Text.Blank
import BenchTracker.Unicode.LowerCase
import BenchTracker.Unicode.Word

/-!
# Captions

A step is named for the runtime that it tests, for what it tests, and for its properties. The
properties and the device decide in which chart the step is shown.
-/

namespace BenchTracker

/-- The parts of a step's name. -/
structure Caption where
  runtime : String
  subject : String
  props : String
  deriving DecidableEq, Repr, Inhabited

namespace Caption

/-- Words with a space between them. -/
def spaced : List (List Char) → List Char
  | [] => []
  | [w] => w
  | w :: rest => w ++ ' ' :: spaced rest

/-- The first word, the second word, and all other words; those that are missing are empty. -/
def ofStep (step : String) : Caption :=
  let ws := Text.words step.toList
  { runtime := String.ofList (ws.headD [])
    subject := String.ofList (ws.tail.headD [])
    props := String.ofList (spaced (ws.drop 2)) }

/-- The characters that a file name keeps of the properties. -/
def isFileChar (c : Char) : Bool := c = '-' || c = '.' || Unicode.isWord c

/-- The properties as a part of a file name. -/
def fileProps (props : List Char) : List Char :=
  ((Text.trim props).map fun c => if c = ' ' then '_' else c).filter isFileChar

end Caption

/-- The name, without its ending, of the file with the chart for a device and properties. -/
def chartStem (device props : String) : String :=
  "buildkite-" ++ String.ofList (Unicode.toLower device.toList) ++ "-" ++
    String.ofList (Unicode.toLower (Caption.fileProps props.toList))

end BenchTracker
