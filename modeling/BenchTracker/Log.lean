import BenchTracker.Alias
import BenchTracker.Classification
import BenchTracker.Decimal.Reading
import BenchTracker.Log.Device
import BenchTracker.Log.Measurements

/-!
# Job logs

What a job's log comes to: the device it was measured on and a throughput for each kernel. The
kernels and the throughputs belong together by position, so a log where their numbers differ is
invalid as a whole.
-/

namespace BenchTracker

namespace Log

/-- What a log comes to. -/
inductive Outcome where
  /-- No device is named, or none that the table knows. -/
  | noDevice
  /-- The number of errors is counted. -/
  | invalid (device : String) (errors : Nat)
  | measured (device : String) (measurements : List Measurement)
  deriving Repr

/-- The value of a throughput; white space may stand around its text. -/
def value? (text : List Char) : Option Float := Double.read? (Text.trim text)

/-- The measurements of a log on a device. -/
def measure (device : String) (log : List Char) : Outcome :=
  let ks := kernels log
  let ts := throughputs log
  if ks.length ≠ ts.length then
    .invalid device (max ks.length ts.length - min ks.length ts.length)
  else
    match ts.mapM value? with
    | none => .invalid device 1
    | some values => .measured device (ks.zipWith Measurement.mk values)

/-- Reads a log whose line breaks are not escaped. -/
def read (aliases : AliasTable) (chain : List DeviceLine) (log : List Char) : Outcome :=
  match (DeviceLine.findAny? chain log).bind aliases.resolve? with
  | none => .noDevice
  | some device => measure device log

end Log

end BenchTracker
