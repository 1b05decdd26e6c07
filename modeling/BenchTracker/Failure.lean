import BenchTracker.Directory
import BenchTracker.Json.Reader
import BenchTracker.Text.Quoted

/-!
# Failures

What can go wrong in a pass, and the message for it.
-/

namespace BenchTracker

/-- The cause of a failure. -/
inductive Failure where
  /-- An operation on the directory. -/
  | file (fault : FileFault)
  /-- A watermark file without a number. -/
  | watermark (path : String) (fault : NumeralError)
  | json (fault : Json.Fault)
  /-- The provider cannot be reached. -/
  | unreachable
  /-- The provider answers a request with an error. -/
  | status (url : String) (code : Nat)
  /-- A successful job without the address of a log. -/
  | missingLog (job : String)
  | invalidFocus (text : String)
  /-- A configuration table that cannot be read. -/
  | table (path reason : String)
  deriving Repr, Inhabited

def Failure.message : Failure → String
  | file fault => "IO error: " ++ fault.message
  | watermark path fault => "IO error: " ++ path ++ ": " ++ fault.message
  | json fault => "JSON error: " ++ fault.message
  | unreachable => "HTTP error: the provider cannot be reached"
  | status url code => url ++ " returned status " ++ Numeral.text code
  | missingLog job => "job " ++ Text.quoted job ++ " has no log URL"
  | invalidFocus text => "invalid focus triple " ++ Text.quoted text ++ " (expected MxNxK)"
  | table path reason => "cannot read " ++ path ++ ": " ++ reason

end BenchTracker
