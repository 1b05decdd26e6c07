import BenchTracker.Event
import BenchTracker.Text.Blank

/-!
# Choosing what is logged

The level and the format of the log as they are given on the command line. White space around them
and the case of their letters make no difference, and what is unknown is taken for the default.
-/

namespace BenchTracker

namespace CommandLine

/-- How log lines are written. -/
inductive LogFormat where
  | plain
  | json
  deriving DecidableEq, Repr, Inhabited

/-- A choice without white space around it, in small letters. -/
def normalized (choice : String) : String :=
  String.ofList ((Text.trim choice.toList).map Char.toLower)

def LogFormat.ofChoice (choice : String) : LogFormat :=
  if normalized choice = "json" then .json else .plain

/-- The least serious level that is logged; nothing is logged without one. -/
def levelOfChoice (choice : String) : Option Level :=
  let choice := normalized choice
  if choice = "trace" then some .trace
  else if choice = "debug" then some .debug
  else if choice = "info" then some .info
  else if choice = "error" then some .error
  else if choice = "off" then none
  else some .warn

end CommandLine

end BenchTracker
