/-!
# Log events

What a pass reports besides its results: how serious it is and which part of the program reports
it. A level admits the events that are at least as serious.
-/

namespace BenchTracker

/-- How serious an event is. -/
inductive Level where
  | trace
  | debug
  | info
  | warn
  | error
  deriving DecidableEq, Repr, Inhabited

namespace Level

def name : Level → String
  | trace => "TRACE"
  | debug => "DEBUG"
  | info => "INFO"
  | warn => "WARN"
  | error => "ERROR"

def rank : Level → Nat
  | trace => 0
  | debug => 1
  | info => 2
  | warn => 3
  | error => 4

end Level

/-- The part of the program that reports an event. -/
inductive Part where
  | cache
  | fetch
  | render
  | run
  deriving DecidableEq, Repr, Inhabited

/-- The target that log lines show for a part. -/
def Part.target : Part → String
  | cache => "acc_trend::cache"
  | fetch => "acc_trend::fetch"
  | render => "acc_trend::render"
  | run => "acc_trend::run"

/-- One reported event. -/
structure Event where
  level : Level
  part : Part
  deriving DecidableEq, Repr, Inhabited

/-- Whether a level admits the event; no level admits none. -/
def Event.admitted (e : Event) (level : Option Level) : Bool :=
  match level with
  | none => false
  | some least => least.rank ≤ e.level.rank

end BenchTracker
