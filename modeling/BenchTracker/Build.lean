/-!
# Builds

A build of the pipeline has a number and jobs. A job that ran to its end has an exit status, and
its log can be fetched from an address.
-/

namespace BenchTracker

/-- A job of a build. Jobs that only wait or trigger others have no name. -/
structure Job where
  name : Option String := none
  exitStatus : Option Int := none
  logUrl : Option String := none
  deriving DecidableEq, Repr, Inhabited

/-- A build and its jobs. -/
structure Build where
  number : UInt64
  jobs : List Job := []
  deriving DecidableEq, Repr, Inhabited

def Job.succeeded (job : Job) : Bool := job.exitStatus = some 0

end BenchTracker
