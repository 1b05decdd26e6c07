import BenchTracker.CommandLine.Arguments
import BenchTracker.CommandLine.Logging
import BenchTracker.Pass

/-!
# The command line

What the program does with its arguments, its environment and the directory that it runs in.
-/

namespace BenchTracker

namespace CommandLine

/-- What the arguments and the environment ask for. -/
structure Options where
  url : Option String
  token : Option String
  raw : RawParameters
  folder : String
  chartFolder : Option String
  /-- Seconds that a request may take. -/
  timeout : Nat
  quiet : Bool
  level : Option Level
  format : LogFormat
  deriving Repr

/-- The number that a positional argument gives, if it is there. -/
def integerAt (a : Arguments) (index : Nat) (default : Int) : Int :=
  match a.positionals[index]? with
  | some s => (Numeral.readSigned? 64 s.toList).getD default
  | none => default

def realAt (a : Arguments) (index : Nat) (default : Float) : Float :=
  match a.positionals[index]? with
  | some s => (Double.read? s.toList).getD default
  | none => default

def textAt (a : Arguments) (index : Nat) (default : String) : String :=
  a.positionals[index]?.getD default

/-- The numbers of the positional arguments; those that are missing have their defaults. -/
def rawParameters (a : Arguments) : RawParameters :=
  let d : RawParameters := {}
  { watermark := integerAt a 2 d.watermark
    index := integerAt a 3 d.index
    focus := textAt a 4 d.focus
    lastn := integerAt a 5 d.lastn
    ratio := realAt a 6 d.ratio
    maxn := integerAt a 7 d.maxn
    maxm := integerAt a 8 d.maxm
    vmin := integerAt a 9 d.vmin
    vmax := integerAt a 10 d.vmax }

/-- The address and the token are looked for in the environment if they are not given. -/
def Options.of (a : Arguments) (env : String → Option String) : Options :=
  { url := a.positionals[0]?.or (env "ACC_TREND_URL")
    token := a.positionals[1]?.or (env "ACC_TREND_TOKEN")
    raw := rawParameters a
    folder := a.dir.getD "."
    chartFolder := a.chartDir
    timeout := ((Numeral.read64 (a.timeoutSecs.getD "30").toList).toOption.map (·.toNat)).getD 30
    quiet := a.quiet
    level := levelOfChoice (a.logLevel.getD "warn")
    format := .ofChoice (a.logFormat.getD "text") }

/-- Why the program fails. -/
inductive ProgramError where
  /-- No address or no token is given. -/
  | noAccess
  /-- The parameters are no good. -/
  | parameters (cause : Failure)
  /-- The configuration tables cannot be read. -/
  | tables (cause : Failure)
  deriving Repr

def ProgramError.message : ProgramError → String
  | noAccess => "please pass URL and TOKEN (or set ACC_TREND_URL and ACC_TREND_TOKEN)"
  | parameters cause => cause.message
  | tables cause => "loading configuration tables: " ++ cause.message

/-- How a run of the program ends. -/
inductive Outcome where
  | stopped (why : Stop)
  | failed (error : ProgramError)
  | finished (options : Options) (result : Pass.Result)

namespace Outcome

/-- The exit code. -/
def code : Outcome → Nat
  | stopped .help => 0
  | stopped .misuse => 2
  | failed _ => 1
  | finished .. => 0

/-- What is printed, help and advice on arguments apart. -/
def out : Outcome → String
  | finished _ r => r.out
  | _ => ""

/-- The message about an error. -/
def errorText : Outcome → String
  | failed e => "error: " ++ e.message ++ "\n"
  | _ => ""

/-- The directory that a run in the directory `d` leaves. -/
def directory (d : Directory) : Outcome → Directory
  | finished _ r => r.directory
  | _ => d

/-- The events that are logged, with the format of their lines. -/
def logged : Outcome → List (LogFormat × Event)
  | finished o r => (r.events.filter (·.admitted o.level)).map fun e => (o.format, e)
  | _ => []

end Outcome

/-- The pass that the options ask for, once there are parameters. -/
def Options.request (o : Options) (params : Parameters) : Pass.Request :=
  { folder := o.folder, params, progress := ! o.quiet }

/-- What becomes of the charts. -/
def Options.sink (o : Options) : ChartSink :=
  match o.chartFolder with
  | some folder => .toFolder folder
  | none => .discard

/-- Runs one pass with the given options: how it ends, and the directory then. -/
def execOptions (o : Options) (connect : String → String → Provider) (d : Directory) :
    Outcome × Directory :=
  match o.url, o.token with
  | some url, some token =>
    match Parameters.ofRaw? o.raw with
    | none => (.failed (.parameters (.invalidFocus o.raw.focus)), d)
    | some params =>
      match Pass.execInFolder (o.request params) (connect url token) o.sink d with
      | (.error cause, d) => (.failed (.tables cause), d)
      | (.ok result, d) => (.finished o result, d)
  | _, _ => (.failed .noAccess, d)

def runOptions (o : Options) (connect : String → String → Provider) (d : Directory) : Outcome :=
  (execOptions o connect d).1

/-- Runs the program: how it ends, and the directory then. -/
def exec (args : List String) (env : String → Option String)
    (connect : String → String → Provider) (d : Directory) : Outcome × Directory :=
  match Arguments.read args with
  | .error why => (.stopped why, d)
  | .ok a => execOptions (.of a env) connect d

def run (args : List String) (env : String → Option String)
    (connect : String → String → Provider) (d : Directory) : Outcome :=
  (exec args env connect d).1

end CommandLine

end BenchTracker
