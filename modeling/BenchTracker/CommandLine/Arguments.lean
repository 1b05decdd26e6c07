import BenchTracker.Decimal.Reading
import BenchTracker.Parameters
import BenchTracker.Text.Fields

/-!
# Arguments

The arguments of the program: up to eleven positional ones, which may be negative numbers, and
options anywhere between them, each of them once. A value stands behind its option, either as the
next argument or behind an equals sign. Behind two hyphens all arguments are positional.
-/

namespace BenchTracker

namespace CommandLine

/-- The arguments that have been given. -/
structure Arguments where
  positionals : List String := []
  dir : Option String := none
  chartDir : Option String := none
  timeoutSecs : Option String := none
  logLevel : Option String := none
  logFormat : Option String := none
  quiet : Bool := false
  deriving Repr, Inhabited

/-- Why arguments are not acted upon. -/
inductive Stop where
  /-- They ask for help. -/
  | help
  /-- They make no sense. -/
  | misuse
  deriving DecidableEq, Repr

/-- An option that takes a value. -/
inductive ValueOption where
  | dir
  | chartDir
  | timeoutSecs
  | logLevel
  | logFormat
  deriving DecidableEq, Repr

def ValueOption.ofName? (name : String) : Option ValueOption :=
  if name = "dir" then some .dir
  else if name = "chart-dir" then some .chartDir
  else if name = "timeout-secs" then some .timeoutSecs
  else if name = "log-level" then some .logLevel
  else if name = "log-format" then some .logFormat
  else none

def isInteger (s : String) : Bool := (Numeral.readSigned? 64 s.toList).isSome

def isNatural (s : String) : Bool := (Numeral.read64 s.toList).toBool

def isReal (s : String) : Bool := (Double.read? s.toList).isSome

namespace ValueOption

/-- Whether an option takes a value: paths are not empty, and a time is a natural number. -/
def accepts (option : ValueOption) (value : String) : Bool :=
  match option with
  | dir => value ≠ ""
  | chartDir => value ≠ ""
  | timeoutSecs => isNatural value
  | logLevel => true
  | logFormat => true

def value? (option : ValueOption) (a : Arguments) : Option String :=
  match option with
  | dir => a.dir
  | chartDir => a.chartDir
  | timeoutSecs => a.timeoutSecs
  | logLevel => a.logLevel
  | logFormat => a.logFormat

def set (option : ValueOption) (value : String) (a : Arguments) : Arguments :=
  match option with
  | dir => { a with dir := some value }
  | chartDir => { a with chartDir := some value }
  | timeoutSecs => { a with timeoutSecs := some value }
  | logLevel => { a with logLevel := some value }
  | logFormat => { a with logFormat := some value }

/-- Gives a value to an option that has none so far. -/
def assign (option : ValueOption) (value : String) (a : Arguments) : Except Stop Arguments :=
  if (option.value? a).isNone ∧ option.accepts value then .ok (option.set value a)
  else .error .misuse

end ValueOption

/-- What the positional arguments have to be, in order. -/
def positionalChecks : List (String → Bool) :=
  [fun _ => true, fun _ => true, isInteger, isInteger, fun _ => true, isInteger, isReal, isInteger,
   isInteger, isInteger, isInteger]

namespace Arguments

def addPositional (a : Arguments) (value : String) : Except Stop Arguments :=
  match positionalChecks[a.positionals.length]? with
  | some accepts =>
    if accepts value then .ok { a with positionals := a.positionals ++ [value] }
    else .error .misuse
  | none => .error .misuse

def setQuiet (a : Arguments) : Except Stop Arguments :=
  if a.quiet then .error .misuse else .ok { a with quiet := true }

/-- Takes the letters behind a single hyphen. -/
def addShort (a : Arguments) : List Char → Except Stop Arguments
  | [] => .ok a
  | 'q' :: rest => do (← a.setQuiet).addShort rest
  | 'h' :: _ => .error .help
  | _ => .error .misuse

end Arguments

/-- What is left of a number behind its first character: digits, one point in front of the
exponent, and one exponent that is not empty. -/
def isNumberTail : Bool → Bool → List Char → Bool
  | _, _, [] => true
  | point, exponent, c :: rest =>
    if c.isDigit then isNumberTail point exponent rest
    else if c = '.' then ! point && ! exponent && isNumberTail true exponent rest
    else if c = 'e' then ! exponent && ! rest.isEmpty && isNumberTail point true rest
    else false

/-- Whether the text behind a hyphen makes a negative number. -/
def isNumber : List Char → Bool
  | [] => true
  | c :: rest => c.isDigit && isNumberTail false false rest

/-- What an argument looks like, where it may be an option. -/
inductive Shape where
  /-- Two hyphens by themselves. -/
  | stop
  /-- Two hyphens with a name, perhaps with a value behind an equals sign. -/
  | long (name : String) (value : Option String)
  /-- A hyphen with letters. -/
  | short (letters : List Char)
  | plain
  deriving DecidableEq, Repr

def Shape.of (arg : String) : Shape :=
  match arg.toList with
  | ['-', '-'] => .stop
  | '-' :: '-' :: rest =>
    match Text.splitFirst? '=' rest with
    | some (name, value) => .long (String.ofList name) (some (String.ofList value))
    | none => .long (String.ofList rest) none
  | ['-'] => .plain
  | '-' :: letters => .short letters
  | _ => .plain

/-- How far the arguments have been read. -/
structure Reading where
  arguments : Arguments := {}
  /-- An option whose value is awaited. -/
  awaiting : Option ValueOption := none
  /-- Whether two hyphens have been met. -/
  onlyPositionals : Bool := false
  deriving Repr, Inhabited

namespace Reading

/-- Takes an argument that is no option. -/
def addValue (r : Reading) (value : String) : Except Stop Reading :=
  match r.awaiting with
  | some option =>
    if r.onlyPositionals then .error .misuse
    else do return { r with arguments := ← option.assign value r.arguments, awaiting := none }
  | none => do return { r with arguments := ← r.arguments.addPositional value }

/-- Takes an option with a long name. -/
def addLong (r : Reading) (name : String) (value : Option String) : Except Stop Reading :=
  if r.awaiting.isSome then .error .misuse
  else
    match ValueOption.ofName? name, value with
    | some option, some value => do
      return { r with arguments := ← option.assign value r.arguments }
    | some option, none => .ok { r with awaiting := some option }
    | none, none =>
      if name = "quiet" then do return { r with arguments := ← r.arguments.setQuiet }
      else if name = "help" then .error .help
      else .error .misuse
    | none, some _ => .error .misuse

/-- Whether a number may stand next: as the value of an option or as a positional argument. -/
def admitsNumber (r : Reading) : Bool :=
  r.awaiting.isSome || r.arguments.positionals.length < positionalChecks.length

/-- Takes the next argument. -/
def add (r : Reading) (arg : String) : Except Stop Reading :=
  if r.onlyPositionals then r.addValue arg
  else
    match Shape.of arg with
    | .stop => .ok { r with onlyPositionals := true }
    | .long name value => r.addLong name value
    | .short letters =>
      if isNumber letters ∧ r.admitsNumber then r.addValue arg
      else if r.awaiting.isSome then .error .misuse
      else do return { r with arguments := ← r.arguments.addShort letters }
    | .plain => r.addValue arg

end Reading

/-- Reads all arguments; no option may be left without its value. -/
def Arguments.read (args : List String) : Except Stop Arguments := do
  let r ← args.foldlM Reading.add {}
  if r.awaiting.isSome then .error .misuse else .ok r.arguments

end CommandLine

end BenchTracker
