import BenchTracker.Unicode.Word

/-!
# Places in a text

A place lies between two neighbouring characters, one of which is missing at the ends of the text.
A look asks for a property of a place and takes no character.
-/

namespace BenchTracker

namespace Regex

/-- The characters in front of a place and behind it. -/
structure Place where
  before : Option Char
  after : Option Char
  deriving DecidableEq, Repr

/-- What words look like on the two sides of a place. -/
inductive WordEdge where
  | any
  | none
  | start
  | stop
  | startHalf
  | stopHalf
  deriving DecidableEq, Repr

/-- A property of a place. -/
inductive Look where
  | textStart
  | textEnd
  | lineStart
  | lineEnd
  /-- A line start where a carriage return with a line feed counts as one line end. -/
  | lineStartCrLf
  | lineEndCrLf
  | word (edge : WordEdge) (unicode : Bool)
  deriving DecidableEq, Repr

def isWordChar (unicode : Bool) (c : Option Char) : Bool :=
  c.any fun c => if unicode then Unicode.isWord c else Unicode.isAsciiWord c.toNat

def WordEdge.holds (edge : WordEdge) (before after : Bool) : Bool :=
  match edge with
  | any => before != after
  | none => before == after
  | start => ! before && after
  | stop => before && ! after
  | startHalf => ! before
  | stopHalf => ! after

/-- Whether a place has the property. -/
def Look.holds (look : Look) (p : Place) : Bool :=
  match look with
  | textStart => p.before = none
  | textEnd => p.after = none
  | lineStart => p.before = none ∨ p.before = some '\n'
  | lineEnd => p.after = none ∨ p.after = some '\n'
  | lineStartCrLf =>
    p.before = none ∨ p.before = some '\n' ∨ (p.before = some '\r' ∧ p.after ≠ some '\n')
  | lineEndCrLf =>
    p.after = none ∨ p.after = some '\r' ∨ (p.after = some '\n' ∧ p.before ≠ some '\r')
  | word edge unicode => edge.holds (isWordChar unicode p.before) (isWordChar unicode p.after)

end Regex

end BenchTracker
