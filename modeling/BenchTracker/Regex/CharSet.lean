import BenchTracker.Unicode.Folding

/-!
# Sets of characters

The sets of characters in regular expressions, and how they are closed under case.
-/

namespace BenchTracker

namespace Regex

/-- A set of characters by their code points. -/
abbrev CharSet := Unicode.Ranges

namespace CharSet

def single (n : Nat) : CharSet := [(n, n)]

/-- Whether there are only ASCII characters in the set. -/
def isAscii (a : CharSet) : Bool := List.all a fun r => r.2 < 128

/-- Adds all members of the classes that have a member in the set. -/
def addClasses (a : CharSet) (classes : List (List Nat)) : CharSet :=
  a.union ((classes.filter (·.any a.contains)).flatMap fun c => c.map fun n => (n, n))

/-- Adds all characters that differ from those of the set in case only. -/
def fold (a : CharSet) : CharSet :=
  a.addClasses (if a.isAscii then Unicode.latinClasses else Unicode.foldingClasses)

/-- Adds the other case of the ASCII letters in the set. -/
def foldAscii (a : CharSet) : CharSet :=
  a.addClasses ((List.range 26).map fun i => [65 + i, 97 + i])

end CharSet

end Regex

end BenchTracker
