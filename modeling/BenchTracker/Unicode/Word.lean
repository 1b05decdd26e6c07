import BenchTracker.Unicode.Letter

/-!
# Word characters

The characters that make up words: letters, marks, decimal digits, connecting punctuation and the
two joiners.
-/

namespace BenchTracker

namespace Unicode

/-- The characters that ask their neighbours to join or not. -/
def joiners : Ranges := [(0x200C, 0x200D)]

def wordRanges : Ranges :=
  Ranges.unionAll [alphabeticRanges, Category.mark, Category.decimalNumber,
    Category.connectorPunctuation, joiners]

def isAsciiWord (c : Nat) : Bool :=
  (48 ≤ c && c ≤ 57) || (65 ≤ c && c ≤ 90) || c == 95 || (97 ≤ c && c ≤ 122)

def isWord (c : Char) : Bool :=
  if c.toNat < 128 then isAsciiWord c.toNat else wordRanges.contains c.toNat

end Unicode

end BenchTracker
