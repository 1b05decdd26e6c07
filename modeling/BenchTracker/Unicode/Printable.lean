import BenchTracker.Unicode.Category

/-!
# Printable characters

Which characters a quoted text shows as they are. Controls, format characters, separators other
than the space, private and unassigned code points are not printable, and a character that extends
the one before it cannot stand on its own.
-/

namespace BenchTracker

namespace Unicode

/-- The characters that extend the one before them. -/
def extendingRanges : Ranges :=
  Ranges.unionAll [Category.nonspacingMark, Category.enclosingMark, Ranges.decode "
    2494 0 24 0 358 0 24 0 102 0 24 0 232 0 1 0 4 1 1 1 9 1 103 0 24 0 119 0 15 0 2357 0 30 0 1024
    0 5 0 1 0 5 1 101 0 71 1 1048 0 4129 1 31011 0 108 0 21981 1 4640 0 116 0 264 0 14 0 9 0 96 0
    9 0 2 0 1 2 5 0 224 0 12 0 241 0 262 0 633 0 12 0 1539 0 20654 1 24947 1 6 5 798381 95"]

def unprintableRanges : Ranges := Category.other.union Category.separator

/-- Whether the character is shown as it is. -/
def isPrintable (c : Char) : Bool :=
  if c.toNat < 128 then 32 ≤ c.toNat && c.toNat < 127
  else ! extendingRanges.contains c.toNat && ! unprintableRanges.contains c.toNat

end Unicode

end BenchTracker
