import BenchTracker.Unicode.Category

/-!
# Letters and numbers

The alphabetic characters with their cases, and those with a numeric value.
-/

namespace BenchTracker

namespace Unicode

def lowercaseRanges : Ranges :=
  Category.lowercaseLetter.union (Ranges.decode "
    170 0 15 0 501 8 7 1 30 4 96 0 52 0 3457 0 3119 62 13 0 34 36 689 0 13 0 16 12 211 15 848 25
    1938 1 31262 1 210 0 128 3 3 1 866 3 9 0 23574 0 2 2 1 41 1 8 55413 61")

def uppercaseRanges : Ranges :=
  Category.uppercaseLetter.union (Ranges.decode "8544 15 838 25 117856 25 6 25 6 25")

/-- The characters that have a case. -/
def casedRanges : Ranges :=
  Ranges.unionAll [lowercaseRanges, uppercaseRanges, Category.titlecaseLetter]

/-- Alphabetic characters that are no letters, such as vowel signs. -/
def dependentLetters : Ranges := Ranges.decode "
  867 12 576 13 1 0 1 1 1 1 1 0 72 10 48 12 1 6 16 0 101 6 4 3 2 1 4 0 35 0 30 15 102 10 101 1 3
  8 1 2 1 3 106 0 60 11 3 6 6 19 54 1 2 14 1 1 5 2 10 1 29 2 58 6 2 1 2 1 10 0 10 1 29 2 58 4 4
  1 2 1 4 0 30 1 3 0 11 2 58 7 1 2 1 1 21 1 22 2 4 2 58 6 2 1 2 1 9 1 10 1 30 0 59 4 3 2 1 2 10
  0 40 4 57 6 1 2 1 2 8 1 11 1 29 2 58 6 1 2 1 2 8 1 11 1 15 0 12 3 58 6 1 2 1 2 10 0 10 1 29 2
  75 5 1 0 1 7 18 1 61 0 2 6 18 0 99 0 2 5 1 1 16 0 163 18 9 10 1 35 110 11 1 0 2 3 23 3 4 2 1 2
  2 6 3 3 13 11 1 0 10 3 1652 1 30 1 30 1 30 1 66 18 188 1 34 0 118 11 4 8 222 4 57 9 2 19 74 1
  11 2 49 4 48 14 60 2 30 8 2 1 57 10 50 18 412 33 4075 31 30836 7 34 1 354 0 8 0 23 4 88 1 50
  15 1 0 57 0 38 4 28 11 45 3 48 11 37 0 67 13 12 0 8 1 45 2 50 0 1 2 2 1 5 0 44 4 5 0 237 7
  20275 0 2135 4 1670 2 1 1 5 3 788 3 65 0 321 1 77 2 259 2 53 13 45 1 11 2 45 8 9 0 61 2 36 11
  18 1 57 2 48 12 14 1 92 8 2 0 6 0 2 0 157 9 23 3 58 6 2 1 2 1 10 0 10 1 84 8 1 0 2 0 1 3 1 1
  103 12 1 2 106 17 237 6 2 6 29 1 82 14 1 0 106 10 103 13 257 12 247 5 1 1 2 1 3 0 1 0 142 6 2
  5 4 0 28 9 42 4 1 3 18 10 46 13 200 7 199 7 1 6 83 21 1 13 122 5 3 0 1 1 1 2 1 0 3 0 66 4 1 1
  1 3 348 3 9 1 1 0 48 6 3 2 16861 16 3616 0 1 54 7 3 93 1 19628 0 9057 6 1 16 2 6 1 1 1 4 100 0
  1619 0 2 0 7 1 5 0 593 0"

def alphabeticRanges : Ranges :=
  Ranges.unionAll [Category.letter, Category.letterNumber, lowercaseRanges, uppercaseRanges,
    dependentLetters]

def isAlphabetic (c : Char) : Bool :=
  if c.toNat < 128 then c.isAlpha else alphabeticRanges.contains c.toNat

def isAlphanumeric (c : Char) : Bool :=
  if c.toNat < 128 then c.isAlphanum
  else alphabeticRanges.contains c.toNat || Category.number.contains c.toNat

end Unicode

end BenchTracker
