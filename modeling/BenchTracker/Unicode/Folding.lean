import BenchTracker.Unicode.Ranges

/-!
# Simple case folding

Characters that differ in case only form a class of two to four members. Two characters fold
together if they are equal or in one class.
-/

namespace BenchTracker

namespace Unicode

/-- The classes of the letters `a` to `z`; the Kelvin sign folds to `k` and the long s to `s`. -/
def latinClasses : List (List Nat) :=
  (List.range 26).map fun i =>
    [65 + i, 97 + i] ++ if i = 10 then [0x212A] else if i = 18 then [0x17F] else []

/-- The classes of more than two members that hold no letter `a` to `z`. -/
def largeClasses : List (List Nat) :=
  [ [0x00B5, 0x039C, 0x03BC], [0x00C5, 0x00E5, 0x212B], [0x01C4, 0x01C5, 0x01C6],
    [0x01C7, 0x01C8, 0x01C9], [0x01CA, 0x01CB, 0x01CC], [0x01F1, 0x01F2, 0x01F3],
    [0x0345, 0x0399, 0x03B9, 0x1FBE], [0x0392, 0x03B2, 0x03D0], [0x0395, 0x03B5, 0x03F5],
    [0x0398, 0x03B8, 0x03D1, 0x03F4], [0x039A, 0x03BA, 0x03F0], [0x03A0, 0x03C0, 0x03D6],
    [0x03A1, 0x03C1, 0x03F1], [0x03A3, 0x03C2, 0x03C3], [0x03A6, 0x03C6, 0x03D5],
    [0x03A9, 0x03C9, 0x2126], [0x0412, 0x0432, 0x1C80], [0x0414, 0x0434, 0x1C81],
    [0x041E, 0x043E, 0x1C82], [0x0421, 0x0441, 0x1C83], [0x0422, 0x0442, 0x1C84, 0x1C85],
    [0x042A, 0x044A, 0x1C86], [0x0462, 0x0463, 0x1C87], [0x1C88, 0xA64A, 0xA64B],
    [0x1E60, 0x1E61, 0x1E9B] ]

/-- The classes of two members beyond `a` to `z`: how far the lesser one is from the lesser one of
the class before, or from the end of the ASCII characters, and how far the greater one is from
it. -/
def pairTable : String := "
  64 32 1 32 1 32 1 32 1 32 2 32 1 32 1 32 1 32 1 32 1 32 1 32 1 32 1 32 1 32 1 32 1 32 1 32 1
  32 1 32 1 32 1 32 2 32 1 32 1 32 1 32 1 32 1 32 1 32 1 7615 32 121 1 1 2 1 2 1 2 1 2 1 2 1 2 1
  2 1 2 1 2 1 2 1 2 1 2 1 2 1 2 1 2 1 2 1 2 1 2 1 2 1 2 1 2 1 2 1 2 1 4 1 2 1 2 1 3 1 2 1 2 1 2
  1 2 1 2 1 2 1 2 1 3 1 2 1 2 1 2 1 2 1 2 1 2 1 2 1 2 1 2 1 2 1 2 1 2 1 2 1 2 1 2 1 2 1 2 1 2 1
  2 1 2 1 2 1 2 1 3 1 2 1 2 1 3 195 1 210 1 1 2 1 2 206 1 1 2 205 1 205 1 1 3 79 1 202 1 203 1 1
  2 205 1 207 1 97 1 211 1 209 1 1 2 163 1 42561 1 211 1 213 1 130 1 214 1 1 2 1 2 1 2 218 1 1 2
  218 3 1 2 218 1 1 2 217 1 217 1 1 2 1 2 219 1 1 4 1 3 56 14 1 2 1 2 1 2 1 2 1 2 1 2 1 2 1 3 1
  2 1 2 1 2 1 2 1 2 1 2 1 2 1 2 1 6 1 4 1 2 1 2 1 2 1 2 1 2 1 2 1 2 1 2 1 2 1 2 1 2 1 2 1 2 1 2
  1 2 1 2 1 2 1 2 1 2 1 4 1 2 1 2 1 2 1 2 1 2 1 2 1 2 1 2 1 8 10795 1 1 3 10792 1 10815 1 10815
  1 1 3 69 1 71 1 1 2 1 2 1 2 1 2 1 2 10783 1 10780 1 10782 10 42319 5 42315 3 42343 1 42280 1
  42308 4 42308 1 10743 1 42305 5 10749 12 10727 5 42307 5 42282 22 42261 1 42258 210 1 2 1 4 1
  5 130 1 130 1 130 2 116 7 38 2 37 1 37 1 37 2 64 2 63 1 63 1 7235 1 32 2 32 1 32 2 32 1 32 4
  32 2 32 1 32 1 32 5 32 1 32 2 32 1 32 2 32 1 32 5 7219 31 8 9 1 2 1 2 1 2 1 2 1 2 1 2 1 2 1 2
  1 2 1 2 1 2 1 4 7 5 1 3 1 6 80 1 80 1 80 1 80 1 80 1 80 1 80 1 80 1 80 1 80 1 80 1 80 1 80 1
  80 1 80 1 80 1 32 1 32 2 32 2 32 1 32 1 32 1 32 1 32 1 32 1 32 1 32 1 32 2 32 1 32 3 32 1 32 1
  32 1 32 1 32 1 32 1 32 2 32 1 32 1 32 1 32 1 32 49 1 4 1 2 1 2 1 2 1 2 1 2 1 2 1 2 1 2 1 2 1 2
  1 2 1 2 1 2 1 2 1 10 1 2 1 2 1 2 1 2 1 2 1 2 1 2 1 2 1 2 1 2 1 2 1 2 1 2 1 2 1 2 1 2 1 2 1 2 1
  2 1 2 1 2 1 2 1 2 1 2 1 2 1 2 1 2 15 1 1 2 1 2 1 2 1 2 1 2 1 2 1 3 1 2 1 2 1 2 1 2 1 2 1 2 1 2
  1 2 1 2 1 2 1 2 1 2 1 2 1 2 1 2 1 2 1 2 1 2 1 2 1 2 1 2 1 2 1 2 1 2 1 2 1 2 1 2 1 2 1 2 1 2 1
  2 1 2 1 2 1 2 1 2 1 2 1 2 1 2 1 2 1 2 1 2 1 2 1 2 1 2 1 2 1 2 1 2 1 3 48 1 48 1 48 1 48 1 48 1
  48 1 48 1 48 1 48 1 48 1 48 1 48 1 48 1 48 1 48 1 48 1 48 1 48 1 48 1 48 1 48 1 48 1 48 1 48 1
  48 1 48 1 48 1 48 1 48 1 48 1 48 1 48 1 48 1 48 1 48 1 48 1 48 1 48 2890 7264 1 7264 1 7264 1
  7264 1 7264 1 7264 1 7264 1 7264 1 7264 1 7264 1 7264 1 7264 1 7264 1 7264 1 7264 1 7264 1
  7264 1 7264 1 7264 1 7264 1 7264 1 7264 1 7264 1 7264 1 7264 1 7264 1 7264 1 7264 1 7264 1
  7264 1 7264 1 7264 1 7264 1 7264 1 7264 1 7264 1 7264 1 7264 2 7264 6 7264 3 3008 1 3008 1
  3008 1 3008 1 3008 1 3008 1 3008 1 3008 1 3008 1 3008 1 3008 1 3008 1 3008 1 3008 1 3008 1
  3008 1 3008 1 3008 1 3008 1 3008 1 3008 1 3008 1 3008 1 3008 1 3008 1 3008 1 3008 1 3008 1
  3008 1 3008 1 3008 1 3008 1 3008 1 3008 1 3008 1 3008 1 3008 1 3008 1 3008 1 3008 1 3008 1
  3008 1 3008 3 3008 1 3008 1 3008 673 38864 1 38864 1 38864 1 38864 1 38864 1 38864 1 38864 1
  38864 1 38864 1 38864 1 38864 1 38864 1 38864 1 38864 1 38864 1 38864 1 38864 1 38864 1 38864
  1 38864 1 38864 1 38864 1 38864 1 38864 1 38864 1 38864 1 38864 1 38864 1 38864 1 38864 1
  38864 1 38864 1 38864 1 38864 1 38864 1 38864 1 38864 1 38864 1 38864 1 38864 1 38864 1 38864
  1 38864 1 38864 1 38864 1 38864 1 38864 1 38864 1 38864 1 38864 1 38864 1 38864 1 38864 1
  38864 1 38864 1 38864 1 38864 1 38864 1 38864 1 38864 1 38864 1 38864 1 38864 1 38864 1 38864
  1 38864 1 38864 1 38864 1 38864 1 38864 1 38864 1 38864 1 38864 1 38864 1 38864 1 38864 1
  38864 1 38864 1 38864 1 38864 1 8 1 8 1 8 1 8 1 8 1 8 2196 1 240 35332 4 3814 17 35384 114 1 2
  1 2 1 2 1 2 1 2 1 2 1 2 1 2 1 2 1 2 1 2 1 2 1 2 1 2 1 2 1 2 1 2 1 2 1 2 1 2 1 2 1 2 1 2 1 2 1
  2 1 2 1 2 1 2 1 2 1 2 1 2 1 2 1 2 1 2 1 2 1 2 1 2 1 2 1 2 1 2 1 2 1 2 1 2 1 2 1 2 1 2 1 2 1 4
  1 2 1 2 1 2 1 2 1 2 1 2 1 2 1 2 1 2 1 2 1 2 1 2 1 2 1 2 1 2 1 2 1 2 1 2 1 2 1 2 1 2 1 2 1 2 1
  2 1 2 1 12 1 2 1 2 1 2 1 2 1 2 1 2 1 2 1 2 1 2 1 2 1 2 1 2 1 2 1 2 1 2 1 2 1 2 1 2 1 2 1 2 1 2
  1 2 1 2 1 2 1 2 1 2 1 2 1 2 1 2 1 2 1 2 1 2 1 2 1 2 1 2 1 2 1 2 1 2 1 2 1 2 1 2 1 2 1 2 1 2 1
  2 1 2 1 2 1 2 8 1 8 1 8 1 8 1 8 1 8 1 8 1 8 9 8 1 8 1 8 1 8 1 8 1 8 11 8 1 8 1 8 1 8 1 8 1 8 1
  8 1 8 9 8 1 8 1 8 1 8 1 8 1 8 1 8 1 8 9 8 1 8 1 8 1 8 1 8 1 8 12 8 2 8 2 8 2 8 9 8 1 8 1 8 1 8
  1 8 1 8 1 8 1 8 9 74 1 74 1 86 1 86 1 86 1 86 1 100 1 100 1 128 1 128 1 112 1 112 1 126 1 126
  3 8 1 8 1 8 1 8 1 8 1 8 1 8 1 8 9 8 1 8 1 8 1 8 1 8 1 8 1 8 1 8 9 8 1 8 1 8 1 8 1 8 1 8 1 8 1
  8 9 8 1 8 2 9 16 9 13 8 1 8 15 8 1 8 4 7 14 9 319 28 46 16 1 16 1 16 1 16 1 16 1 16 1 16 1 16
  1 16 1 16 1 16 1 16 1 16 1 16 1 16 1 16 20 1 819 26 1 26 1 26 1 26 1 26 1 26 1 26 1 26 1 26 1
  26 1 26 1 26 1 26 1 26 1 26 1 26 1 26 1 26 1 26 1 26 1 26 1 26 1 26 1 26 1 26 1 26 1841 48 1
  48 1 48 1 48 1 48 1 48 1 48 1 48 1 48 1 48 1 48 1 48 1 48 1 48 1 48 1 48 1 48 1 48 1 48 1 48 1
  48 1 48 1 48 1 48 1 48 1 48 1 48 1 48 1 48 1 48 1 48 1 48 1 48 1 48 1 48 1 48 1 48 1 48 1 48 1
  48 1 48 1 48 1 48 1 48 1 48 1 48 1 48 1 48 49 1 7 1 2 1 2 1 7 1 3 1 11 1 2 1 2 1 2 1 2 1 2 1 2
  1 2 1 2 1 2 1 2 1 2 1 2 1 2 1 2 1 2 1 2 1 2 1 2 1 2 1 2 1 2 1 2 1 2 1 2 1 2 1 2 1 2 1 2 1 2 1
  2 1 2 1 2 1 2 1 2 1 2 1 2 1 2 1 2 1 2 1 2 1 2 1 2 1 2 1 2 1 2 1 2 1 2 1 2 1 2 1 9 1 2 1 5 1
  31054 1 2 1 2 1 2 1 2 1 4 1 2 1 2 1 2 1 2 1 2 1 2 1 2 1 2 1 2 1 2 1 2 1 2 1 2 1 2 1 2 1 2 1 20
  1 2 1 2 1 2 1 2 1 2 1 2 1 2 1 2 1 2 1 2 1 2 1 2 1 2 1 136 1 2 1 2 1 2 1 2 1 2 1 2 1 4 1 2 1 2
  1 2 1 2 1 2 1 2 1 2 1 2 1 2 1 2 1 2 1 2 1 2 1 2 1 2 1 2 1 2 1 2 1 2 1 2 1 2 1 2 1 2 1 2 1 2 1
  2 1 2 1 2 1 2 1 2 1 11 1 2 1 3 1 2 1 2 1 2 1 2 1 5 1 5 1 2 1 2 48 2 1 2 1 2 1 2 1 2 1 2 1 2 1
  2 1 2 1 2 1 11 928 1 1 2 1 2 1 2 1 2 1 2 1 2 1 2 1 5 1 2 1 3 1 2 1 2 1 2 1 2 1 2 1 2 1 2 1 27
  1 21264 1 1052 32 1 32 1 32 1 32 1 32 1 32 1 32 1 32 1 32 1 32 1 32 1 32 1 32 1 32 1 32 1 32 1
  32 1 32 1 32 1 32 1 32 1 32 1 32 1 32 1 32 1 32 1222 40 1 40 1 40 1 40 1 40 1 40 1 40 1 40 1
  40 1 40 1 40 1 40 1 40 1 40 1 40 1 40 1 40 1 40 1 40 1 40 1 40 1 40 1 40 1 40 1 40 1 40 1 40 1
  40 1 40 1 40 1 40 1 40 1 40 1 40 1 40 1 40 1 40 1 40 1 40 1 40 137 40 1 40 1 40 1 40 1 40 1 40
  1 40 1 40 1 40 1 40 1 40 1 40 1 40 1 40 1 40 1 40 1 40 1 40 1 40 1 40 1 40 1 40 1 40 1 40 1 40
  1 40 1 40 1 40 1 40 1 40 1 40 1 40 1 40 1 40 1 40 1 40 157 39 1 39 1 39 1 39 1 39 1 39 1 39 1
  39 1 39 1 39 1 39 2 39 1 39 1 39 1 39 1 39 1 39 1 39 1 39 1 39 1 39 1 39 1 39 1 39 1 39 1 39 2
  39 1 39 1 39 1 39 1 39 1 39 1 39 2 39 1 39 1771 64 1 64 1 64 1 64 1 64 1 64 1 64 1 64 1 64 1
  64 1 64 1 64 1 64 1 64 1 64 1 64 1 64 1 64 1 64 1 64 1 64 1 64 1 64 1 64 1 64 1 64 1 64 1 64 1
  64 1 64 1 64 1 64 1 64 1 64 1 64 1 64 1 64 1 64 1 64 1 64 1 64 1 64 1 64 1 64 1 64 1 64 1 64 1
  64 1 64 1 64 1 64 158 32 1 32 1 32 1 32 1 32 1 32 1 32 1 32 1 32 1 32 1 32 1 32 1 32 1 32 1 32
  1 32 1 32 1 32 1 32 1 32 1 32 1 32 2875 32 1 32 1 32 1 32 1 32 1 32 1 32 1 32 1 32 1 32 1 32 1
  32 1 32 1 32 1 32 1 32 1 32 1 32 1 32 1 32 1 32 1 32 1 32 1 32 1 32 1 32 1 32 1 32 1 32 1 32 1
  32 1 32 21889 32 1 32 1 32 1 32 1 32 1 32 1 32 1 32 1 32 1 32 1 32 1 32 1 32 1 32 1 32 1 32 1
  32 1 32 1 32 1 32 1 32 1 32 1 32 1 32 1 32 1 32 1 32 1 32 1 32 1 32 1 32 1 32 65 27 1 27 1 27
  1 27 1 27 1 27 1 27 1 27 1 27 1 27 1 27 1 27 1 27 1 27 1 27 1 27 1 27 1 27 1 27 1 27 1 27 1 27
  1 27 1 27 1 27 31304 34 1 34 1 34 1 34 1 34 1 34 1 34 1 34 1 34 1 34 1 34 1 34 1 34 1 34 1 34
  1 34 1 34 1 34 1 34 1 34 1 34 1 34 1 34 1 34 1 34 1 34 1 34 1 34 1 34 1 34 1 34 1 34 1 34 1 34"

def pairClasses : List (List Nat) :=
  let step := fun (acc : Nat × List (List Nat)) (p : Nat × Nat) =>
    (acc.1 + p.1, [acc.1 + p.1, acc.1 + p.1 + p.2] :: acc.2)
  ((pairUp (numbers pairTable)).foldl step (128, [])).2.reverse

def foldingClasses : List (List Nat) := latinClasses ++ largeClasses ++ pairClasses

end Unicode

end BenchTracker
