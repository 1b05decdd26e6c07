/-!
# Ranges of code points

Sets of code points as closed ranges in ascending order that do not touch one another, with the
operations of set theory, and the tables they are written in. Complements are taken within the code
points of characters, which leaves out the surrogates. A table is a text of numbers: for every range
the gap in front of it and the number of code points it has beyond its first.
-/

namespace BenchTracker

namespace Unicode

/-- The numbers in a text; anything but digits separates them. -/
def numbers (table : String) : List Nat :=
  let step := fun (acc : Option Nat × List Nat) (c : Char) =>
    if c.isDigit then (some (acc.1.getD 0 * 10 + (c.toNat - 48)), acc.2)
    else (none, acc.1.toList ++ acc.2)
  let (last, done) := table.toList.foldl step (none, [])
  (last.toList ++ done).reverse

def pairUp : List Nat → List (Nat × Nat)
  | a :: b :: rest => (a, b) :: pairUp rest
  | _ => []

/-- Closed ranges of code points, in ascending order. -/
abbrev Ranges := List (Nat × Nat)

namespace Ranges

/-- Whether one of the ranges has the code point. -/
def contains : Ranges → Nat → Bool
  | [], _ => false
  | (first, last) :: rest, n => if n < first then false else n ≤ last || contains rest n

/-- Reads a table of gaps and sizes. -/
def decode (table : String) : Ranges :=
  let step := fun (acc : Nat × Ranges) (p : Nat × Nat) =>
    (acc.1 + p.1 + p.2 + 1, (acc.1 + p.1, acc.1 + p.1 + p.2) :: acc.2)
  ((pairUp (numbers table)).foldl step (0, [])).2.reverse

/-- Puts a range in front of ranges that start no earlier, joining it with those that it touches. -/
def push (r : Nat × Nat) : Ranges → Ranges
  | [] => [r]
  | (first, last) :: rest =>
    if first ≤ r.2 + 1 then push (r.1, max r.2 last) rest else r :: (first, last) :: rest

/-- The set of some ranges, in any order. -/
def ofRanges (rs : List (Nat × Nat)) : Ranges :=
  ((rs.filter fun r => r.1 ≤ r.2).mergeSort fun a b => a.1 ≤ b.1).foldr push []

def union (a b : Ranges) : Ranges := ofRanges (a ++ b)

def unionAll (sets : List Ranges) : Ranges := ofRanges sets.flatten

/-- The greatest code point. -/
def last : Nat := 0x10FFFF

/-- What lies between the ranges, from `next` on. -/
def gaps (next : Nat) : Ranges → Ranges
  | [] => if next ≤ last then [(next, last)] else []
  | (first, stop) :: rest =>
    if next < first then (next, first - 1) :: gaps (stop + 1) rest else gaps (stop + 1) rest

def surrogates : Ranges := [(0xD800, 0xDFFF)]

def complement (a : Ranges) : Ranges := gaps 0 (union a surrogates)

def intersection (a b : Ranges) : Ranges := complement (union (complement a) (complement b))

def difference (a b : Ranges) : Ranges := intersection a (complement b)

def symmetricDifference (a b : Ranges) : Ranges :=
  union (difference a b) (difference b a)

end Ranges

end Unicode

end BenchTracker
