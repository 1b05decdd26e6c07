import BenchTracker.Regex.CharSet
import BenchTracker.Regex.Look

/-!
# Regular expressions

Regular expressions over characters with looks, and whether one matches somewhere in a text. The
matcher carries a set of places of the text through the expression: from the places where a match
may begin to those where it may end.
-/

namespace BenchTracker

/-- A regular expression. -/
inductive Regex where
  | empty
  /-- One character of the set. -/
  | chars (set : Regex.CharSet)
  | look (l : Regex.Look)
  | seq (a b : Regex)
  | alt (a b : Regex)
  /-- At least `least` and at most `most` times, or without an upper limit. -/
  | repeated (a : Regex) (least : Nat) (most : Option Nat)
  /-- A group that is captured, which makes no difference to whether there is a match. -/
  | group (a : Regex)
  deriving Repr, Inhabited

namespace Regex

/-- For every place of a text, from its start to its end, whether it belongs to a set. -/
abbrev Places := List Bool

namespace Places

/-- The places of a text. -/
def ofText (text : List Char) : List Place :=
  List.zipWith Place.mk (none :: text.map some) (text.map some ++ [none])

def everywhere (text : List Char) : Places := true :: text.map fun _ => true

def union (a b : Places) : Places := List.zipWith (· || ·) a b

def isEmpty (a : Places) : Bool := a.all not

/-- The places that are reached by one character of the set. -/
def advance (text : List Char) (set : CharSet) (a : Places) : Places :=
  false :: List.zipWith (fun c here => here && set.contains c.toNat) text a

/-- The places that have a property. -/
def restrict (text : List Char) (l : Look) (a : Places) : Places :=
  List.zipWith (fun p here => here && l.holds p) (ofText text) a

/-- Goes on `n` times, as long as there is any place. -/
def iterate (step : Places → Places) : Nat → Places → Places
  | 0, a => a
  | n + 1, a => if a.isEmpty then a else iterate step n (step a)

/-- All places reached in up to `n` further steps. -/
def reach (step : Places → Places) : Nat → Places → Places
  | 0, a => a
  | n + 1, a =>
    let next := union a (step a)
    if next = a then a else reach step n next

end Places

/-- The places where a match can end that begins at one of the given places. Without an upper limit
as many steps as there are places reach all that can be reached. -/
def ends (text : List Char) : Regex → Places → Places
  | empty, a => a
  | chars set, a => a.advance text set
  | look l, a => a.restrict text l
  | seq r s, a => ends text s (ends text r a)
  | alt r s, a => (ends text r a).union (ends text s a)
  | repeated r least most, a =>
    let start := Places.iterate (ends text r) least a
    Places.reach (ends text r)
      (match most with
        | some n => n - least
        | none => text.length + 1)
      start
  | group r, a => ends text r a

/-- Whether there is a match anywhere in the text. -/
def isMatch (r : Regex) (text : List Char) : Bool :=
  ! (ends text r (Places.everywhere text)).isEmpty

end Regex

end BenchTracker
