import BenchTracker.Regex.Look

/-!
# Patterns

The written form of regular expressions as a tree: what a pattern says before the flags that hold
at each of its parts are applied.
-/

namespace BenchTracker

namespace Regex

/-- A flag of a pattern. -/
inductive Flag where
  /-- `i`: letters stand for both cases. -/
  | ignoreCase
  /-- `m`: `^` and `$` stand for the ends of lines. -/
  | multiLine
  /-- `s`: the dot stands for line feeds as well. -/
  | dotAll
  /-- `U`: repetitions are lazy unless marked otherwise. -/
  | swapGreed
  /-- `u`: classes are those of Unicode. -/
  | unicode
  /-- `R`: a carriage return and a line feed end a line together. -/
  | crlf
  /-- `x`: white space and comments in the pattern do not count. -/
  | verbose
  deriving DecidableEq, Repr

/-- Flags switched on or off. -/
abbrev FlagChanges := List (Flag × Bool)

/-- The classes `\d`, `\s` and `\w`. -/
inductive Shorthand where
  | digit
  | space
  | word
  deriving DecidableEq, Repr

/-- The classes that are named like `[:alpha:]`. -/
inductive AsciiClass where
  | alnum
  | alpha
  | ascii
  | blank
  | cntrl
  | digit
  | graph
  | lower
  | print
  | punct
  | space
  | upper
  | word
  | xdigit
  deriving DecidableEq, Repr

/-- The name of a Unicode property, such as `Greek` or `Script=Greek`. -/
structure PropertyName where
  name : List Char
  value : Option (List Char)
  deriving DecidableEq, Repr

/-- The operations between sets in brackets. -/
inductive SetOperation where
  | intersection
  | difference
  | symmetricDifference
  deriving DecidableEq, Repr

/-- What stands between brackets. -/
inductive Bracketed where
  | empty
  | range (first last : Char)
  | ascii (name : AsciiClass) (negated : Bool)
  | shorthand (name : Shorthand) (negated : Bool)
  | property (name : PropertyName) (negated : Bool)
  /-- Brackets within brackets. -/
  | nested (negated : Bool) (inner : Bracketed)
  /-- Several items one after the other. -/
  | union (items : List Bracketed)
  | combined (operation : SetOperation) (a b : Bracketed)
  deriving Repr

/-- An assertion about a place. -/
inductive Assertion where
  /-- `^` -/
  | caret
  /-- `$` -/
  | dollar
  | textStart
  | textEnd
  | word (edge : WordEdge)
  deriving DecidableEq, Repr

/-- A pattern. -/
inductive Pattern where
  | empty
  | flags (changes : FlagChanges)
  /-- A character; it may be written as a byte with two digits in base sixteen. -/
  | literal (c : Char) (asByte : Bool)
  | dot
  | assertion (a : Assertion)
  | shorthand (name : Shorthand) (negated : Bool)
  | property (name : PropertyName) (negated : Bool)
  | bracketed (negated : Bool) (inner : Bracketed)
  | repeated (p : Pattern) (least : Nat) (most : Option Nat)
  | group (captured : Bool) (changes : FlagChanges) (p : Pattern)
  | sequence (ps : List Pattern)
  | alternation (ps : List Pattern)
  deriving Repr, Inhabited

namespace Bracketed

/-- Items one after the other; a single one stands for itself. -/
def ofItems : List Bracketed → Bracketed
  | [] => empty
  | [item] => item
  | items => union items

mutual

/-- How deeply brackets, operations and rows of items are nested. -/
def depth : Bracketed → Nat
  | nested _ inner => inner.depth + 1
  | union items => depthOfItems items + 1
  | combined _ a b => max a.depth b.depth + 1
  | _ => 0

def depthOfItems : List Bracketed → Nat
  | [] => 0
  | item :: rest => max item.depth (depthOfItems rest)

end

end Bracketed

namespace Pattern

/-- Patterns one after the other; a single one stands for itself. -/
def ofSequence : List Pattern → Pattern
  | [] => empty
  | [p] => p
  | ps => sequence ps

/-- Patterns to choose from; a single one stands for itself. -/
def ofAlternatives : List Pattern → Pattern
  | [] => empty
  | [p] => p
  | ps => alternation ps

mutual

/-- How deeply a pattern is nested. -/
def depth : Pattern → Nat
  | bracketed _ inner => inner.depth + 1
  | repeated p _ _ => p.depth + 1
  | group _ _ p => p.depth + 1
  | sequence ps => depthOfAll ps + 1
  | alternation ps => depthOfAll ps + 1
  | _ => 0

def depthOfAll : List Pattern → Nat
  | [] => 0
  | p :: rest => max p.depth (depthOfAll rest)

end

/-- The deepest nesting that a pattern may have. -/
def depthLimit : Nat := 250

end Pattern

end Regex

end BenchTracker
