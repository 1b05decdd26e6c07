/-!
# Reading JSON texts

A reader takes a value from the front of a text and leaves the rest. A text is read in one pass
from left to right for a value of a known shape, and the first problem met decides the fault.
-/

namespace BenchTracker

namespace Json

/-- What is wrong with a text. -/
inductive Fault where
  /-- The text is no JSON, or has more elements than its shape allows. -/
  | malformed
  /-- The text ends too early. -/
  | truncated
  /-- The text is well formed so far, but is not of the shape. -/
  | mismatched
  deriving DecidableEq, Repr, Inhabited

def Fault.message : Fault → String
  | .malformed => "the text is not well formed"
  | .truncated => "the text ends too early"
  | .mismatched => "the text does not have the expected shape"

/-- Takes a value from the front of a text. -/
abbrev Reader (α : Type) := List Char → Except Fault (α × List Char)

namespace Reader

/-- White space between the tokens. -/
def isGap (c : Char) : Bool := c = ' ' || c = '\n' || c = '\t' || c = '\r'

def skipGap (s : List Char) : List Char := s.dropWhile isGap

/-- Reads the given characters. -/
def word : List Char → Reader Unit
  | [], s => .ok ((), s)
  | _ :: _, [] => .error .truncated
  | w :: ws, c :: s => if c = w then word ws s else .error .malformed

/-- Reads a character that must follow, perhaps after a gap. -/
def mark (c : Char) : Reader Unit := fun s => word [c] (skipGap s)

/-- Whether a list between brackets goes on. At the closing bracket, which stays, it does not. From
the second item on a comma is taken, and then an item must follow. -/
def hasItem (close : Char) (first : Bool) : Reader Bool := fun s =>
  match skipGap s with
  | [] => .error .truncated
  | c :: r =>
    if c = close then .ok (false, c :: r)
    else if first then .ok (true, c :: r)
    else if c = ',' then
      match skipGap r with
      | [] => .error .truncated
      | d :: r => if d = close then .error .malformed else .ok (true, d :: r)
    else .error .malformed

/-- Reads an item if there is one more before the closing bracket. -/
def item? {α : Type} (close : Char) (item : Reader α) (first : Bool) : Reader (Option α) :=
  fun s => do
    match ← hasItem close first s with
    | (false, r) => .ok (none, r)
    | (true, r) =>
      let (x, r) ← item r
      .ok (some x, r)

/-- Reads the items up to the closing bracket, which stays. Every item takes a character, so the
length of the text bounds their number. -/
def itemsFrom {α : Type} (close : Char) (item : Reader α) : Nat → Bool → Reader (List α)
  | 0, _, _ => .error .malformed
  | fuel + 1, first, s => do
    match ← item? close item first s with
    | (none, r) => .ok ([], r)
    | (some x, r) =>
      let (xs, r) ← itemsFrom close item fuel false r
      .ok (x :: xs, r)

def items {α : Type} (close : Char) (item : Reader α) : Reader (List α) :=
  fun s => itemsFrom close item (s.length + 1) true s

/-- Reads an element that must be there. -/
def element {α : Type} (item : Reader α) (first : Bool) : Reader α := fun s => do
  match ← item? ']' item first s with
  | (none, _) => .error .mismatched
  | (some x, r) => .ok (x, r)

/-- Reads the whole of a text. -/
def readAll {α : Type} (value : Reader α) (s : String) : Except Fault α := do
  let (x, r) ← value s.toList
  if skipGap r = [] then .ok x else .error .malformed

end Reader

end Json

end BenchTracker
