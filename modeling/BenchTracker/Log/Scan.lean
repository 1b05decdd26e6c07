import BenchTracker.Text.Blank

/-!
# Scanning texts

A scan takes something from the front of a text, or refuses. Where a part of the scanned text can
end at several places, the last place that lets the rest succeed is taken.
-/

namespace BenchTracker

namespace Scan

/-- The text behind a mark that stands in front. -/
def after? : List Char → List Char → Option (List Char)
  | [], s => some s
  | _ :: _, [] => none
  | m :: ms, c :: s => if c = m then after? ms s else none

/-- The longest run of accepted characters in front, at least one, and the text behind it. -/
def run? (accept : Char → Bool) (s : List Char) : Option (List Char × List Char) :=
  match s.takeWhile accept with
  | [] => none
  | run => some (run, s.dropWhile accept)

/-- Tries the text behind each run of accepted characters in front, the longest run first. -/
def afterRun? {α : Type} (accept : Char → Bool) (rest : List Char → Option α) :
    List Char → Option α
  | [] => none
  | c :: s => if accept c then (afterRun? accept rest s).or (rest s) else none

/-- Tries each text behind a piece of the line in front, the longest piece first. The piece has at
least one character. -/
def afterPiece? {α : Type} (rest : List Char → Option α) : List Char → Option (List Char × α)
  | [] => none
  | c :: s =>
    if c = '\n' then none
    else
      match afterPiece? rest s with
      | some (piece, x) => some (c :: piece, x)
      | none => (rest s).map fun x => ([c], x)

/-- The first success from left to right. -/
def first? {α : Type} (scan : List Char → Option (α × List Char)) : List Char → Option α
  | [] => none
  | c :: s =>
    match scan (c :: s) with
    | some (x, _) => some x
    | none => first? scan s

/-- All successes from left to right; the next one starts behind the one before. The length of the
text bounds their number. -/
def allFrom {α : Type} (scan : List Char → Option (α × List Char)) : Nat → List Char → List α
  | 0, _ => []
  | _ + 1, [] => []
  | fuel + 1, c :: s =>
    match scan (c :: s) with
    | some (x, rest) => x :: allFrom scan fuel rest
    | none => allFrom scan fuel s

def all {α : Type} (scan : List Char → Option (α × List Char)) (s : List Char) : List α :=
  allFrom scan s.length s

def isDigit (c : Char) : Bool := '0' ≤ c && c ≤ '9'

end Scan

end BenchTracker
