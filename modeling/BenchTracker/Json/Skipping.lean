import BenchTracker.Json.Number
import BenchTracker.Json.Text

/-!
# Skipping JSON values

The value of a field that nobody asks for is skipped, however deeply it is nested: the brackets
that are open stand in a list, the innermost first. Numbers only have to be written well, and any
escaped code unit will do.
-/

namespace BenchTracker

namespace Json

namespace Reader

/-- The brackets of lists and of fields. -/
inductive Bracket where
  | square
  | curly
  deriving DecidableEq, Repr

def Bracket.close : Bracket → Char
  | .square => ']'
  | .curly => '\x7d'

/-- Skips digits, at least one; it makes no difference whether the text ends or goes on with
another character. -/
def skipDigits : Reader Unit := fun s =>
  match someDigits s with
  | .ok (_, r) => .ok ((), r)
  | .error _ => .error .malformed

/-- Skips the digits in front of the point; a leading zero stands alone. -/
def skipWhole : Reader Unit := fun s =>
  match s with
  | '0' :: c :: r => if c.isDigit then .error .malformed else .ok ((), c :: r)
  | _ => skipDigits s

/-- Skips a point and digits, if there is a point. -/
def skipFraction : Reader Unit := fun s =>
  match s with
  | '.' :: r => skipDigits r
  | _ => .ok ((), s)

/-- Skips an exponent, if there is one. -/
def skipExponent : Reader Unit := fun s =>
  match s with
  | [] => .ok ((), [])
  | c :: r => if isExponentMark c then skipDigits (exponentSign r).2 else .ok ((), c :: r)

/-- Skips a number without its sign. -/
def skipNumber : Reader Unit := fun s => do
  let (_, r) ← skipWhole s
  let (_, r) ← skipFraction r
  skipExponent r

/-- Skips a value that starts with the given character and is not between brackets. -/
def skipScalar (c : Char) : Reader Unit := fun r =>
  if c = '"' then skipTextTail r
  else if c = '-' then skipNumber r
  else if c.isDigit then skipNumber (c :: r)
  else if c = 'n' then word ['u', 'l', 'l'] r
  else if c = 't' then word ['r', 'u', 'e'] r
  else if c = 'f' then word ['a', 'l', 's', 'e'] r
  else .error .malformed

/-- Skips a key and its colon. -/
def skipKey : Reader Unit := fun s => do
  let (_, r) ← mark '"' s
  let (_, r) ← skipTextTail r
  mark ':' r

/-- Goes on to the value of an item: behind the key, if items have one. -/
def approach (b : Bracket) (outer : List Bracket) : Reader (List Bracket) := fun s =>
  match b with
  | .square => .ok (b :: outer, s)
  | .curly => (skipKey s).map fun (_, r) => (b :: outer, r)

/-- Goes on behind a complete value inside the given brackets: closes the brackets that end here,
and takes a comma otherwise. The brackets that are still open are left, and stand at a value. -/
def leave : List Bracket → Reader (List Bracket)
  | [], s => .ok ([], s)
  | b :: outer, s =>
    match skipGap s with
    | [] => .error .truncated
    | c :: r =>
      if c = b.close then leave outer r
      else if c = ',' then approach b outer r
      else .error .malformed

/-- Goes on behind an opening bracket: to the first value, or past the closing bracket. -/
def enter (b : Bracket) (outer : List Bracket) : Reader (List Bracket) := fun s =>
  match skipGap s with
  | [] => .error .truncated
  | c :: r => if c = b.close then leave outer r else approach b outer (c :: r)

/-- Skips a value or its opening bracket. -/
def skipStep (open_ : List Bracket) : Reader (List Bracket) := fun s =>
  match skipGap s with
  | [] => .error .truncated
  | c :: r =>
    if c = '[' then enter .square open_ r
    else if c = '\x7b' then enter .curly open_ r
    else do
      let (_, r) ← skipScalar c r
      leave open_ r

/-- Skips values until no bracket is open. Every step takes a character, so the length of the text
bounds their number. -/
def skipFrom : Nat → List Bracket → Reader Unit
  | 0, _, _ => .error .malformed
  | fuel + 1, open_, s => do
    let (still, r) ← skipStep open_ s
    if still = [] then .ok ((), r) else skipFrom fuel still r

/-- Skips one value. -/
def skipValue : Reader Unit := fun s => skipFrom (s.length + 1) [] s

end Reader

end Json

end BenchTracker
