import BenchTracker.Json.Skipping

/-!
# Readers for the shapes of values

Readers for strings, numbers, lists and fields. Where something else stands, it is looked at first:
a value of another shape is mismatched, but a word, number or string that is not even written well
is malformed or truncated.
-/

namespace BenchTracker

namespace Json

namespace Reader

/-- The fault of a value that is not of the shape asked for; the text starts with it. -/
def wrongShape (s : List Char) : Fault :=
  let after {α : Type} (result : Except Fault (α × List Char)) : Fault :=
    match result with
    | .ok _ => .mismatched
    | .error fault => fault
  match s with
  | [] => .truncated
  | c :: r =>
    if c = '[' ∨ c = '\x7b' then .mismatched
    else if c = '"' then after (textTail r)
    else if c = '-' ∨ c.isDigit then after (number s)
    else after (skipScalar c r)

/-- Reads a value between brackets; the reader inside stops in front of the closing one. -/
def between {α : Type} (b : Bracket) (inside : Reader α) : Reader α := fun s => do
  let opening := match b with
    | .square => '['
    | .curly => '\x7b'
  match skipGap s with
  | [] => .error .truncated
  | c :: r =>
    if c = opening then
      let (x, r) ← inside r
      let (_, r) ← mark b.close r
      .ok (x, r)
    else .error (wrongShape (c :: r))

/-- Reads a list of values of one shape. -/
def listOf {α : Type} (value : Reader α) : Reader (List α) :=
  between .square (items ']' value)

/-- Reads a string. -/
def text : Reader String := fun s =>
  match skipGap s with
  | [] => .error .truncated
  | '"' :: r => textTail r
  | c :: r => .error (wrongShape (c :: r))

/-- Reads a number. -/
def anyNumber : Reader Number := fun s =>
  match skipGap s with
  | [] => .error .truncated
  | c :: r =>
    if c = '-' ∨ c.isDigit then number (c :: r) else .error (wrongShape (c :: r))

/-- Reads a number that is kept as a double. -/
def real : Reader Float := fun s => do
  let (x, r) ← anyNumber s
  match x with
  | .natural n => .ok (Double.ofNat n, r)
  | .negative n => .ok (- Double.ofNat n, r)
  | .real x => .ok (x, r)

/-- Reads a natural number below a limit. -/
def natural (limit : Nat) : Reader Nat := fun s => do
  match ← anyNumber s with
  | (.natural n, r) => if n < limit then .ok (n, r) else .error .mismatched
  | _ => .error .mismatched

/-- Reads a signed 64-bit integer. -/
def integer : Reader Int := fun s => do
  match ← anyNumber s with
  | (.natural n, r) => if n < 1 <<< 63 then .ok ((n : Int), r) else .error .mismatched
  | (.negative n, r) => .ok (-(n : Int), r)
  | (.real _, _) => .error .mismatched

/-- Reads a value for which `null` may stand. -/
def orNull {α : Type} (value : Reader α) : Reader (Option α) := fun s =>
  match skipGap s with
  | 'n' :: r => (word ['u', 'l', 'l'] r).map fun (_, r) => (none, r)
  | r => (value r).map fun (x, r) => (some x, r)

/-- Reads the key of a field. The text stands at a character. -/
def key : Reader String := fun s =>
  match s with
  | '"' :: r => textTail r
  | _ => .error .malformed

/-- Reads a field: its key, a colon and its value. -/
def field {α : Type} (value : Reader α) : Reader (String × α) := fun s => do
  let (k, r) ← key s
  let (_, r) ← mark ':' r
  let (x, r) ← value r
  .ok ((k, x), r)

/-- Reads fields with values of one shape. -/
def fieldsOf {α : Type} (value : Reader α) : Reader (List (String × α)) :=
  between .curly (items '\x7d' (field value))

/-- Reads the fields up to the closing bracket, which stays, and gathers what they say. The step
stands behind a key. -/
def membersFrom {σ : Type} (member : String → σ → Reader σ) : Nat → Bool → σ → Reader σ
  | 0, _, _, _ => .error .malformed
  | fuel + 1, first, acc, s => do
    match ← item? '\x7d' key first s with
    | (none, r) => .ok (acc, r)
    | (some k, r) =>
      let (acc, r) ← member k acc r
      membersFrom member fuel false acc r

def members {σ : Type} (member : String → σ → Reader σ) (start : σ) : Reader σ :=
  between .curly fun s => membersFrom member (s.length + 1) true start s

/-- Reads the value of a known field, unless the field has been there before. -/
def once {α σ : Type} (before : Option α) (value : Reader α) (set : α → σ) : Reader σ := fun s =>
  match before with
  | some _ => .error .mismatched
  | none => do
    let (_, r) ← mark ':' s
    let (x, r) ← value r
    .ok (set x, r)

/-- Skips the value of an unknown field. -/
def skipMember {σ : Type} (acc : σ) : Reader σ := fun s => do
  let (_, r) ← mark ':' s
  let (_, r) ← skipValue r
  .ok (acc, r)

end Reader

end Json

end BenchTracker
