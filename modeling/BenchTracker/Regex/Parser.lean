import BenchTracker.Decimal.Reading
import BenchTracker.Regex.Pattern
import BenchTracker.Text.Blank
import BenchTracker.Unicode.Letter

/-!
# Reading patterns

Patterns are read from left to right without looking back further than the item before. A text that
is no pattern is refused. Every round of a loop takes a character, so the length of the text bounds
the number of rounds.
-/

namespace BenchTracker

namespace Regex

namespace Parser

/-- The part of the text that is still to be read and what has been said so far. -/
structure Cursor where
  rest : List Char
  /-- Whether white space and comments are skipped. -/
  verbose : Bool
  /-- The names of groups so far. -/
  names : List (List Char)

/-- A step of reading, which may refuse the text. -/
abbrev Parse := StateT Cursor Option

def refuse {α : Type} : Parse α := fun _ => none

def check (ok : Bool) : Parse Unit := if ok then pure () else refuse

/-- The next character, if there is one. -/
def next? : Parse (Option Char) := do return (← get).rest.head?

/-- The next character, which must be there. -/
def next : Parse Char := do
  match ← next? with
  | some c => return c
  | none => refuse

/-- Goes past a character. -/
def bump : Parse Unit := modify fun c => { c with rest := c.rest.drop 1 }

/-- Skips white space and comments; whether the text starts within a comment is said. -/
def skipBlanks : Bool → List Char → List Char
  | _, [] => []
  | true, c :: s => skipBlanks (c ≠ '\n') s
  | false, c :: s =>
    if Text.isBlank c then skipBlanks false s
    else if c = '#' then skipBlanks true s
    else c :: s

/-- The text behind white space and comments, where they do not count. -/
def Cursor.skipped (c : Cursor) : List Char :=
  if c.verbose then skipBlanks false c.rest else c.rest

/-- Skips white space and comments, where they do not count. -/
def skip : Parse Unit := modify fun c => { c with rest := c.skipped }

/-- Goes past a character and what does not count behind it. -/
def advance : Parse Unit := do bump; skip

/-- Whether the rest starts with a mark. -/
def startsWith (mark : List Char) : Parse Bool := do return mark.isPrefixOf (← get).rest

/-- Takes a mark if the rest starts with it. -/
def takeIf (mark : List Char) : Parse Bool := do
  if ← startsWith mark then
    modify fun c => { c with rest := c.rest.drop mark.length }
    return true
  else return false

/-- Takes one character if it is the next one. -/
def takeChar (c : Char) : Parse Unit := do
  if ← startsWith [c] then bump

/-! ## Numbers -/

/-- Takes digits, with skipping in between. -/
def digitsFrom (verbose : Bool) : Nat → List Char → List Char × List Char
  | 0, s => ([], s)
  | _ + 1, [] => ([], [])
  | fuel + 1, c :: s =>
    if c.isDigit then
      let (ds, s) := digitsFrom verbose fuel (if verbose then skipBlanks false s else s)
      (c :: ds, s)
    else ([], c :: s)

/-- Reads a 32-bit number with white space around it, if there is one. -/
def decimal : Parse (Option Nat) := do
  let c ← get
  let s := Text.trimStart c.rest
  let (ds, s) := digitsFrom c.verbose s.length s
  set { c with rest := Text.trimStart s }
  check (Decimal.ofDigits ds < 1 <<< 32)
  return if ds = [] then none else some (Decimal.ofDigits ds)

/-- Reads a number that must be there. -/
def someDecimal : Parse Nat := do
  match ← decimal with
  | some n => return n
  | none => refuse

/-- Reads the bounds of a repetition behind its brace. -/
def bounds : Parse (Nat × Option Nat) := do
  let first ← decimal
  if (← next) = ',' then
    advance
    match first with
    | none => refuse
    | some least =>
      if (← next) = '\x7d' then return (least, none)
      else
        let most ← someDecimal
        check (least ≤ most)
        return (least, some most)
  else
    match first with
    | none => refuse
    | some n => return (n, some n)

/-! ## Escapes -/

/-- What an escape stands for. -/
inductive Escaped where
  | literal (c : Char) (asByte : Bool)
  | shorthand (name : Shorthand) (negated : Bool)
  | property (name : PropertyName) (negated : Bool)
  | assertion (a : Assertion)

/-- The characters that mean something by themselves. -/
def isMeta (c : Char) : Bool :=
  c ∈ ['\\', '.', '+', '*', '?', '(', ')', '|', '[', ']', '\x7b', '\x7d', '^', '$', '#',
    '&', '-', '~']

/-- The characters that stand for themselves behind a backslash. -/
def isEscapable (c : Char) : Bool :=
  isMeta c || (c.toNat < 128 && ! c.isAlphanum && c ≠ '<' && c ≠ '>')

def hexValue? (c : Char) : Option Nat :=
  if '0' ≤ c ∧ c ≤ '9' then some (c.toNat - '0'.toNat)
  else if 'a' ≤ c ∧ c ≤ 'f' then some (c.toNat - 'a'.toNat + 10)
  else if 'A' ≤ c ∧ c ≤ 'F' then some (c.toNat - 'A'.toNat + 10)
  else none

def hexDigit : Parse Nat := do
  match hexValue? (← next) with
  | some d => return d
  | none => refuse

/-- The character of a code point, which must be below `2 ^ 32` and a character. -/
def scalar (n : Nat) : Parse Char := if n.isValidChar then return Char.ofNat n else refuse

/-- Reads a fixed number of digits in base sixteen. -/
def hexDigits : Nat → Nat → Parse Nat
  | 0, acc => return acc
  | n + 1, acc => do
    let d ← hexDigit
    advance
    hexDigits n (acc * 16 + d)

/-- Reads digits in base sixteen up to a brace. -/
def bracedHex : Nat → Bool → Nat → Parse Nat
  | 0, _, _ => refuse
  | fuel + 1, some_, acc => do
    if (← next) = '\x7d' then
      check some_
      advance
      return acc
    else
      let d ← hexDigit
      advance
      bracedHex fuel true (acc * 16 + d)

/-- Reads a code point behind `x`, `u` or `U`. -/
def codePoint (digits : Nat) : Parse Escaped := do
  advance
  if (← next) = '\x7b' then
    advance
    let n ← bracedHex ((← get).rest.length + 1) false 0
    return .literal (← scalar n) false
  else
    let n ← hexDigits digits 0
    return .literal (← scalar n) (digits = 2)

/-- Takes the characters in front of a brace, with skipping in between. -/
def nameFrom (verbose : Bool) : Nat → List Char → Option (List Char × List Char)
  | 0, _ => none
  | _ + 1, [] => none
  | fuel + 1, c :: s =>
    if c = '\x7d' then some ([], s)
    else
      (nameFrom verbose fuel (if verbose then skipBlanks false s else s)).map
        fun (cs, s) => (c :: cs, s)

/-- The parts in front of a mark and behind it. -/
def splitAt? (mark : List Char) : List Char → Option (List Char × List Char)
  | [] => none
  | c :: s =>
    if mark.isPrefixOf (c :: s) then some ([], (c :: s).drop mark.length)
    else (splitAt? mark s).map fun (front, back) => (c :: front, back)

/-- The property that a text between braces names, and whether it says that it is not meant. -/
def propertyOf (name : List Char) : PropertyName × Bool :=
  match splitAt? ['!', '='] name with
  | some (name, value) => (⟨name, some value⟩, true)
  | none =>
    match splitAt? [':'] name with
    | some (name, value) => (⟨name, some value⟩, false)
    | none =>
      match splitAt? ['='] name with
      | some (name, value) => (⟨name, some value⟩, false)
      | none => (⟨name, none⟩, false)

/-- Reads a property behind `p` or `P`. -/
def property (negated : Bool) : Parse Escaped := do
  advance
  if (← next) = '\x7b' then
    advance
    let c ← get
    match nameFrom c.verbose (c.rest.length + 1) c.rest with
    | none => refuse
    | some (name, rest) =>
      set { c with rest }
      let (name, unequal) := propertyOf name
      return .property name (negated != unequal)
  else
    let c ← next
    check (c ≠ '\\')
    advance
    return .property ⟨[c], none⟩ negated

def isEdgeNameChar (c : Char) : Bool := c.isAlpha || c = '-'

/-- Takes the letters of the name of a word edge, with skipping in between. -/
def edgeNameFrom (verbose : Bool) : Nat → List Char → List Char × List Char
  | 0, s => ([], s)
  | _ + 1, [] => ([], [])
  | fuel + 1, c :: s =>
    if isEdgeNameChar c then
      let (cs, s) := edgeNameFrom verbose fuel (if verbose then skipBlanks false s else s)
      (c :: cs, s)
    else ([], c :: s)

def edgeOfName? (name : List Char) : Option WordEdge :=
  if name = "start".toList then some .start
  else if name = "end".toList then some .stop
  else if name = "start-half".toList then some .startHalf
  else if name = "end-half".toList then some .stopHalf
  else none

/-- Reads what may stand behind `\b`: the name of a word edge between braces. Braces around
anything but a name belong to a repetition. -/
def wordEdge : Parse WordEdge := do
  if ← startsWith ['\x7b'] then
    let before ← get
    advance
    if isEdgeNameChar (← next) then
      let c ← get
      let (name, rest) := edgeNameFrom c.verbose c.rest.length c.rest
      set { c with rest }
      check ((← next) = '\x7d')
      bump
      match edgeOfName? name with
      | some edge => return edge
      | none => refuse
    else
      set before
      return .any
  else return .any

/-- Reads what stands behind a backslash. -/
def escape : Parse Escaped := do
  bump
  let c ← next
  match c with
  | 'x' => codePoint 2
  | 'u' => codePoint 4
  | 'U' => codePoint 8
  | 'p' => property false
  | 'P' => property true
  | _ =>
    bump
    match c with
    | 'd' => return .shorthand .digit false
    | 'D' => return .shorthand .digit true
    | 's' => return .shorthand .space false
    | 'S' => return .shorthand .space true
    | 'w' => return .shorthand .word false
    | 'W' => return .shorthand .word true
    | 'a' => return .literal '\x07' false
    | 'f' => return .literal '\x0c' false
    | 't' => return .literal '\t' false
    | 'n' => return .literal '\n' false
    | 'r' => return .literal '\r' false
    | 'v' => return .literal '\x0b' false
    | 'A' => return .assertion .textStart
    | 'z' => return .assertion .textEnd
    | 'b' => return .assertion (.word (← wordEdge))
    | 'B' => return .assertion (.word .none)
    | '<' => return .assertion (.word .start)
    | '>' => return .assertion (.word .stop)
    | _ =>
      check (isEscapable c)
      return .literal c false

/-! ## Brackets -/

def asciiClasses : List (String × AsciiClass) :=
  [("alnum", .alnum), ("alpha", .alpha), ("ascii", .ascii), ("blank", .blank), ("cntrl", .cntrl),
   ("digit", .digit), ("graph", .graph), ("lower", .lower), ("print", .print), ("punct", .punct),
   ("space", .space), ("upper", .upper), ("word", .word), ("xdigit", .xdigit)]

/-- Reads a class such as `[:alpha:]` or `[:^alpha:]`, if one stands here. -/
def asciiClass? : Parse (Option Bracketed) := do
  let before ← get
  if ← takeIf ['[', ':'] then
    let negated ← takeIf ['^']
    let c ← get
    let name := String.ofList (c.rest.takeWhile (· ≠ ':'))
    set { c with rest := c.rest.dropWhile (· ≠ ':') }
    match ← takeIf [':', ']'], asciiClasses.lookup name with
    | true, some cls => return some (.ascii cls negated)
    | _, _ =>
      set before
      return none
  else return none

/-- Reads one item between brackets. -/
def bracketItem : Parse Escaped := do
  let c ← next
  if c = '\\' then escape
  else
    bump
    return .literal c false

def Escaped.bracketed? : Escaped → Option Bracketed
  | .literal c _ => some (.range c c)
  | .shorthand name negated => some (.shorthand name negated)
  | .property name negated => some (.property name negated)
  | .assertion _ => none

/-- The character behind the next one. Where white space does not count it is passed over, also
behind the sign of a comment. -/
def second? : Parse (Option Char) := do
  let c ← get
  let s := c.rest.drop 1
  if ! c.verbose then return s.head?
  else match Text.trimStart s with
    | '#' :: s => return (Text.trimStart s).head?
    | s => return s.head?

/-- Reads an item or a range of characters between brackets. A hyphen in front of a bracket or
another hyphen makes no range. -/
def bracketRange : Parse Bracketed := do
  let first ← bracketItem
  skip
  let c ← next
  let after ← second?
  if c ≠ '-' ∨ after = some ']' ∨ after = some '-' then
    match first.bracketed? with
    | some item => return item
    | none => refuse
  else
    advance
    let _ ← next
    match first, ← bracketItem with
    | .literal a _, .literal b _ =>
      check (a ≤ b)
      return .range a b
    | _, _ => refuse

/-- Takes hyphens that stand for themselves. -/
def hyphens : Nat → Parse (List Bracketed)
  | 0 => return []
  | fuel + 1 => do
    if (← next) = '-' then
      advance
      return .range '-' '-' :: (← hyphens fuel)
    else return []

/-- Reads what opens brackets: whether they are negated, and the hyphens or the bracket in front
that stand for themselves. -/
def bracketOpening : Parse (Bool × List Bracketed) := do
  advance
  let negated := (← next) = '^'
  if negated then advance
  let items ← hyphens ((← get).rest.length + 1)
  let c ← next
  if items = [] ∧ c = ']' then
    advance
    let _ ← next
    return (negated, [.range ']' ']'])
  else return (negated, items)

/-- The set that an operation awaits its second operand for. -/
abbrev Pending := Option (SetOperation × Bracketed)

def Pending.complete (pending : Pending) (b : Bracketed) : Bracketed :=
  match pending with
  | none => b
  | some (operation, a) => .combined operation a b

/-- Reads what stands between brackets, up to the closing one. The items since the last operation
are given, the latest first. -/
def bracketBody : Nat → Pending → List Bracketed → Parse Bracketed
  | 0, _, _ => refuse
  | fuel + 1, pending, items => do
    let operation := fun (operation : SetOperation) => do
      bump
      bump
      bracketBody fuel (some (operation, pending.complete (.ofItems items.reverse))) []
    skip
    let c ← next
    if c = '[' then
      match ← asciiClass? with
      | some cls => bracketBody fuel pending (cls :: items)
      | none =>
        let (negated, opening) ← bracketOpening
        let inner ← bracketBody fuel none opening.reverse
        bracketBody fuel pending (.nested negated inner :: items)
    else if c = ']' then
      bump
      return pending.complete (.ofItems items.reverse)
    else if ← startsWith ['&', '&'] then operation .intersection
    else if ← startsWith ['-', '-'] then operation .difference
    else if ← startsWith ['~', '~'] then operation .symmetricDifference
    else
      let item ← bracketRange
      bracketBody fuel pending (item :: items)

/-- Reads a set between brackets. -/
def brackets : Parse Pattern := do
  let (negated, opening) ← bracketOpening
  let inner ← bracketBody ((← get).rest.length + 1) none opening.reverse
  return .bracketed negated inner

/-! ## Groups -/

def flagOf? (c : Char) : Option Flag :=
  if c = 'i' then some .ignoreCase
  else if c = 'm' then some .multiLine
  else if c = 's' then some .dotAll
  else if c = 'U' then some .swapGreed
  else if c = 'u' then some .unicode
  else if c = 'R' then some .crlf
  else if c = 'x' then some .verbose
  else none

/-- Reads flags up to a colon or a parenthesis, which stays. No flag may occur twice, and flags
behind a hyphen, of which there is one at most, are switched off. -/
def flagChanges : Nat → Bool → FlagChanges → Parse FlagChanges
  | 0, _, _ => refuse
  | fuel + 1, negated, changes => do
    let c ← next
    if c = ':' ∨ c = ')' then return changes
    else if c = '-' then
      check (! negated)
      bump
      let d ← next
      check (d ≠ ':' ∧ d ≠ ')')
      flagChanges fuel true changes
    else
      match flagOf? c with
      | none => refuse
      | some flag =>
        check (changes.all (·.1 ≠ flag))
        bump
        flagChanges fuel negated (changes ++ [(flag, ! negated)])

def isNameStart (c : Char) : Bool := c = '_' || Unicode.isAlphabetic c

def isNameChar (c : Char) : Bool :=
  c = '_' || c = '.' || c = '[' || c = ']' || Unicode.isAlphanumeric c

/-- Reads the name of a group, which must be a new one. -/
def groupName : Parse Unit := do
  let c ← get
  match c.rest.takeWhile (· ≠ '>'), c.rest.dropWhile (· ≠ '>') with
  | n :: ame, _ :: rest =>
    check (isNameStart n && ame.all isNameChar && ! c.names.contains (n :: ame))
    set { c with rest, names := (n :: ame) :: c.names }
  | _, _ => refuse

/-- How a parenthesis goes on. -/
inductive Opening where
  /-- Flags for the rest of the group around. -/
  | flags (changes : FlagChanges)
  | group (captured : Bool) (changes : FlagChanges)

/-- Reads what opens a group. A look at what lies around a place is refused. -/
def groupOpening : Parse Opening := do
  advance
  let looks := [['?', '='], ['?', '!'], ['?', '<', '='], ['?', '<', '!']]
  let rest := (← get).rest
  check (! looks.any (·.isPrefixOf rest))
  if ← takeIf ['?', 'P', '<'] then
    groupName
    return .group true []
  else if ← takeIf ['?', '<'] then
    groupName
    return .group true []
  else if ← takeIf ['?'] then
    let changes ← flagChanges ((← get).rest.length + 1) false []
    let stop ← next
    bump
    if stop = ')' then
      check (changes ≠ [])
      return .flags changes
    else return .group false changes
  else return .group true []

/-- Whether the changes switch the skipping of white space on or off. -/
def verboseAfter (changes : FlagChanges) (before : Bool) : Bool :=
  (changes.lookup .verbose).getD before

def setVerbose (verbose : Bool) : Parse Unit := modify fun c => { c with verbose }

/-! ## Patterns -/

def Escaped.pattern : Escaped → Pattern
  | .literal c asByte => .literal c asByte
  | .shorthand name negated => .shorthand name negated
  | .property name negated => .property name negated
  | .assertion a => .assertion a

/-- Reads a single character or what stands for one. -/
def single : Parse Pattern := do
  let c ← next
  if c = '\\' then return (← escape).pattern
  else
    bump
    match c with
    | '.' => return .dot
    | '^' => return .assertion .caret
    | '$' => return .assertion .dollar
    | _ => return .literal c false

/-- Takes the item before a repetition, which must be there and must not be a change of flags. -/
def repeatable : List Pattern → Parse (Pattern × List Pattern)
  | [] => refuse
  | .flags _ :: _ => refuse
  | p :: rest => return (p, rest)

/-- Reads a repetition of the latest item. -/
def repetition (c : Char) (items : List Pattern) : Parse (List Pattern) := do
  let (p, rest) ← repeatable items
  if c = '\x7b' then
    advance
    let _ ← next
    let (least, most) ← bounds
    check ((← next) = '\x7d')
    advance
    takeChar '?'
    return .repeated p least most :: rest
  else
    bump
    takeChar '?'
    let (least, most) := if c = '?' then (0, some 1) else if c = '*' then (0, none) else (1, none)
    return .repeated p least most :: rest

/-- Reads alternatives up to the end of the text, or of the group that they stand in. The complete
alternatives and the items of the one at hand are given, the latest first. -/
def alternatives (inGroup : Bool) : Nat → List Pattern → List Pattern → Parse Pattern
  | 0, _, _ => refuse
  | fuel + 1, done, items => do
    let all := fun () => Pattern.ofAlternatives (.ofSequence items.reverse :: done).reverse
    skip
    match ← next? with
    | none =>
      check (! inGroup)
      return all ()
    | some c =>
      if c = ')' then
        check inGroup
        return all ()
      else if c = '|' then
        bump
        alternatives inGroup fuel (.ofSequence items.reverse :: done) []
      else if c = '(' then
        let outer := (← get).verbose
        match ← groupOpening with
        | .flags changes =>
          setVerbose (verboseAfter changes outer)
          alternatives inGroup fuel done (.flags changes :: items)
        | .group captured changes =>
          setVerbose (verboseAfter changes outer)
          let p ← alternatives true fuel [] []
          setVerbose outer
          bump
          alternatives inGroup fuel done (.group captured changes p :: items)
      else if c = '[' then
        let set ← brackets
        alternatives inGroup fuel done (set :: items)
      else if c = '?' ∨ c = '*' ∨ c = '+' ∨ c = '\x7b' then
        let items ← repetition c items
        alternatives inGroup fuel done items
      else
        let p ← single
        alternatives inGroup fuel done (p :: items)

end Parser

/-- Reads a pattern, which must not be nested too deeply. -/
def Pattern.read? (s : List Char) : Option Pattern := do
  let (p, _) ← (Parser.alternatives false (s.length + 1) [] []).run ⟨s, false, []⟩
  if p.depth ≤ Pattern.depthLimit then some p else none

end Regex

end BenchTracker
