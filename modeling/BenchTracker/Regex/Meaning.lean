import BenchTracker.Regex.Basic
import BenchTracker.Regex.Property

/-!
# What patterns mean

A flag holds from where it is switched up to the end of its group, alternatives included. Sets are
closed under case before they are negated. Without the Unicode flag, all that could match a part of
a character's encoding is refused.
-/

namespace BenchTracker

namespace Regex

/-- The flags that make a difference to what a pattern matches. -/
structure Flags where
  ignoreCase : Bool
  multiLine : Bool
  dotAll : Bool
  unicode : Bool
  crlf : Bool
  deriving DecidableEq, Repr

namespace Flags

/-- The flags that hold at the start of a pattern for a device. -/
def initial : Flags := ⟨true, false, false, true, false⟩

def set (f : Flags) (flag : Flag) (on : Bool) : Flags :=
  match flag with
  | .ignoreCase => { f with ignoreCase := on }
  | .multiLine => { f with multiLine := on }
  | .dotAll => { f with dotAll := on }
  | .unicode => { f with unicode := on }
  | .crlf => { f with crlf := on }
  | .swapGreed => f
  | .verbose => f

def apply (f : Flags) (changes : FlagChanges) : Flags :=
  changes.foldl (fun f c => f.set c.1 c.2) f

/-- Closes a set under case, where case is ignored. -/
def fold (f : Flags) (s : CharSet) : CharSet :=
  if ! f.ignoreCase then s else if f.unicode then s.fold else s.foldAscii

end Flags

def lineFeed : Nat := 0x0A

def carriageReturn : Nat := 0x0D

def asciiDigits : CharSet := [(48, 57)]

def asciiSpaces : CharSet := [(9, 13), (32, 32)]

def asciiWords : CharSet := [(48, 57), (65, 90), (95, 95), (97, 122)]

def Shorthand.set (unicode : Bool) : Shorthand → CharSet
  | digit => if unicode then Unicode.Category.decimalNumber else asciiDigits
  | space => if unicode then Unicode.spaceRanges else asciiSpaces
  | word => if unicode then Unicode.wordRanges else asciiWords

def AsciiClass.set : AsciiClass → CharSet
  | alnum => [(48, 57), (65, 90), (97, 122)]
  | alpha => [(65, 90), (97, 122)]
  | ascii => [(0, 127)]
  | blank => [(9, 9), (32, 32)]
  | cntrl => [(0, 31), (127, 127)]
  | digit => asciiDigits
  | graph => [(33, 126)]
  | lower => [(97, 122)]
  | print => [(32, 126)]
  | punct => [(33, 47), (58, 64), (91, 96), (123, 126)]
  | space => asciiSpaces
  | upper => [(65, 90)]
  | word => asciiWords
  | xdigit => [(48, 57), (65, 70), (97, 102)]

/-- The set or its complement. Without Unicode a complement has parts of characters in it. -/
def negateIf (f : Flags) (negated : Bool) (s : CharSet) : Option CharSet :=
  if ! negated then some s else if f.unicode then some s.complement else none

def Shorthand.set? (f : Flags) (negated : Bool) (name : Shorthand) : Option CharSet :=
  negateIf f negated (name.set f.unicode)

def PropertyName.closed? (f : Flags) (negated : Bool) (name : PropertyName) : Option CharSet :=
  if f.unicode then name.set?.bind fun s => negateIf f negated (f.fold s) else none

def SetOperation.apply : SetOperation → CharSet → CharSet → CharSet
  | intersection => Unicode.Ranges.intersection
  | difference => Unicode.Ranges.difference
  | symmetricDifference => Unicode.Ranges.symmetricDifference

namespace Bracketed

mutual

/-- The set that stands between brackets. -/
def set? (f : Flags) : Bracketed → Option CharSet
  | empty => some []
  | range first last =>
    if f.unicode || last.toNat < 128 then some [(first.toNat, last.toNat)] else none
  | ascii name negated => negateIf f negated (f.fold name.set)
  | shorthand name negated => name.set? f negated
  | property name negated => name.closed? f negated
  | nested negated inner => do negateIf f negated (f.fold (← inner.set? f))
  | union items => unionOf? f items
  | combined operation a b => do
    return operation.apply (f.fold (← a.set? f)) (f.fold (← b.set? f))

def unionOf? (f : Flags) : List Bracketed → Option CharSet
  | [] => some []
  | item :: rest => do return (← item.set? f).union (← unionOf? f rest)

end

end Bracketed

def Assertion.look (f : Flags) : Assertion → Look
  | caret => if ! f.multiLine then .textStart else if f.crlf then .lineStartCrLf else .lineStart
  | dollar => if ! f.multiLine then .textEnd else if f.crlf then .lineEndCrLf else .lineEnd
  | textStart => .textStart
  | textEnd => .textEnd
  | word edge => .word edge f.unicode

/-- The characters that the dot stands for. -/
def dotSet? (f : Flags) : Option CharSet :=
  if ! f.unicode then none
  else if f.dotAll then some (Unicode.Ranges.complement [])
  else if f.crlf then
    some (Unicode.Ranges.complement [(lineFeed, lineFeed), (carriageReturn, carriageReturn)])
  else some (Unicode.Ranges.complement [(lineFeed, lineFeed)])

/-- The characters that a literal stands for. -/
def literalSet? (f : Flags) (c : Char) (asByte : Bool) : Option CharSet :=
  if f.unicode || c.toNat < 128 then some (f.fold (CharSet.single c.toNat))
  else if asByte then none
  else some (CharSet.single c.toNat)

/-- Whether an expression takes no character, whatever it matches. -/
def takesNothing : Regex → Bool
  | empty => true
  | chars _ => false
  | look _ => true
  | seq a b => a.takesNothing && b.takesNothing
  | alt a b => a.takesNothing && b.takesNothing
  | repeated a _ _ => a.takesNothing
  | group a => a.takesNothing

/-- A repetition. An expression that takes no character is repeated once at most. -/
def times (a : Regex) (least : Nat) (most : Option Nat) : Regex :=
  let (least, most) :=
    if a.takesNothing then (min least 1, some ((most.map (min · 1)).getD 1)) else (least, most)
  if most = some 0 then .empty
  else if least = 1 ∧ most = some 1 then a
  else .repeated a least most

namespace Pattern

mutual

/-- The expression of a pattern where the given flags hold, and the flags that hold behind it. -/
def meaning (f : Flags) : Pattern → Option (Regex × Flags)
  | empty => some (.empty, f)
  | flags changes => some (.empty, f.apply changes)
  | literal c asByte => do return (.chars (← literalSet? f c asByte), f)
  | dot => do return (.chars (← dotSet? f), f)
  | assertion a => some (.look (a.look f), f)
  | shorthand name negated => do return (.chars (← name.set? f negated), f)
  | property name negated => do return (.chars (← name.closed? f negated), f)
  | bracketed negated inner => do
    return (.chars (← negateIf f negated (f.fold (← inner.set? f))), f)
  | repeated p least most => do
    let (r, f) ← p.meaning f
    return (r.times least most, f)
  | group captured changes p => do
    let (r, _) ← p.meaning (f.apply changes)
    return (if captured then .group r else r, f)
  | sequence ps => sequenceMeaning f ps
  | alternation ps => alternativesMeaning f ps

def sequenceMeaning (f : Flags) : List Pattern → Option (Regex × Flags)
  | [] => some (.empty, f)
  | p :: ps => do
    let (r, f) ← p.meaning f
    let (s, f) ← sequenceMeaning f ps
    return (.seq r s, f)

def alternativesMeaning (f : Flags) : List Pattern → Option (Regex × Flags)
  | [] => some (.chars [], f)
  | p :: ps => do
    let (r, f) ← p.meaning f
    let (s, f) ← alternativesMeaning f ps
    return (.alt r s, f)

end

end Pattern

end Regex

end BenchTracker
