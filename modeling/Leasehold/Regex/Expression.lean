import Leasehold.Regex.CodeSet

/-!
# What an expression matches

An expression is a pattern without spellings and flags.  It is matched at all
places of a text at once: from a set of places where matching may begin,
`Expression.ends` gives the set of those where it may end.  A repetition is
followed until no further place is reached, so that it ends also where it
repeats nothing.
-/

namespace Leasehold

namespace Regex

/-- What must hold at a place of a text. -/
inductive Look where
  | startText
  | endText
  | startLine
  | endLine
  /-- Lines that may end in carriage returns, too. -/
  | startLineReturn
  | endLineReturn
  /-- Between an ASCII letter, digit or underscore and another character. -/
  | word
  | notWord
  | wordStart
  | wordEnd
  | wordStartHalf
  | wordEndHalf
  deriving DecidableEq

/-- What a pattern means. -/
inductive Expression where
  | empty
  | set (s : CodeSet)
  | look (l : Look)
  /-- A boundary of words of every script, about which nothing is known here. -/
  | unknownBoundary
  | seq (first second : Expression)
  | either (first second : Expression)
  | repetition (least : Nat) (most : Option Nat) (body : Expression)
  | capture (body : Expression)
  deriving DecidableEq, Inhabited

/-- A text with the characters at its places. -/
abbrev Subject := Array Char

/-- A character of an ASCII word. -/
def isWordChar (c : Char) : Bool := c.isAlphanum || c = '_'

/-- An assertion holds at a place of a text. -/
def Look.holds (l : Look) (t : Subject) (i : Nat) : Bool :=
  let before : Option Char := if i = 0 then none else t[i - 1]?
  let behind : Option Char := t[i]?
  let wordBefore := before.any isWordChar
  let wordBehind := behind.any isWordChar
  match l with
  | startText => before.isNone
  | endText => behind.isNone
  | startLine => before.isNone || before = some '\n'
  | endLine => behind.isNone || behind = some '\n'
  | startLineReturn =>
    before.isNone || before = some '\n' || (before = some '\r' && behind ≠ some '\n')
  | endLineReturn =>
    behind.isNone || behind = some '\r' || (behind = some '\n' && before ≠ some '\r')
  | word => wordBefore ≠ wordBehind
  | notWord => wordBefore = wordBehind
  | wordStart => !wordBefore && wordBehind
  | wordEnd => wordBefore && !wordBehind
  | wordStartHalf => !wordBefore
  | wordEndHalf => !wordBehind

/-- Adds a place to places in order. -/
def insertPlace (i : Nat) : List Nat → List Nat
  | [] => [i]
  | j :: js => if i < j then i :: j :: js else if i = j then j :: js else j :: insertPlace i js

/-- The places of either of two lists, in order if those of the second one are. -/
def merge (a b : List Nat) : List Nat := a.foldr insertPlace b

/-- Takes a step so many times, or until it leads nowhere else. -/
def iterate (step : List Nat → List Nat) : Nat → List Nat → List Nat
  | 0, places => places
  | n + 1, places =>
    let after := step places
    if after = places then places else iterate step n after

/-- Takes a step up to so many times. -/
def reach (step : List Nat → List Nat) (n : Nat) (places : List Nat) : List Nat :=
  iterate (fun p => merge p (step p)) n places

/-- The places where an expression may end that begins at one of some places. -/
def Expression.ends (t : Subject) : Expression → List Nat → List Nat
  | empty, places => places
  | set s, places =>
    (places.filter fun i => t[i]?.any s.contains).map (· + 1)
  | look l, places => places.filter fun i => l.holds t i
  | unknownBoundary, _ => []
  | seq a b, places => b.ends t (a.ends t places)
  | either a b, places => merge (a.ends t places) (b.ends t places)
  | repetition least most e, places =>
    let enough := iterate (e.ends t) least places
    match most with
    | some m => reach (e.ends t) (min (m - least) (t.size + 1)) enough
    | none => reach (e.ends t) (t.size + 1) enough
  | capture e, places => e.ends t places

/-- An expression matches somewhere in a text. -/
def Expression.isFoundIn (e : Expression) (s : String) : Bool :=
  let t := s.toList.toArray
  !(e.ends t (List.range (t.size + 1))).isEmpty

/-! ## Size -/

/-- The bytes that a machine takes for a set of characters. -/
def CodeSet.cost (s : CodeSet) : Nat :=
  match s.ranges with
  | [(a, b)] =>
    if b ≤ 0x7f then 32
    else if a = b then 32 * (if b ≤ 0x7ff then 2 else if b ≤ 0xffff then 3 else 4)
    else 424
  | ranges => if s.isAscii then 32 + 8 * ranges.length else 424

/-- An expression takes up no characters wherever it matches. -/
def Expression.takesNothing : Expression → Bool
  | empty => true
  | set _ => false
  | look _ => true
  | unknownBoundary => true
  | seq a b => a.takesNothing && b.takesNothing
  | either a b => a.takesNothing && b.takesNothing
  | repetition _ most e => e.takesNothing || most = some 0
  | capture e => e.takesNothing

/-- The bytes that a machine for an expression takes.  What takes up nothing is repeated once. -/
def Expression.cost : Expression → Nat
  | empty => 32
  | set s => s.cost
  | look _ => 32
  | unknownBoundary => 32
  | seq a b => a.cost + b.cost
  | either a b => a.cost + b.cost + 40
  | repetition least most e =>
    let again := match most with
      | some m => m - least
      | none => 1
    if e.takesNothing then min least 1 * e.cost + min again 1 * (e.cost + 40)
    else least * e.cost + again * (e.cost + 40)
  | capture e => e.cost + 64

/-- An expression asks for a boundary of words of every script. -/
def Expression.hasUnknownBoundary : Expression → Bool
  | unknownBoundary => true
  | seq a b => a.hasUnknownBoundary || b.hasUnknownBoundary
  | either a b => a.hasUnknownBoundary || b.hasUnknownBoundary
  | repetition _ _ e => e.hasUnknownBoundary
  | capture e => e.hasUnknownBoundary
  | _ => false

end Regex

end Leasehold
