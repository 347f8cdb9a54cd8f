import Leasehold.Regex.Expression
import Leasehold.Regex.Reader

/-!
# What a pattern means

From the tree of a pattern to an expression.  Flags hold from where they stand
to the end of their group, so they are carried along.  Only ASCII characters
have cases, and only they are sorted into classes with a letter; a pattern that
asks for more, or that could match single bytes of a character, is refused.
`Regex.ofPattern?` takes a pattern all the way.
-/

namespace Leasehold

namespace Regex

/-- The flags in force. -/
structure Flags where
  ignoreCase : Bool
  multiLine : Bool
  dotAll : Bool
  unicode : Bool
  carriageReturn : Bool

namespace Flags

/-- The flags at the start of a pattern. -/
def standard : Flags := ⟨false, false, false, true, false⟩

/-- The flags after a change. -/
def change (c : FlagChange) (f : Flags) : Flags where
  ignoreCase := c.apply .ignoreCase f.ignoreCase
  multiLine := c.apply .multiLine f.multiLine
  dotAll := c.apply .dotAll f.dotAll
  unicode := c.apply .unicode f.unicode
  carriageReturn := c.apply .carriageReturn f.carriageReturn

/-- The last code point of classes: of all characters, or of all bytes. -/
def last (f : Flags) : Nat := if f.unicode then 0x10ffff else 0xff

end Flags

/-! ## Classes -/

/-- A set with both cases of its letters, if case does not matter. -/
def fold (f : Flags) (span : Span) (s : CodeSet) : Reading CodeSet :=
  if !f.ignoreCase then .ok s
  else if !f.unicode then .ok s.foldCase
  else if s.ranges.isEmpty then .ok s
  else mistake .caseUnavailable span

/-- A set of bytes is a set of ASCII characters, since others are parts of characters. -/
def checkBytes (f : Flags) (span : Span) (s : CodeSet) : Reading CodeSet :=
  if f.unicode || s.isAscii then .ok s else mistake .invalidBytes span

/-- A class with its case and its negation. -/
def foldAndNegate (f : Flags) (span : Span) (negated : Bool) (s : CodeSet) : Reading CodeSet := do
  let s ← fold f span s
  checkBytes f span (if negated then s.complement f.last else s)

/-- The code point of a literal in a class. -/
def classLiteral (f : Flags) (l : Literal) : Reading Nat :=
  if f.unicode || l.char.toNat ≤ 0x7f then .ok l.char.toNat
  else if l.isByte then mistake .invalidBytes l.span
  else mistake .unicodeNotAllowed l.span

/-- No properties of characters are known.  Three names could only be values of a property. -/
def propertySet (f : Flags) (span : Span) (name : String) : Reading CodeSet :=
  let plain := String.ofList ((name.toList.filter fun c => c ≠ ' ' && c ≠ '_' && c ≠ '-').map
    Char.toLower)
  if !f.unicode then mistake .unicodeNotAllowed span
  else if plain = "cf" ∨ plain = "sc" ∨ plain = "lc" then mistake .propertyValueNotFound span
  else mistake .propertyNotFound span

/-- The set of a class with a letter. -/
def letterSet (f : Flags) (span : Span) (k : LetterClass) (negated : Bool) : Reading CodeSet :=
  if f.unicode then mistake .letterClassNotFound span
  else
    let s : CodeSet := ⟨k.ranges⟩
    checkBytes f span (if negated then s.complement f.last else s)

mutual

/-- The set of a class. -/
def ClassSet.toSet (f : Flags) : ClassSet → Reading CodeSet
  | .empty _ => .ok .empty
  | .literal l => do
    let n ← classLiteral f l
    return .range n n
  | .range _ low high => do
    let a ← classLiteral f low
    let b ← classLiteral f high
    return .range a b
  | .named span k negated => foldAndNegate f span negated ⟨k.ranges⟩
  | .property span name => propertySet f span name
  | .letter span k negated => letterSet f span k negated
  | .bracketed span negated set => do foldAndNegate f span negated (← set.toSet f)
  | .union _ items => ClassSet.toSets f items
  | .operation _ op left right => do
    let a ← left.toSet f
    let b ← right.toSet f
    let b ← fold f right.span b
    let a ← fold f left.span a
    return CodeSet.combine f.last op a b

/-- The set of all items of a class. -/
def ClassSet.toSets (f : Flags) : List ClassSet → Reading CodeSet
  | [] => .ok .empty
  | s :: rest => do
    let a ← s.toSet f
    let b ← ClassSet.toSets f rest
    return a.union b

end

/-! ## Trees -/

/-- The expression of a literal. -/
def literalExpression (f : Flags) (l : Literal) : Reading Expression :=
  let n := l.char.toNat
  if !f.unicode && l.isByte && 0x7f < n then mistake .invalidBytes l.span
  else if f.ignoreCase && f.unicode then mistake .caseUnavailable l.span
  else
    let s := CodeSet.range n n
    .ok (.set (if f.ignoreCase then s.foldCase else s))

/-- The expression of a dot. -/
def dotExpression (f : Flags) (span : Span) : Reading Expression :=
  if !f.unicode then mistake .invalidBytes span
  else
    let without : CodeSet :=
      if f.dotAll then .empty
      else if f.carriageReturn then ⟨[(0x0a, 0x0a), (0x0d, 0x0d)]⟩
      else .range 0x0a 0x0a
    .ok (.set (without.complement f.last))

/-- The expression of an assertion. -/
def assertionExpression (f : Flags) (k : Assertion) : Expression :=
  let line (text plain withReturn : Look) : Expression :=
    .look (if !f.multiLine then text else if f.carriageReturn then withReturn else plain)
  let words (l : Look) : Expression := if f.unicode then .unknownBoundary else .look l
  match k with
  | .startLine => line .startText .startLine .startLineReturn
  | .endLine => line .endText .endLine .endLineReturn
  | .startText => .look .startText
  | .endText => .look .endText
  | .wordBoundary => words .word
  | .notWordBoundary => words .notWord
  | .wordStart => words .wordStart
  | .wordEnd => words .wordEnd
  | .wordStartHalf => words .wordStartHalf
  | .wordEndHalf => words .wordEndHalf

mutual

/-- The expression of a tree, and the flags behind it. -/
def Node.meaning (f : Flags) : Node → Reading (Expression × Flags)
  | .empty _ => .ok (.empty, f)
  | .flags _ c => .ok (.empty, f.change c)
  | .literal l => do return (← literalExpression f l, f)
  | .dot span => do return (← dotExpression f span, f)
  | .assertion _ k => .ok (assertionExpression f k, f)
  | .property span name => do return (.set (← propertySet f span name), f)
  | .letter span k negated => do return (.set (← letterSet f span k negated), f)
  | .bracketed span negated set => do
    return (.set (← foldAndNegate f span negated (← set.toSet f)), f)
  | .repetition _ least most body => do
    let (e, g) ← body.meaning f
    return (.repetition least most e, g)
  | .group _ c captures body => do
    let (e, _) ← body.meaning (f.change c)
    return (if captures then .capture e else e, f)
  | .alternation _ branches => Node.alternatives f branches
  | .concat _ parts => Node.sequence f parts

/-- The expression of branches, of which at least one is there. -/
def Node.alternatives (f : Flags) : List Node → Reading (Expression × Flags)
  | [] => .ok (.empty, f)
  | [n] => n.meaning f
  | n :: m :: rest => do
    let (a, f) ← n.meaning f
    let (b, f) ← Node.alternatives f (m :: rest)
    return (.either a b, f)

/-- The expression of parts one behind another. -/
def Node.sequence (f : Flags) : List Node → Reading (Expression × Flags)
  | [] => .ok (.empty, f)
  | [n] => n.meaning f
  | n :: m :: rest => do
    let (a, f) ← n.meaning f
    let (b, f) ← Node.sequence f (m :: rest)
    return (.seq a b, f)

end

/-- The bytes that a machine may take. -/
def costLimit : Nat := 10485760

/-- The expression of a pattern, or what is wrong with it. -/
def ofPattern? (pattern : String) : Except String Expression := do
  let read : Reading (Expression × Flags) := do (← read? pattern).meaning .standard
  match read with
  | .error m => throw (m.report pattern)
  | .ok (e, _) =>
    if costLimit < e.cost then
      throw ("Compiled regex exceeds size limit of " ++ toString costLimit ++ " bytes.")
    else if e.hasUnknownBoundary then throw "error building NFA"
    else return e

/-- A pattern matches somewhere in a text. -/
def isFound (pattern text : String) : Bool :=
  match ofPattern? pattern with
  | .ok e => e.isFoundIn text
  | .error _ => false

example : isFound "a|b$" "xxb" = true ∧ isFound "^b" "ab" = false := by decide +kernel
example : isFound "[A-Z]{2,}" "aBc" = false ∧ isFound "L[a-z]+ (re|h)" "Lock ha" = true := by
  decide +kernel
example : isFound "row\\(s\\)" "1 row(s)" = true ∧ isFound "(a*)*b" "aaab" = true := by
  decide +kernel

end Regex

end Leasehold
