import Leasehold.Regex.Cursor
import Leasehold.Text.Digits

/-!
# Characters and escapes of a pattern

What a backslash and the characters behind it stand for.  An escape is a
literal, a class or an assertion; between brackets only the first two have a
meaning.
-/

namespace Leasehold

namespace Regex

/-- What was read, with the cursor behind it, or what is wrong. -/
abbrev Reading := Except Mistake

/-- A part of a pattern that cannot be divided. -/
inductive Atom where
  | literal (l : Literal)
  | dot (span : Span)
  | assertion (span : Span) (kind : Assertion)
  | property (span : Span) (name : String)
  | letter (span : Span) (kind : LetterClass) (negated : Bool)

namespace Atom

/-- The place of an atom. -/
def span : Atom → Span
  | literal l => l.span
  | dot s => s
  | assertion s _ => s
  | property s _ => s
  | letter s _ _ => s

/-- The atom as a tree. -/
def toNode : Atom → Node
  | literal l => .literal l
  | dot s => .dot s
  | assertion s k => .assertion s k
  | property s n => .property s n
  | letter s k n => .letter s k n

/-- The atom as a part of a class. -/
def toClassSet? : Atom → Reading ClassSet
  | literal l => .ok (.literal l)
  | property s n => .ok (.property s n)
  | letter s k n => .ok (.letter s k n)
  | dot s => .error ⟨.classEscape, s, none⟩
  | assertion s _ => .error ⟨.classEscape, s, none⟩

/-- The atom as an end of a range. -/
def toLiteral? : Atom → Reading Literal
  | literal l => .ok l
  | a => .error ⟨.classRangeBoundary, a.span, none⟩

end Atom

/-- Fails with a mistake at a place. -/
def mistake {α : Type} (kind : MistakeKind) (span : Span) : Reading α :=
  .error ⟨kind, span, none⟩

/-! ## Hexadecimal digits -/

/-- A hexadecimal digit. -/
def isHexDigit (c : Char) : Bool :=
  ('0' ≤ c && c ≤ '9') || ('a' ≤ c && c ≤ 'f') || ('A' ≤ c && c ≤ 'F')

/-- The value of a hexadecimal digit. -/
def hexDigitValue (c : Char) : Nat :=
  if c ≤ '9' then c.toNat - 48 else if c ≤ 'F' then c.toNat - 55 else c.toNat - 87

/-- The character of hexadecimal digits, if there is one. -/
def charOfDigits? (ds : List Char) : Option Char :=
  let n := ds.foldl (fun n c => n * 16 + hexDigitValue c) 0
  if n.isValidChar then some (Char.ofNat n) else none

/-- Reads exactly `n` digits that follow one another. -/
def hexDigits : Nat → Cursor → Reading (List Char × Cursor)
  | 0, x => .ok ([], x)
  | n + 1, x =>
    match x.char? with
    | none => mistake .escapeEnd (.at x.place)
    | some c =>
      if isHexDigit c then do
        let (cs, y) ← hexDigits n x.next
        return (c :: cs, y)
      else mistake .hexDigit x.charSpan

/-- Reads a character given by a fixed number of digits. -/
def hexFixed (start : Position) (digits : Nat) (x : Cursor) : Reading (Atom × Cursor) := do
  let (ds, y) ← hexDigits digits x
  match charOfDigits? ds with
  | some c => return (.literal ⟨y.spanFrom start, c, digits = 2⟩, y)
  | none => mistake .hexInvalid (y.spanFrom x.place)

/-- Reads a character given by digits between braces. -/
def hexBraced (start : Position) (x : Cursor) : Reading (Atom × Cursor) := do
  let (ds, y) := x.next.takeSpaced isHexDigit x.rest.length
  match y.char? with
  | none => mistake .escapeEnd (y.spanFrom x.place)
  | some c =>
    if c ≠ '\x7d' then mistake .hexDigit y.charSpan
    else if ds.isEmpty then mistake .hexEmpty (y.next.spanFrom x.place)
    else
      match charOfDigits? ds with
      | some c => return (.literal ⟨y.next.spanFrom start, c, false⟩, y.next)
      | none => mistake .hexInvalid ⟨x.charSpan.stop, y.place⟩

/-- Reads a character behind the letter of its escape. -/
def hex (start : Position) (digits : Nat) (x : Cursor) : Reading (Atom × Cursor) :=
  let y := x.next
  if y.isEnd then mistake .escapeEnd (.at y.place)
  else if y.sees '\x7b' then hexBraced start y
  else hexFixed start digits y

/-! ## Other escapes -/

/-- Reads a property behind the letter of its escape. -/
def property (start : Position) (x : Cursor) : Reading (Atom × Cursor) :=
  let y := x.next
  match y.char? with
  | none => mistake .escapeEnd (.at y.place)
  | some '\x7b' =>
    let (name, z) := y.next.takeSpaced (· ≠ '\x7d') y.rest.length
    if z.isEnd then mistake .escapeEnd (.at z.place)
    else .ok (.property (z.bump.spanFrom start) (String.ofList name), z.bump)
  | some '\\' => mistake .propertyInvalid y.charSpan
  | some c => .ok (.property (y.next.spanFrom start) c.toString, y.next)

/-- A character of the name of a word boundary. -/
def isBoundaryChar (c : Char) : Bool := c.isAlpha || c = '-'

/-- The word boundaries with names. -/
def boundaryOfName? : String → Option Assertion
  | "start" => some .wordStart
  | "end" => some .wordEnd
  | "start-half" => some .wordStartHalf
  | "end-half" => some .wordEndHalf
  | _ => none

/-- Reads a word boundary behind its letter.  A brace that cannot begin a name is left to what
reads repetitions. -/
def boundary (start : Position) (x : Cursor) : Reading (Atom × Cursor) :=
  let plain : Reading (Atom × Cursor) := .ok (.assertion (x.spanFrom start) .wordBoundary, x)
  if !x.sees '\x7b' then plain
  else
    let y := x.next
    match y.char? with
    | none => mistake .boundaryEnd (y.spanFrom start)
    | some c =>
      if !isBoundaryChar c then plain
      else
        let (name, z) := y.takeSpaced isBoundaryChar y.rest.length
        if !z.sees '\x7d' then mistake .boundaryUnclosed (z.spanFrom x.place)
        else
          match boundaryOfName? (String.ofList name) with
          | some k => .ok (.assertion (z.bump.spanFrom start) k, z.bump)
          | none => mistake .boundaryUnknown (z.spanFrom y.place)

/-- A letter or digit, which no backslash makes a literal, and the marks of word boundaries. -/
def isReserved (c : Char) : Bool := 0x7f < c.toNat || c.isAlphanum || c = '<' || c = '>'

/-- Reads an escape, of which the backslash is the next character. -/
def escape (x : Cursor) : Reading (Atom × Cursor) :=
  let start := x.place
  let x := x.bump
  match x.char? with
  | none => mistake .escapeEnd (x.spanFrom start)
  | some c =>
    let y := x.bump
    let span := y.spanFrom start
    let literal (c : Char) : Reading (Atom × Cursor) := .ok (.literal ⟨span, c, false⟩, y)
    let letter (k : LetterClass) (negated : Bool) : Reading (Atom × Cursor) :=
      .ok (.letter span k negated, y)
    let assertion (k : Assertion) : Reading (Atom × Cursor) := .ok (.assertion span k, y)
    if Text.Digits.isDigit c then mistake .backreference ⟨start, x.charSpan.stop⟩
    else if !isReserved c then literal c
    else
      match c with
      | 'x' => hex start 2 x
      | 'u' => hex start 4 x
      | 'U' => hex start 8 x
      | 'p' => property start x
      | 'P' => property start x
      | 'd' => letter .digit false
      | 'D' => letter .digit true
      | 's' => letter .space false
      | 'S' => letter .space true
      | 'w' => letter .word false
      | 'W' => letter .word true
      | 'a' => literal '\x07'
      | 'f' => literal '\x0c'
      | 't' => literal '\t'
      | 'n' => literal '\n'
      | 'r' => literal '\r'
      | 'v' => literal '\x0b'
      | 'A' => assertion .startText
      | 'z' => assertion .endText
      | 'b' => boundary start y
      | 'B' => assertion .notWordBoundary
      | '<' => assertion .wordStart
      | '>' => assertion .wordEnd
      | _ => mistake .escapeUnknown span

/-- Reads an atom outside of brackets. -/
def atom (x : Cursor) : Reading (Atom × Cursor) :=
  let span := x.charSpan
  match x.char? with
  | some '\\' => escape x
  | some '.' => .ok (.dot span, x.bump)
  | some '^' => .ok (.assertion span .startLine, x.bump)
  | some '$' => .ok (.assertion span .endLine, x.bump)
  | some c => .ok (.literal ⟨span, c, false⟩, x.bump)
  | none => .ok (.literal ⟨span, ' ', false⟩, x)

/-- Reads an atom between brackets. -/
def bracketAtom (x : Cursor) : Reading (Atom × Cursor) :=
  match x.char? with
  | some '\\' => escape x
  | some c => .ok (.literal ⟨x.charSpan, c, false⟩, x.bump)
  | none => .ok (.literal ⟨x.charSpan, ' ', false⟩, x)

end Regex

end Leasehold
