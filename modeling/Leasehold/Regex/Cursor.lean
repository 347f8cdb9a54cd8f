import Leasehold.Regex.Mistake
import Leasehold.Text.Blank

/-!
# Reading along a pattern

A cursor is a place in a pattern with what stands behind it.  In patterns that
ignore blanks, going on by a character also passes over the blanks and comments
behind it.
-/

namespace Leasehold

namespace Regex

/-- What is left of a pattern, and the place where that begins. -/
structure Cursor where
  rest : List Char
  place : Position
  /-- Blanks and comments do not count. -/
  spaced : Bool

namespace Cursor

/-- The start of a pattern. -/
def start (pattern : String) : Cursor := ⟨pattern.toList, ⟨1, 1⟩, false⟩

/-- The place behind a character. -/
def after (p : Position) (c : Char) : Position :=
  if c = '\n' then ⟨p.line + 1, 1⟩ else ⟨p.line, p.column + 1⟩

/-- Nothing is left. -/
def isEnd (x : Cursor) : Bool := x.rest.isEmpty

/-- The next character. -/
def char? (x : Cursor) : Option Char := x.rest.head?

/-- The next character is the given one. -/
def sees (x : Cursor) (c : Char) : Bool := x.rest.head? = some c

/-- Goes on by one character. -/
def bump (x : Cursor) : Cursor :=
  match x.rest with
  | [] => x
  | c :: cs => { x with rest := cs, place := after x.place c }

/-- Passes over blanks and comments, in or outside of a comment. -/
def skip : Bool → List Char → Position → List Char × Position
  | _, [], p => ([], p)
  | true, c :: cs, p => skip (c ≠ '\n') cs (after p c)
  | false, c :: cs, p =>
    if Text.isBlank c then skip false cs (after p c)
    else if c = '#' then skip true cs (after p c)
    else (c :: cs, p)

/-- Passes over what does not count. -/
def skipSpace (x : Cursor) : Cursor :=
  if x.spaced then
    let (rest, place) := skip false x.rest x.place
    { x with rest, place }
  else x

/-- Goes on by one character that counts. -/
def next (x : Cursor) : Cursor := x.bump.skipSpace

/-- Passes over a given text, if it stands here. -/
def bumpIf? (text : String) (x : Cursor) : Option Cursor :=
  if text.toList.isPrefixOf x.rest then some (text.length.repeat bump x) else none

/-- The character behind the next one. -/
def peek (x : Cursor) : Option Char := (x.rest.drop 1).head?

/-- The character behind the next one, blanks and the mark of a comment aside; if nothing else
is left, the one that follows. -/
def peekSpaced (x : Cursor) : Option Char :=
  let seen := match (x.rest.drop 1).dropWhile Text.isBlank with
    | '#' :: cs => (cs.dropWhile Text.isBlank).head?
    | cs => cs.head?
  if x.spaced then seen.or x.peek else x.peek

/-- The span of the next character. -/
def charSpan (x : Cursor) : Span := ⟨x.place, after x.place (x.char?.getD ' ')⟩

/-- The span from a place to here. -/
def spanFrom (x : Cursor) (p : Position) : Span := ⟨p, x.place⟩

/-- Reads on as long as a test holds. -/
def takeWhile (test : Char → Bool) (x : Cursor) : List Char × Cursor :=
  let cs := x.rest.takeWhile test
  (cs, cs.length.repeat bump x)

/-- Reads characters that count as long as a test holds. -/
def takeSpaced (test : Char → Bool) : Nat → Cursor → List Char × Cursor
  | 0, x => ([], x)
  | n + 1, x =>
    match x.rest with
    | [] => ([], x)
    | c :: _ =>
      if test c then
        let (cs, y) := takeSpaced test n x.next
        (c :: cs, y)
      else ([], x)

end Cursor

end Regex

end Leasehold
