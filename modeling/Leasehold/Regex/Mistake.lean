import Leasehold.Regex.Basic
import Leasehold.Text.Lines

/-!
# What can be wrong with a pattern

A mistake has a place in the pattern, and sometimes a second one that it is at
odds with.  `Mistake.report` shows the pattern with carets under these places.
-/

namespace Leasehold

namespace Regex

/-- What is wrong. -/
inductive MistakeKind where
  | classEscape
  | classRange
  | classRangeBoundary
  | classUnclosed
  | numberInvalid
  | hexEmpty
  | hexInvalid
  | hexDigit
  | escapeEnd
  | escapeUnknown
  | flagDanglingNegation
  | flagTwice
  | flagNegationTwice
  | flagEnd
  | flagUnknown
  | groupNameTwice
  | groupNameEmpty
  | groupNameInvalid
  | groupNameEnd
  | groupUnclosed
  | groupUnopened
  | tooDeep (limit : Nat)
  | countRange
  | countEmpty
  | countUnclosed
  | nothingToRepeat
  | boundaryUnclosed
  | boundaryUnknown
  | boundaryEnd
  | propertyInvalid
  | backreference
  | lookAround
  | unicodeNotAllowed
  | invalidBytes
  | propertyNotFound
  | propertyValueNotFound
  | letterClassNotFound
  | caseUnavailable
  deriving DecidableEq

/-- What is wrong, in words. -/
def MistakeKind.text : MistakeKind → String
  | classEscape => "invalid escape sequence found in character class"
  | classRange => "invalid character class range, the start must be <= the end"
  | classRangeBoundary => "invalid range boundary, must be a literal"
  | classUnclosed => "unclosed character class"
  | numberInvalid => "decimal literal invalid"
  | hexEmpty => "hexadecimal literal empty"
  | hexInvalid => "hexadecimal literal is not a Unicode scalar value"
  | hexDigit => "invalid hexadecimal digit"
  | escapeEnd => "incomplete escape sequence, reached end of pattern prematurely"
  | escapeUnknown => "unrecognized escape sequence"
  | flagDanglingNegation => "dangling flag negation operator"
  | flagTwice => "duplicate flag"
  | flagNegationTwice => "flag negation operator repeated"
  | flagEnd => "expected flag but got end of regex"
  | flagUnknown => "unrecognized flag"
  | groupNameTwice => "duplicate capture group name"
  | groupNameEmpty => "empty capture group name"
  | groupNameInvalid => "invalid capture group character"
  | groupNameEnd => "unclosed capture group name"
  | groupUnclosed => "unclosed group"
  | groupUnopened => "unopened group"
  | tooDeep limit =>
    "exceed the maximum number of nested parentheses/brackets (" ++ toString limit ++ ")"
  | countRange => "invalid repetition count range, the start must be <= the end"
  | countEmpty => "repetition quantifier expects a valid decimal"
  | countUnclosed => "unclosed counted repetition"
  | nothingToRepeat => "repetition operator missing expression"
  | boundaryUnclosed =>
    "special word boundary assertion is either unclosed or contains an invalid character"
  | boundaryUnknown =>
    "unrecognized special word boundary assertion, valid choices are: start, end, " ++
      "start-half or end-half"
  | boundaryEnd =>
    "found either the beginning of a special word boundary or a bounded repetition on a " ++
      "\\b with an opening brace, but no closing brace"
  | propertyInvalid => "invalid Unicode character class"
  | backreference => "backreferences are not supported"
  | lookAround => "look-around, including look-ahead and look-behind, is not supported"
  | unicodeNotAllowed => "Unicode not allowed here"
  | invalidBytes => "pattern can match invalid UTF-8"
  | propertyNotFound => "Unicode property not found"
  | propertyValueNotFound => "Unicode property value not found"
  | letterClassNotFound =>
    "Unicode-aware Perl class not found (make sure the unicode-perl feature is enabled)"
  | caseUnavailable =>
    "Unicode-aware case insensitivity matching is not available " ++
      "(make sure the unicode-case feature is enabled)"

/-- Something wrong with a pattern. -/
structure Mistake where
  kind : MistakeKind
  span : Span
  /-- The place that it is at odds with. -/
  other : Option Span := none
  deriving DecidableEq

namespace Mistake

/-- A place comes first if it starts first. -/
def startsBefore (a b : Span) : Bool :=
  a.start.line < b.start.line || (a.start.line = b.start.line && a.start.column ≤ b.start.column)

/-- The places of a mistake in the order of the pattern. -/
def spans (m : Mistake) : List Span :=
  match m.other with
  | none => [m.span]
  | some o => if startsBefore o m.span then [o, m.span] else [m.span, o]

/-- The place lies within one line. -/
def isOneLine (s : Span) : Bool := s.start.line = s.stop.line

/-- Carets under places of one line, behind so many characters. -/
def carets : Nat → List Span → List Char
  | _, [] => []
  | n, s :: rest =>
    let gap := s.start.column - 1 - n
    let size := max 1 (s.stop.column - s.start.column)
    List.replicate gap ' ' ++ List.replicate size '^' ++ carets (n + gap + size) rest

/-- A line of the pattern behind its mark, with the carets under it. -/
def showLine (places : List Span) (mark : String) (number : Nat) (line : String) : String :=
  let here := places.filter fun s => isOneLine s && s.start.line = number
  let carets := if here.isEmpty then ""
    else "".pushn ' ' mark.length ++ String.ofList (carets 0 here) ++ "\n"
  mark ++ line ++ "\n" ++ carets

/-- The number of a line, as wide as the last one. -/
def lineMark (width n : Nat) : String :=
  let s := toString n
  "".pushn ' ' (width - s.length) ++ s ++ ": "

/-- Where a place of more than one line begins and ends. -/
def showExtent (s : Span) : String :=
  "on line " ++ toString s.start.line ++ " (column " ++ toString s.start.column ++
    ") through line " ++ toString s.stop.line ++ " (column " ++ toString (s.stop.column - 1) ++ ")"

/-- The mistake with the pattern it was found in. -/
def report (pattern : String) (m : Mistake) : String :=
  let lines := Text.lines pattern
  let places := m.spans
  let count := lines.length + (if pattern.toList.getLast? = some '\n' then 1 else 0)
  let mark (n : Nat) := if count ≤ 1 then "    " else lineMark (toString count).length n
  let shown := String.join
    ((lines.zipIdx 1).map fun (line, n) => showLine places (mark n) n line)
  let divider := "".pushn '~' 79 ++ "\n"
  let wide := places.filter fun s => !isOneLine s
  let body :=
    if pattern.toList.contains '\n' then
      divider ++ shown ++ divider ++
        (if wide.isEmpty then "" else Text.joinWith "\n" (wide.map showExtent) ++ "\n")
    else shown
  "regex parse error:\n" ++ body ++ "error: " ++ m.kind.text

example : report "ab(" ⟨.groupUnclosed, ⟨⟨1, 3⟩, ⟨1, 4⟩⟩, none⟩ =
    "regex parse error:\n    ab(\n      ^\nerror: unclosed group" := by decide +kernel
example : report "(?ii)" ⟨.flagTwice, ⟨⟨1, 4⟩, ⟨1, 5⟩⟩, some ⟨⟨1, 3⟩, ⟨1, 4⟩⟩⟩ =
    "regex parse error:\n    (?ii)\n      ^^\nerror: duplicate flag" := by decide +kernel

end Mistake

end Regex

end Leasehold
