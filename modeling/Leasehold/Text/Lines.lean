/-!
# Lines and joined texts

Splitting a text at line breaks and joining texts with a separator.
-/

namespace Leasehold.Text

/-- The texts one after another with `separator` between them. -/
def joinWith (separator : String) (parts : List String) : String :=
  String.join (parts.intersperse separator)

/-- The parts of a text between the characters `c`; a text without any is one part. -/
def splitAt (c : Char) : List Char → List (List Char)
  | [] => [[]]
  | d :: ds =>
    if d = c then [] :: splitAt c ds
    else
      match splitAt c ds with
      | [] => [[d]]
      | part :: parts => (d :: part) :: parts

/-- The parts of a string between line breaks. -/
def splitLines (s : String) : List String := (splitAt '\n' s.toList).map String.ofList

/-- A part without the carriage return that belongs to the line break behind it. -/
def dropReturn (l : List Char) : List Char := if l.getLast? = some '\r' then l.dropLast else l

/-- The lines among the parts of a text: all but the last end in a line break, and the last
is a line unless it is empty. -/
def linesOfParts : List (List Char) → List (List Char)
  | [] => []
  | [part] => if part = [] then [] else [part]
  | part :: parts => dropReturn part :: linesOfParts parts

/-- The lines of a string without their breaks. -/
def lines (s : String) : List String :=
  (linesOfParts (splitAt '\n' s.toList)).map String.ofList

example : splitLines "a\n\nb" = ["a", "", "b"] := by decide +kernel
example : lines "a\r\nb\r" = ["a", "b\r"] := by decide +kernel
example : joinWith ", " ["a", "b"] = "a, b" := by decide +kernel

end Leasehold.Text
