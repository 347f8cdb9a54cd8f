/-!
# Lower case

Lower case as far as words of ASCII letters are concerned.  Besides the ASCII
capitals there is one character whose lower case is an ASCII letter, the Kelvin
sign.
-/

namespace Leasehold.Text

/-- The lower case of a character, if that is an ASCII letter; else the character. -/
def lowerLetter (c : Char) : Char := if c = '\u212a' then 'k' else c.toLower

/-- A string with all letters in lower case. -/
def lowerString (s : String) : String := String.ofList (s.toList.map lowerLetter)

/-- A text is one of some words, in any case. -/
def isWordOf (words : List String) (s : String) : Bool := words.contains (lowerString s)

example : lowerString "LOC\u212aS é" = "locks é" := by decide +kernel

end Leasehold.Text
