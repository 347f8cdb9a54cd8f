import Leasehold.Text.Combining
import Leasehold.Text.Digits
import Leasehold.Text.Unprintable

/-!
# Quoted texts for diagnostics

A text between double quotes in which quotes, backslashes and everything that
has no visible form of its own are escaped: the common controls by a letter, the
others by their code point.
-/

namespace Leasehold.Text

namespace Quoted

/-- A character that shows nothing, or nothing but a change of the one before it. -/
def isInvisible (c : Char) : Bool :=
  among unprintable c.toNat || among combining c.toNat

/-- The escaped form of a character. -/
def escape (c : Char) : String :=
  match c with
  | '"' => "\\\""
  | '\\' => "\\\\"
  | '\n' => "\\n"
  | '\r' => "\\r"
  | '\t' => "\\t"
  | '\x00' => "\\0"
  | c => if isInvisible c then "\\u\x7b" ++ Digits.hex c.toNat ++ "\x7d" else c.toString

end Quoted

/-- The text between quotes. -/
def quoted (s : String) : String := "\"" ++ String.join (s.toList.map Quoted.escape) ++ "\""

example : quoted "a\"b\\\x1b\n" = "\"a\\\"b\\\\\\u\x7b1b\x7d\\n\"" := by decide +kernel
example : quoted "é\u0301\u038b" = "\"é\\u\x7b301\x7d\\u\x7b38b\x7d\"" := by decide +kernel

end Leasehold.Text
