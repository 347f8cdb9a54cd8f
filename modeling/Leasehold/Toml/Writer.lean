import Leasehold.Toml.Value

/-!
# Writing TOML

Entries as a document writes them, one on each line.  A string takes the
plainest form that holds it: between double quotes if nothing has to be escaped
there, between single quotes if that avoids an escape, and with tripled quotes
if it has line breaks or both kinds of quotes.
-/

namespace Leasehold

namespace Toml

/-- What a string holds that matters for its written form. -/
structure StringTraits where
  /-- Most double quotes in a row. -/
  doubleQuotes : Nat
  /-- Most single quotes in a row. -/
  singleQuotes : Nat
  backslash : Bool
  lineBreak : Bool
  /-- A control other than the tab and the line break. -/
  control : Bool

/-- The length of the longest run of a character, after so many of them. -/
def longestRun (q : Char) : Nat → List Char → Nat
  | _, [] => 0
  | n, c :: cs => if c = q then max (n + 1) (longestRun q (n + 1) cs) else longestRun q 0 cs

/-- A control that no string may hold as it is. -/
def isControl (c : Char) : Bool := (c.toNat < 0x20 && c ≠ '\t' && c ≠ '\n') || c.toNat = 0x7f

/-- The traits of a string. -/
def StringTraits.of (cs : List Char) : StringTraits where
  doubleQuotes := longestRun '"' 0 cs
  singleQuotes := longestRun '\'' 0 cs
  backslash := cs.contains '\\'
  lineBreak := cs.contains '\n'
  control := cs.any isControl

/-- The forms of a string. -/
inductive StringForm where
  | basic
  | literal
  | longBasic
  | longLiteral
  deriving DecidableEq

/-- The plainest form without escapes; if there is none, the form with them. -/
def StringTraits.form (t : StringTraits) : StringForm :=
  if !t.backslash && !t.control && t.doubleQuotes = 0 && !t.lineBreak then .basic
  else if !t.control && t.singleQuotes = 0 && !t.lineBreak then .literal
  else if !t.control && !t.backslash && t.doubleQuotes ≤ 2 then .longBasic
  else if !t.control && t.singleQuotes ≤ 2 then .longLiteral
  else if t.lineBreak then .longBasic
  else .basic

/-- A code point in four digits. -/
def codePoint (n : Nat) : String :=
  let ds := (Nat.toDigits 16 n).map Char.toUpper
  String.ofList ('\\' :: 'u' :: (List.replicate (4 - ds.length) '0' ++ ds))

/-- The characters between quotes, after so many double quotes in a row.  A run of quotes that
would close the string is broken by a backslash, which begins a new run. -/
def escaped (long : Bool) : Nat → List Char → List String
  | _, [] => []
  | run, c :: cs =>
    match c with
    | '"' =>
      if long && run < 2 then "\"" :: escaped long (run + 1) cs else "\\\"" :: escaped long 0 cs
    | '\x08' => "\\b" :: escaped long 0 cs
    | '\t' => "\\t" :: escaped long 0 cs
    | '\n' => (if long then "\n" else "\\n") :: escaped long 0 cs
    | '\x0c' => "\\f" :: escaped long 0 cs
    | '\r' => "\\r" :: escaped long 0 cs
    | '\\' => "\\\\" :: escaped long 0 cs
    | c => (if isControl c then codePoint c.toNat else c.toString) :: escaped long 0 cs

/-- A string in a form. -/
def StringForm.write (f : StringForm) (cs : List Char) : String :=
  let opening := if cs.contains '\n' then "\n" else ""
  match f with
  | basic => "\"" ++ String.join (escaped false 0 cs) ++ "\""
  | literal => "'" ++ String.ofList cs ++ "'"
  | longBasic => "\"\"\"" ++ opening ++ String.join (escaped true 0 cs) ++ "\"\"\""
  | longLiteral => "'''" ++ opening ++ String.ofList cs ++ "'''"

/-- A string in its plainest form. -/
def writeString (s : String) : String :=
  let cs := s.toList
  (StringTraits.of cs).form.write cs

/-- The entry of a key on its line. -/
def writeEntry (name value : String) : String := name ++ " = " ++ value ++ "\n"

example : writeString "plain é" = "\"plain é\"" ∧ writeString "a\\b" = "'a\\b'" := by decide +kernel
example : writeString "a'''b\"\"\"c" = "\"a'''b\\\"\\\"\\\"c\"" := by decide +kernel
example : writeString "\x01\x7f" = "\"\\u0001\\u007F\"" := by decide +kernel

end Toml

end Leasehold
