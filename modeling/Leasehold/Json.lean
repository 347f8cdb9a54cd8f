import Leasehold.Text.Digits
import Leasehold.Text.Lines

/-!
# JSON values

Values of the JSON data format, with the members of a record in the order in
which they are written, and their indented text.
-/

namespace Leasehold

/-- A JSON value.  A number with a fraction or an exponent keeps its text. -/
inductive Json where
  | null
  | bool (value : Bool)
  | whole (value : Int)
  | fraction (text : String)
  | text (value : String)
  | list (items : List Json)
  | record (members : List (String × Json))
  deriving Inhabited

namespace Json

/-- The value of the last member of that name. -/
def member? (name : String) : List (String × Json) → Option Json
  | [] => none
  | (n, v) :: rest => (member? name rest).or (if n = name then some v else none)

/-- The escaped form of a character within a string. -/
def escape (c : Char) : String :=
  match c with
  | '"' => "\\\""
  | '\\' => "\\\\"
  | '\n' => "\\n"
  | '\r' => "\\r"
  | '\t' => "\\t"
  | '\x08' => "\\b"
  | '\x0c' => "\\f"
  | c =>
    if c.toNat < 0x20 then
      let h := Text.Digits.hex c.toNat
      "\\u" ++ "".pushn '0' (4 - h.length) ++ h
    else c.toString

/-- A string between quotes. -/
def quote (s : String) : String := "\"" ++ String.join (s.toList.map escape) ++ "\""

/-- Two blanks for each level. -/
def indent (level : Nat) : String := "".pushn ' ' (2 * level)

/-- Items on lines of their own between two brackets. -/
def block (level : Nat) (opening closing : String) (items : List String) : String :=
  if items.isEmpty then opening ++ closing
  else
    opening ++ "\n" ++ Text.joinWith ",\n" (items.map (indent (level + 1) ++ ·)) ++ "\n" ++
      indent level ++ closing

mutual

/-- The indented text of a value at a level. -/
def prettyAt (level : Nat) : Json → String
  | null => "null"
  | bool b => if b then "true" else "false"
  | whole n => toString n
  | fraction t => t
  | text s => quote s
  | list items => block level "[" "]" (prettyItems (level + 1) items)
  | record members => block level "\x7b" "\x7d" (prettyMembers (level + 1) members)

/-- The texts of the items of a list. -/
def prettyItems (level : Nat) : List Json → List String
  | [] => []
  | v :: rest => prettyAt level v :: prettyItems level rest

/-- The texts of the members of a record. -/
def prettyMembers (level : Nat) : List (String × Json) → List String
  | [] => []
  | (n, v) :: rest => (quote n ++ ": " ++ prettyAt level v) :: prettyMembers level rest

end

/-- The indented text of a value. -/
def pretty (v : Json) : String := v.prettyAt 0

end Json

end Leasehold
