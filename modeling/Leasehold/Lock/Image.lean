import Leasehold.Decimal.Reader
import Leasehold.Lock.Database
import Leasehold.Text.Lines

/-!
# Databases as text

The form in which a database is kept in a file: a heading that says whether there
is a table, and a line for each row with its four cells.  A cell begins with a
letter for its kind; within texts, breaks, tabs and backslashes are escaped, so
that lines and cells can be told apart (`unescape_escape`).
-/

namespace Leasehold

namespace Image

/-- The escaped form of a character. -/
def escapeChar : Char → List Char
  | '\\' => ['\\', '\\']
  | '\n' => ['\\', 'n']
  | '\t' => ['\\', 't']
  | '\r' => ['\\', 'r']
  | c => [c]

/-- A text without breaks and tabs. -/
def escape (cs : List Char) : List Char := cs.flatMap escapeChar

/-- The text that was escaped. -/
def unescape : List Char → List Char
  | '\\' :: 'n' :: cs => '\n' :: unescape cs
  | '\\' :: 't' :: cs => '\t' :: unescape cs
  | '\\' :: 'r' :: cs => '\r' :: unescape cs
  | '\\' :: c :: cs => c :: unescape cs
  | c :: cs => c :: unescape cs
  | [] => []

/-- The characters of a cell. -/
def cell : Cell → List Char
  | .null => ['n']
  | .integer n => 'i' :: (toString n).toList
  | .real x => 'r' :: x.shortest.toList
  | .text s => 't' :: escape s.toList
  | .bytes bs => 'b' :: (Text.joinWith "." (bs.map fun b => toString b.toNat)).toList

/-- The bytes between points. -/
def bytes? (cs : List Char) : Option (List UInt8) :=
  if cs.isEmpty then some []
  else (Text.splitAt '.' cs).mapM fun part => (Text.Digits.value? part).map Nat.toUInt8

/-- The cell of some characters. -/
def cell? : List Char → Option Cell
  | ['n'] => some .null
  | 'i' :: cs => (Text.Digits.signed? (String.ofList cs)).map .integer
  | 'r' :: cs => (Decimal.read? (String.ofList cs)).map .real
  | 't' :: cs => some (.text (String.ofList (unescape cs)))
  | 'b' :: cs => (bytes? cs).map .bytes
  | _ => none

/-- The line of a row. -/
def line (e : Entry) : String :=
  Text.joinWith "\t" ([e.key, e.host, e.owner, e.deadline].map fun c => String.ofList (cell c))

/-- The row of a line. -/
def entry? (cs : List Char) : Option Entry := do
  match ← (Text.splitAt '\t' cs).mapM cell? with
  | [key, host, owner, deadline] => some ⟨key, host, owner, deadline⟩
  | _ => none

/-- The heading of a database without a table. -/
def bare : String := "no lock table"

/-- The heading of a table. -/
def heading (mute : Bool) : String := if mute then "mute lock table" else "lock table"

end Image

namespace Database

/-- The text of a database. -/
def image (db : Database) : String :=
  match db.table with
  | none => Image.bare ++ "\n"
  | some t => String.join ((Image.heading t.mute :: t.entries.map Image.line).map (· ++ "\n"))

/-- The database of a text. -/
def ofImage? (s : String) : Option Database :=
  match Text.linesOfParts (Text.splitAt '\n' s.toList) with
  | [] => some empty
  | first :: rows =>
    let table (mute : Bool) : Option Database :=
      (rows.mapM Image.entry?).map fun entries => ⟨some ⟨entries, mute⟩⟩
    if first = Image.bare.toList then some empty
    else if first = (Image.heading false).toList then table false
    else if first = (Image.heading true).toList then table true
    else none

end Database

theorem Image.escape_cons (c : Char) (cs : List Char) :
    Image.escape (c :: cs) = Image.escapeChar c ++ Image.escape cs := by simp [Image.escape]

theorem Image.unescape_escape (cs : List Char) : Image.unescape (Image.escape cs) = cs := by
  induction cs with
  | nil => rfl
  | cons c r ih =>
    rw [Image.escape_cons]
    unfold Image.escapeChar
    split
    · simp [Image.unescape, ih]
    · simp [Image.unescape, ih]
    · simp [Image.unescape, ih]
    · simp [Image.unescape, ih]
    · rw [List.cons_append, List.nil_append, Image.unescape]
      · rw [ih]
      all_goals simp_all

example : Database.ofImage? (Database.image ⟨some ⟨[.ofRow ⟨"a\tb", "h", "o\\", -5⟩], false⟩⟩) =
    some ⟨some ⟨[.ofRow ⟨"a\tb", "h", "o\\", -5⟩], false⟩⟩ := by decide +kernel

end Leasehold
