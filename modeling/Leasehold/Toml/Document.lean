import Leasehold.Toml.Scalar
import Leasehold.Toml.Section

/-!
# TOML documents

A document is a sequence of statements, each on lines of its own: headers, which
say where what follows belongs, and entries, which give a key its value.
`Toml.statements?` reads them, and `Section.ofStatements?` carries them out.
Keys and values are nested at most `deepest` times; every other reader is bounded
by the length of its text.
-/

namespace Leasehold

namespace Toml

/-! ## Blanks and comments -/

/-- The text behind a comment, if one stands here; the line break after it stays. -/
def skipComment? : List Char → Option (List Char)
  | '#' :: cs =>
    let rest := cs.dropWhile isPlain
    if rest.isEmpty || (lineBreak? rest).isSome then some rest else none
  | cs => some cs

/-- The text behind the end of a line. -/
def endLine? (cs : List Char) : Option (List Char) := do
  match ← skipComment? (skipBlanks cs) with
  | [] => some []
  | rest => lineBreak? rest

/-- The text behind blanks, line breaks and comments. -/
def skipSpace? : Nat → List Char → Option (List Char)
  | 0, _ => none
  | n + 1, cs => do
    let cs := skipBreaks cs
    if cs.head? = some '#' then skipSpace? n (← skipComment? cs) else some cs

/-! ## Keys -/

/-- The most parts of a key, and the most brackets around a value. -/
def deepest : Nat := 80

/-- A key: the sections it leads through, and a name. -/
structure Key where
  path : List String
  name : String
  deriving DecidableEq

/-- A character of a key without quotes. -/
def isKeyChar (c : Char) : Bool := c.isAlphanum || c = '_' || c = '-'

/-- One part of a key. -/
def keyPart? : List Char → Option (String × List Char)
  | '"' :: cs => (basic? cs).map fun (s, rest) => (String.ofList s, rest)
  | '\'' :: cs => (literal? cs).map fun (s, rest) => (String.ofList s, rest)
  | cs =>
    let s := cs.takeWhile isKeyChar
    if s.isEmpty then none else some (String.ofList s, cs.dropWhile isKeyChar)

/-- A key of at most so many parts, with the blanks around them. -/
def key? : Nat → List Char → Option (Key × List Char)
  | 0, _ => none
  | n + 1, cs => do
    let (part, cs) ← keyPart? (skipBlanks cs)
    match skipBlanks cs with
    | '.' :: cs =>
      let (k, cs) ← key? n cs
      some (⟨part :: k.path, k.name⟩, cs)
    | cs => some (⟨[], part⟩, cs)

/-! ## Values -/

/-- A reader of something at the start of a text. -/
abbrev Reader (α : Type) := List Char → Option (α × List Char)

/-- The items of a list up to its closing bracket. -/
def items? (value : Reader Toml) : Nat → List Char → Option (List Toml × List Char)
  | 0, _ => none
  | n + 1, cs => do
    match ← skipSpace? (cs.length + 1) cs with
    | ']' :: cs => some ([], cs)
    | cs =>
      let (v, cs) ← value cs
      match ← skipSpace? (cs.length + 1) cs with
      | ',' :: cs => (items? value n cs).map fun (l, rest) => (v :: l, rest)
      | ']' :: cs => some ([v], cs)
      | _ => none

/-- A key, the sign behind it, and its value. -/
def entry? (value : Reader Toml) (cs : List Char) : Option ((Key × Toml) × List Char) := do
  let (k, cs) ← key? deepest cs
  match cs with
  | '=' :: cs =>
    let (v, cs) ← value (skipBlanks cs)
    some ((k, v), cs)
  | _ => none

/-- The entries of a table in braces, up to its closing one.  Blanks, line breaks and comments
may stand between any two of their parts, and a comma behind the last entry. -/
def entries? (value : Reader Toml) : Nat → Section → List Char → Option (Section × List Char)
  | 0, _, _ => none
  | n + 1, s, cs => do
    let space := skipSpace? (cs.length + 1)
    match ← space cs with
    | '\x7d' :: cs => some (s, cs)
    | cs =>
      let (k, cs) ← key? deepest cs
      match ← space cs with
      | '=' :: cs =>
        let (v, cs) ← value (← space cs)
        let s ← s.insert k.path k.name v
        match ← space cs with
        | ',' :: cs => entries? value n s cs
        | '\x7d' :: cs => some (s, cs)
        | _ => none
      | _ => none

/-- A table in braces. -/
def inlineTable? (value : Reader Toml) (cs : List Char) : Option (Toml × List Char) :=
  (entries? value (cs.length + 1) Section.empty cs).map fun (s, rest) => (.table s.finish, rest)

/-- A value with at most so many brackets around its parts. -/
def value? : Nat → List Char → Option (Toml × List Char)
  | 0, cs => scalar? cs
  | n + 1, cs =>
    match cs with
    | '[' :: cs => (items? (value? n) (cs.length + 1) cs).map fun (l, rest) => (.list l, rest)
    | '\x7b' :: cs => inlineTable? (value? n) cs
    | cs => scalar? cs

/-! ## Statements -/

/-- A part of a document. -/
inductive Statement where
  | header (repeated : Bool) (key : Key)
  | entry (key : Key) (value : Toml)

/-- The rest of a header line with so many brackets. -/
def header? (repeated : Bool) (cs : List Char) : Option (Statement × List Char) := do
  let (k, cs) ← key? deepest cs
  match repeated, cs with
  | false, ']' :: cs => (endLine? cs).map fun rest => (.header false k, rest)
  | true, ']' :: ']' :: cs => (endLine? cs).map fun rest => (.header true k, rest)
  | _, _ => none

/-- A statement, if the line holds one. -/
def statement? (cs : List Char) : Option (Option Statement × List Char) :=
  match skipBlanks cs with
  | [] => some (none, [])
  | '\n' :: rest => some (none, rest)
  | '\r' :: '\n' :: rest => some (none, rest)
  | '#' :: cs => (endLine? ('#' :: cs)).map fun rest => (none, rest)
  | '[' :: '[' :: cs => (header? true cs).map fun (s, rest) => (some s, rest)
  | '[' :: cs => (header? false cs).map fun (s, rest) => (some s, rest)
  | cs => do
    let ((k, v), cs) ← entry? (value? deepest) cs
    (endLine? cs).map fun rest => (some (.entry k v), rest)

/-- All statements of a text. -/
def statements? : Nat → List Char → Option (List Statement)
  | _, [] => some []
  | 0, _ :: _ => none
  | n + 1, cs => do
    let (s, rest) ← statement? cs
    (statements? n rest).map (s.toList ++ ·)

/-- Carries out a statement in the section that the last header opened. -/
def Section.carryOut (state : Section × List String) : Statement → Option (Section × List String)
  | .header repeated k =>
    (state.1.openHeader repeated k.path k.name).map fun s => (s, k.path ++ [k.name])
  | .entry k v => (edit false (insert k.path k.name v) state.2 state.1).map fun s => (s, state.2)

/-- The tree of a sequence of statements. -/
def Section.ofStatements? (l : List Statement) : Option Section :=
  (l.foldlM Section.carryOut (Section.empty, [])).map (·.1)

/-- A text without the mark of its byte order. -/
def dropByteOrderMark : List Char → List Char
  | '\ufeff' :: cs => cs
  | cs => cs

/-- Reads a document. -/
def document? (s : String) : Option (Members Toml) := do
  let cs := dropByteOrderMark s.toList
  let l ← statements? cs.length cs
  (Section.ofStatements? l).map Section.finish

end Toml

end Leasehold
