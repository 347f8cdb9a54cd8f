import Leasehold.Decimal.Reader
import Leasehold.Toml.Moment
import Leasehold.Toml.Value

/-!
# Scalars in TOML

Reading of strings in their four forms, numbers, truth values and dates.  Each
reader takes a scalar off the start of a text and gives the rest.
-/

namespace Leasehold

namespace Toml

/-! ## Strings -/

/-- A character that stands for itself in a document: no control but the tab. -/
def isPlain (c : Char) : Bool := c = '\t' || (0x20 ≤ c.toNat && c.toNat ≠ 0x7f)

/-- The value of a hexadecimal digit. -/
def hexValue? (c : Char) : Option Nat :=
  if '0' ≤ c ∧ c ≤ '9' then some (c.toNat - 48)
  else if 'a' ≤ c ∧ c ≤ 'f' then some (c.toNat - 87)
  else if 'A' ≤ c ∧ c ≤ 'F' then some (c.toNat - 55)
  else none

/-- The value of a run of hexadecimal digits. -/
def hexNumber? (cs : List Char) : Option Nat :=
  cs.foldlM (fun n c => (hexValue? c).map (n * 16 + ·)) 0

/-- The character of a code point. -/
def charOf? (n : Nat) : Option Char := if h : n.isValidChar then some ⟨n.toUInt32, by
  have hn : n < UInt32.size := by unfold Nat.isValidChar at h; simp only [UInt32.size]; omega
  simpa [UInt32.isValidChar, Nat.toUInt32, UInt32.toNat_ofNat_of_lt' hn] using h⟩ else none

/-- The character of hexadecimal digits. -/
def charOfHex? (cs : List Char) : Option Char := (hexNumber? cs).bind charOf?

/-- The character of a one-letter escape. -/
def charOfLetter? : Char → Option Char
  | 'b' => some '\x08'
  | 't' => some '\t'
  | 'n' => some '\n'
  | 'f' => some '\x0c'
  | 'r' => some '\r'
  | 'e' => some '\x1b'
  | '"' => some '"'
  | '\\' => some '\\'
  | _ => none

/-- Puts a character in front of what was read. -/
def consRead (c : Option Char) (r : Option (List Char × List Char)) :
    Option (List Char × List Char) := do
  let c ← c
  let (cs, rest) ← r
  some (c :: cs, rest)

/-- The rest of a string between double quotes. -/
def basic? : List Char → Option (List Char × List Char)
  | [] => none
  | '"' :: rest => some ([], rest)
  | '\\' :: 'x' :: a :: b :: rest => consRead (charOfHex? [a, b]) (basic? rest)
  | '\\' :: 'u' :: a :: b :: c :: d :: rest => consRead (charOfHex? [a, b, c, d]) (basic? rest)
  | '\\' :: 'U' :: a :: b :: c :: d :: e :: f :: g :: h :: rest =>
    consRead (charOfHex? [a, b, c, d, e, f, g, h]) (basic? rest)
  | '\\' :: c :: rest => consRead (charOfLetter? c) (basic? rest)
  | c :: rest => if isPlain c && c ≠ '\\' then consRead (some c) (basic? rest) else none

/-- The rest of a string between single quotes. -/
def literal? : List Char → Option (List Char × List Char)
  | [] => none
  | '\'' :: rest => some ([], rest)
  | c :: rest => if isPlain c then consRead (some c) (literal? rest) else none

/-- The text behind a line break, which may begin with a carriage return; nothing if none
stands here. -/
def lineBreak? : List Char → Option (List Char)
  | '\n' :: rest => some rest
  | '\r' :: '\n' :: rest => some rest
  | _ => none

/-- The text behind blanks. -/
def skipBlanks (cs : List Char) : List Char := cs.dropWhile fun c => c = ' ' || c = '\t'

/-- The text behind blanks and line breaks. -/
def skipBreaks : List Char → List Char
  | ' ' :: rest => skipBreaks rest
  | '\t' :: rest => skipBreaks rest
  | '\n' :: rest => skipBreaks rest
  | '\r' :: '\n' :: rest => skipBreaks rest
  | cs => cs

/-- The text behind an escaped line break, with the blanks and breaks that follow it; nothing
if the backslash is not the last mark of its line. -/
def afterBreak? (cs : List Char) : Option (List Char) :=
  (lineBreak? (skipBlanks cs)).map skipBreaks

/-- The rest of a string between three double quotes.  Up to two quotes may stand before the
closing ones.  The first argument bounds the number of characters. -/
def longBasic? : Nat → List Char → Option (List Char × List Char)
  | 0, _ => none
  | n + 1, cs =>
    match cs with
    | '"' :: '"' :: '"' :: '"' :: '"' :: rest => some (['"', '"'], rest)
    | '"' :: '"' :: '"' :: '"' :: rest => some (['"'], rest)
    | '"' :: '"' :: '"' :: rest => some ([], rest)
    | '\\' :: 'x' :: a :: b :: rest => consRead (charOfHex? [a, b]) (longBasic? n rest)
    | '\\' :: 'u' :: a :: b :: c :: d :: rest =>
      consRead (charOfHex? [a, b, c, d]) (longBasic? n rest)
    | '\\' :: 'U' :: a :: b :: c :: d :: e :: f :: g :: h :: rest =>
      consRead (charOfHex? [a, b, c, d, e, f, g, h]) (longBasic? n rest)
    | '\\' :: c :: rest =>
      match charOfLetter? c with
      | some d => consRead (some d) (longBasic? n rest)
      | none =>
        match afterBreak? (c :: rest) with
        | some rest => longBasic? n rest
        | none => none
    | '\r' :: '\n' :: rest =>
      consRead (some '\r') (consRead (some '\n') (longBasic? n rest))
    | c :: rest =>
      if (isPlain c || c = '\n') && c ≠ '\\' then consRead (some c) (longBasic? n rest) else none
    | [] => none

/-- The rest of a string between three single quotes. -/
def longLiteral? : List Char → Option (List Char × List Char)
  | '\'' :: '\'' :: '\'' :: '\'' :: '\'' :: rest => some (['\'', '\''], rest)
  | '\'' :: '\'' :: '\'' :: '\'' :: rest => some (['\''], rest)
  | '\'' :: '\'' :: '\'' :: rest => some ([], rest)
  | '\r' :: '\n' :: rest => consRead (some '\r') (consRead (some '\n') (longLiteral? rest))
  | c :: rest =>
    if isPlain c || c = '\n' then consRead (some c) (longLiteral? rest) else none
  | [] => none

/-- A long string does not begin with the break behind its quotes. -/
def dropBreak (cs : List Char) : List Char := (lineBreak? cs).getD cs

/-- A string in any of its forms. -/
def string? : List Char → Option (List Char × List Char)
  | '"' :: '"' :: '"' :: rest =>
    let rest := dropBreak rest
    longBasic? (rest.length + 1) rest
  | '\'' :: '\'' :: '\'' :: rest => longLiteral? (dropBreak rest)
  | '"' :: rest => basic? rest
  | '\'' :: rest => literal? rest
  | _ => none

/-! ## Numbers -/

/-- The digits of a run in which single underscores stand between digits. -/
def run? (isDigit : Char → Bool) : List Char → Option (List Char × List Char)
  | [] => none
  | c :: cs =>
    if isDigit c then
      match cs with
      | '_' :: rest => (run? isDigit rest).map fun (ds, rest) => (c :: ds, rest)
      | d :: rest =>
        if isDigit d then (run? isDigit (d :: rest)).map fun (ds, rest) => (c :: ds, rest)
        else some ([c], d :: rest)
      | [] => some ([c], [])
    else none

/-- A whole number with a sign of its own and no zeros in front. -/
def wholeDigits? (cs : List Char) : Option (Bool × List Char × List Char) := do
  let (negative, cs) := Decimal.splitSign cs
  let (ds, rest) ← run? Text.Digits.isDigit cs
  if ds.length = 1 ∨ ds.head? ≠ some '0' then some (negative, ds, rest) else none

/-- An integer in one of the bases that have a mark. -/
def based? (base : Nat) (cs : List Char) : Option (Int × List Char) := do
  let isDigit (c : Char) := (hexValue? c).any (· < base)
  let (ds, rest) ← run? isDigit cs
  let n := ds.foldl (fun n c => n * base + (hexValue? c).getD 0) 0
  if (n : Int) ≤ Text.Digits.signedMax then some (n, rest) else none

/-- An integer of 64 signed bits. -/
def integer? : List Char → Option (Int × List Char)
  | '0' :: 'x' :: cs => based? 16 cs
  | '0' :: 'o' :: cs => based? 8 cs
  | '0' :: 'b' :: cs => based? 2 cs
  | cs => do
    let (negative, ds, rest) ← wholeDigits? cs
    let n : Int := Text.Digits.accumulate 0 ds
    let n := if negative then -n else n
    if Text.Digits.signedMin ≤ n ∧ n ≤ Text.Digits.signedMax then some (n, rest) else none

/-- The exponent behind a number, if there is one. -/
def exponentPart? : List Char → Option (Option Int × List Char)
  | c :: cs =>
    if c = 'e' ∨ c = 'E' then do
      let (negative, cs) := Decimal.splitSign cs
      let (ds, rest) ← run? Text.Digits.isDigit cs
      let n : Int := Text.Digits.accumulate 0 ds
      some (some (if negative then -n else n), rest)
    else some (none, c :: cs)
  | [] => some (none, [])

/-- The fraction behind a number, if there is one. -/
def fractionPart? : List Char → Option (Option (List Char) × List Char)
  | '.' :: cs => (run? Text.Digits.isDigit cs).map fun (ds, rest) => (some ds, rest)
  | cs => some (none, cs)

/-- A number with a fraction or an exponent.  One that is too large to be a number is no
number at all. -/
def finiteReal? (cs : List Char) : Option (Binary64 × List Char) := do
  let (negative, whole, cs) ← wholeDigits? cs
  let (fraction, cs) ← fractionPart? cs
  let (exponent, cs) ← exponentPart? cs
  if fraction.isNone ∧ exponent.isNone then none
  else
    let ds := fraction.getD []
    let d : Decimal := ⟨negative, whole ++ ds, exponent.getD 0 - ds.length⟩
    match d.value with
    | .infinite _ => none
    | x => some (x, cs)

/-- The words for what is infinite or no number. -/
def specialReal? (cs : List Char) : Option (Binary64 × List Char) :=
  match Decimal.splitSign cs with
  | (negative, 'i' :: 'n' :: 'f' :: rest) => some (.infinite negative, rest)
  | (_, 'n' :: 'a' :: 'n' :: rest) => some (.nan, rest)
  | _ => none

/-! ## Scalars -/

/-- A truth value. -/
def truth? : List Char → Option (Bool × List Char)
  | 't' :: 'r' :: 'u' :: 'e' :: rest => some (true, rest)
  | 'f' :: 'a' :: 'l' :: 's' :: 'e' :: rest => some (false, rest)
  | _ => none

/-- A scalar of any kind. -/
def scalar? (cs : List Char) : Option (Toml × List Char) :=
  let string := (string? cs).map fun (s, rest) => (Toml.text (String.ofList s), rest)
  let truth := (truth? cs).map fun (b, rest) => (Toml.bool b, rest)
  let moment := (Moment.read? cs).map fun (t, rest) => (Toml.moment t, rest)
  let special := (specialReal? cs).map fun (x, rest) => (Toml.real x, rest)
  let real := (finiteReal? cs).map fun (x, rest) => (Toml.real x, rest)
  let integer := (integer? cs).map fun (n, rest) => (Toml.integer n, rest)
  string.or <| truth.or <| moment.or <| special.or <| real.or integer

example : string? "'''a''b''''".toList = some ("a''b'".toList, []) := by decide +kernel
example : string? "\"\\ud800\"".toList = none := by decide +kernel
example : string? "'''\r\na\r\nb'''".toList = some ("a\r\nb".toList, []) := by decide +kernel

end Toml

end Leasehold
