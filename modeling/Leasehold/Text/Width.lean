import Leasehold.Text.Emoji
import Leasehold.Text.WidthClasses

/-!
# Display width

The number of terminal columns that a text takes.  Most characters take the
columns of their class (`Width.ofChar`), but some sequences are shown as one:
emoji that are joined, toned or requested by a selector, a flag of two letters,
and the ligatures of some scripts.

A text is measured from its end.  `Width.Behind` is what the characters read so
far mean to the one in front of them, and `Width.step` is the columns that this
one adds.  A sequence counts at its last character, so that the others add
nothing, or take back what was counted too much.
-/

namespace Leasehold.Text

namespace Width

/-! ## What stands behind a character -/

/-- The last letters of a ligature.  `joined` says that a joiner stands in front. -/
inductive LigatureEnd where
  /-- Arabic alef, behind which a lam takes no room. -/
  | alef
  | lamed (joined : Bool)
  | ya (joined : Bool)
  | vowelAndYa
  | tifinagh (joined : Bool)
  /-- A Tifinagh letter with the joiner of that script in front. -/
  | linkedTifinagh
  | lisuTone
  | orkhonI (joined : Bool)
  /-- A Khmer letter that can be written below another. -/
  | subscript
  deriving DecidableEq

/-- The characters that a joiner ties to the emoji in front of it. -/
inductive JoinedEmoji where
  | picture
  | keycap
  /-- Letters of flags: a single one, or more of them, an even number or not. -/
  | flagLetter
  | flagLetters (even : Bool)
  /-- Tags that spell the region of a flag. -/
  | tags (letters digits : Nat)
  deriving DecidableEq

/-- What stands behind a character, as far as it matters to its width. -/
inductive Behind where
  | other
  | lineFeed
  | tone
  | flagLetter
  | flagLetters
  | picture
  | joined (e : JoinedEmoji)
  | ligature (l : LigatureEnd)
  /-- A selector that makes a quotation mark wide. -/
  | wideQuote
  /-- The vowels of Kirat Rai of which longer ones are composed. -/
  | kiratE
  | kiratAi
  deriving DecidableEq

/-- How a selector asks for a character to be shown. -/
inductive Selector where
  | asText
  | asPicture
  deriving DecidableEq

/-- A character or sequence, with the selector in front of it. -/
structure Context where
  behind : Behind
  selector : Option Selector := none
  deriving DecidableEq

namespace Context

/-- Nothing of interest stands behind. -/
def plain : Context := ⟨.other, none⟩

/-- Puts a selector in front.  Only ligatures and joined pictures go on through it. -/
def select (k : Selector) : Context → Context
  | ⟨.ligature l, _⟩ => ⟨.ligature l, some k⟩
  | ⟨.joined .picture, none⟩ => ⟨if k = .asPicture then .joined .picture else .other, some k⟩
  | ⟨.joined .keycap, none⟩ => ⟨if k = .asPicture then .joined .keycap else .other, some k⟩
  | _ => ⟨.other, some k⟩

/-- Takes a selector away that asks in vain: ligatures go on, and nothing else does. -/
def unselect : Context → Context
  | ⟨.ligature l, some _⟩ => ⟨.ligature l, none⟩
  | ⟨_, some _⟩ => plain
  | x => x

end Context

/-! ## Classes of letters -/

/-- Joins the characters on both sides of it. -/
def joiner : Nat := 0x200d

/-- Marks that may stand anywhere in a ligature. -/
def isTransparent (n : Nat) : Bool :=
  n = 0x34f || n = 0x17b4 || n = 0x17b5 || (0x180b ≤ n && n ≤ 0x180d) || n = 0x180f ||
    (0xfe00 ≤ n && n ≤ 0xfe0f) || (0xe0100 ≤ n && n ≤ 0xe01ef)

/-- Ranges of the Arabic letters alef. -/
def alefs : List (Nat × Nat) :=
  [(0x622, 0x623), (0x625, 0x625), (0x627, 0x627), (0x671, 0x673), (0x675, 0x675),
    (0x773, 0x774), (0x870, 0x882)]

/-- Ranges of the Arabic letters lam. -/
def lams : List (Nat × Nat) :=
  [(0x644, 0x644), (0x6b5, 0x6b8), (0x76a, 0x76a), (0x8a6, 0x8a6), (0x8c7, 0x8c7)]

/-- Ranges of the Khmer letters that can be written below another. -/
def subscripts : List (Nat × Nat) :=
  [(0x1780, 0x1782), (0x1784, 0x1787), (0x1789, 0x178c), (0x178e, 0x1793), (0x1795, 0x1798),
    (0x179b, 0x179d), (0x17a0, 0x17a0), (0x17a2, 0x17a2), (0x17a7, 0x17a7), (0x17ab, 0x17ac),
    (0x17af, 0x17af)]

/-- A Tifinagh consonant. -/
def isTifinagh (n : Nat) : Bool := (0x2d31 ≤ n && n ≤ 0x2d65) || n = 0x2d6f

/-- Quotation marks that a selector can make wide. -/
def isQuote (n : Nat) : Bool := n = 0x2018 || n = 0x2019 || n = 0x201c || n = 0x201d

/-! ## Measuring -/

/-- The columns of a character that takes part in no sequence, and what it means to the
character in front of it. -/
def alone (c : Char) : Int × Behind :=
  let n := c.toNat
  if n = 0x0a then (1, .lineFeed)
  else if n = 0x5dc then (1, .ligature (.lamed false))
  else if among alefs n then (1, .ligature .alef)
  else if among subscripts n then (1, .ligature .subscript)
  else if n = 0x1a10 then (1, .ligature (.ya false))
  else if isTifinagh n then (1, .ligature (.tifinagh false))
  else if n = 0xa4fc ∨ n = 0xa4fd then (1, .ligature .lisuTone)
  else if n = 0xfe01 then (0, .wideQuote)
  else if n = 0x10c03 then (1, .ligature (.orkhonI false))
  else if n = 0x16d67 then (1, .kiratE)
  else if n = 0x16d68 then (1, .kiratAi)
  else if Emoji.isFlagLetter n then (1, .flagLetter)
  else if Emoji.isTone n then (2, .tone)
  else if among Emoji.pictures n then (2, .picture)
  else (ofChar c, .other)

/-- A ligature with a joiner in front. -/
def LigatureEnd.join : LigatureEnd → Option LigatureEnd
  | .alef => none
  | .lamed _ => some (.lamed true)
  | .ya _ => some (.ya true)
  | .tifinagh _ => some (.tifinagh true)
  | .orkhonI _ => some (.orkhonI true)
  | l => some l

/-- The columns of a letter in front of the end of a ligature that it belongs to. -/
def LigatureEnd.extend (l : LigatureEnd) (c : Char) : Option (Int × Behind) :=
  let n := c.toNat
  match l with
  | .alef =>
    if among lams n then some (0, .other)
    else if ofChar c = 0 && !among unjoined n then some (0, .ligature .alef)
    else none
  | .lamed true => if n = 0x5d0 then some (0, .other) else none
  | .subscript => if n = 0x17d2 then some (-1, .other) else none
  | .ya true => if n = 0x1a17 then some (0, .ligature .vowelAndYa) else none
  | .vowelAndYa => if n = 0x1a15 then some (0, .other) else none
  | .tifinagh joined =>
    if n = 0x2d7f then some (1, .ligature .linkedTifinagh)
    else if joined && isTifinagh n then some (0, .other)
    else none
  | .linkedTifinagh => if isTifinagh n then some (-1, .other) else none
  | .lisuTone => if 0xa4f8 ≤ n ∧ n ≤ 0xa4fb then some (0, .other) else none
  | .orkhonI true => if n = 0x10c32 then some (0, .other) else none
  | _ => none

/-- The columns of a tag in front of the tags of a region, or of the flag that they belong to.
A region has up to six letters, or up to four and three digits. -/
def extendTags (letters digits n : Nat) : Option (Int × Behind) :=
  if 0xe0061 ≤ n ∧ n ≤ 0xe007a ∧ digits = 0 ∧ letters < 6 then
    some (0, .joined (.tags (letters + 1) 0))
  else if 0xe0030 ≤ n ∧ n ≤ 0xe0039 ∧ letters ≤ 4 ∧ digits < 3 then
    some (0, .joined (.tags letters (digits + 1)))
  else if n = 0x1f3f4 ∧ ((digits = 0 ∧ 3 ≤ letters) ∨ digits = 3) then some (0, .picture)
  else none

/-- The columns of a character in front of a joiner and what it joins. -/
def JoinedEmoji.extend (e : JoinedEmoji) (n : Nat) : Option (Int × Behind) :=
  match e with
  | .picture =>
    if n = 0x20e3 then some (0, .joined .keycap)
    else if Emoji.isFlagLetter n then some (1, .joined .flagLetter)
    else if Emoji.isTone n then some (0, .tone)
    else if n = 0xe007f then some (0, .joined (.tags 0 0))
    else if among Emoji.pictures n then some (0, .picture)
    else none
  | .keycap => none
  | .flagLetter | .flagLetters false =>
    if Emoji.isFlagLetter n then some (-1, .joined (.flagLetters true))
    else if e ≠ .flagLetter ∧ n = joiner then some (0, .joined .picture)
    else none
  | .flagLetters true =>
    if Emoji.isFlagLetter n then some (3, .joined (.flagLetters false))
    else if n = joiner then some (0, .joined .picture)
    else none
  | .tags letters digits => extendTags letters digits n

/-- The columns of a character that forms a sequence with what stands behind it. -/
def Behind.extend (b : Behind) (c : Char) : Option (Int × Behind) :=
  let n := c.toNat
  match b with
  | .ligature l => l.extend c
  | .joined e => e.extend n
  | .tone =>
    if among Emoji.tonable n then some (0, .picture)
    else if n = joiner then some (0, .joined .picture)
    else none
  | .flagLetter => if Emoji.isFlagLetter n then some (1, .flagLetters) else none
  | .flagLetters =>
    if Emoji.isFlagLetter n then some (1, .flagLetters)
    else if n = joiner then some (0, .joined .picture)
    else none
  | .picture => if n = joiner then some (0, .joined .picture) else none
  | .wideQuote => if isQuote n then some (2, .other) else none
  | .kiratE =>
    if n = 0x16d63 ∨ n = 0x16d69 then some (0, .other)
    else if n = 0x16d67 then some (0, .kiratAi)
    else if n = 0x16d68 then some (1, .kiratE)
    else none
  | .kiratAi => if n = 0x16d63 then some (0, .other) else none
  | .lineFeed => if c = '\r' then some (0, .other) else none
  | .other => none

/-- The columns that a character adds which is no selector, where no selector asks for it. -/
def stepPlain (b : Behind) (c : Char) : Int × Behind :=
  let n := c.toNat
  let passing : Option (Int × Behind) := match b with
    | .ligature l =>
      if n = joiner then l.join.map fun l => (0, .ligature l)
      else if l ≠ .alef ∧ isTransparent n then some (0, b)
      else none
    | _ => none
  (passing.or (b.extend c)).getD (alone c)

/-- The columns that a character adds in front of what is already measured. -/
def step (c : Char) (x : Context) : Int × Context :=
  let n := c.toNat
  if x.selector = some .asPicture ∧ among Emoji.selectable n then
    let joined := x.behind = .joined .picture ∨ x.behind = .joined .keycap
    (if joined then 0 else 2, ⟨.picture, none⟩)
  else
    let x := if x.selector = some .asPicture then x.unselect else x
    if c = '\ufe0f' then (0, x.select .asPicture)
    else if c = '\ufe0e' then (0, x.select .asText)
    else if x.selector = some .asText ∧ Emoji.isNarrowAsText n then (1, .plain)
    else
      let (w, b) := stepPlain x.unselect.behind c
      (w, ⟨b, none⟩)

/-- The columns of a text, and what it means to a character in front of it. -/
def measure (cs : List Char) : Int × Context :=
  cs.foldr (fun c (w, x) => ((step c x).1 + w, (step c x).2)) (0, .plain)

end Width

/-- The number of columns that a text takes. -/
def width (s : String) : Nat := (Width.measure s.toList).1.toNat

example : width "数据库" = 6 ∧ width "e\u0301" = 1 ∧ width "😀" = 2 := by decide +kernel
example : width "👩\u200d❤\ufe0f\u200d👨" = 2 ∧ width "✌🏽" = 2 ∧ width "🐱🏽" = 4 := by decide +kernel
example : width "\u0644\u0627" = 1 ∧ width "\u17d2\u1780" = 0 := by decide +kernel

end Leasehold.Text
