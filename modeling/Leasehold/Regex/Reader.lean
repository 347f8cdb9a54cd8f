import Leasehold.Regex.Brackets
import Leasehold.Text.Unprintable

/-!
# Reading patterns

A pattern is read from its start to its end.  What is not yet closed waits on a
stack: groups, and the alternations within them (`Frame`).  `read?` gives the
tree of a pattern, or the first mistake in it.
-/

namespace Leasehold

namespace Regex

/-! ## Sequences -/

/-- A sequence under construction. -/
structure Sequence where
  start : Position
  nodes : List Node

/-- The tree of a sequence that ends at a place. -/
def Sequence.toNode (s : Sequence) (stop : Position) : Node :=
  match s.nodes with
  | [] => .empty ⟨s.start, stop⟩
  | [n] => n
  | nodes => .concat ⟨s.start, stop⟩ nodes

/-- One more part. -/
def Sequence.push (n : Node) (s : Sequence) : Sequence := { s with nodes := s.nodes ++ [n] }

/-- A group whose end is not yet read. -/
structure OpenGroup where
  span : Span
  change : FlagChange
  captures : Bool

/-- What waits for its end. -/
inductive Frame where
  /-- A group behind a sequence, with what counted as a blank before it. -/
  | group (before : Sequence) (g : OpenGroup) (spaced : Bool)
  | alternation (start : Position) (branches : List Node)

/-- A pattern that is partly read. -/
structure ReadState where
  cursor : Cursor
  sequence : Sequence
  stack : List Frame
  /-- The names of groups with their places. -/
  names : List (String × Span)

/-! ## Groups -/

/-- A character of the name of a group.  Letters and digits of every script count. -/
def isNameChar (first : Bool) (c : Char) : Bool :=
  let n := c.toNat
  c = '_' || c.isAlpha || (0x7f < n && !Text.among Text.unprintable n) ||
    (!first && (c.isDigit || c = '.' || c = '[' || c = ']'))

/-- Reads the name of a group, up to the bracket behind it. -/
def groupName (x : Cursor) : Reading ((String × Span) × Cursor) :=
  if x.isEnd then mistake .groupNameEnd (.at x.place)
  else
    let (head, y) := match x.char? with
      | some c => if isNameChar true c then ([c], x.bump) else ([], x)
      | none => ([], x)
    let (tail, y) := if head.isEmpty then ([], y) else y.takeWhile (isNameChar false)
    match y.char? with
    | none => mistake .groupNameEnd (.at y.place)
    | some c =>
      if c ≠ '>' then mistake .groupNameInvalid y.charSpan
      else if head.isEmpty then mistake .groupNameEmpty (.at x.place)
      else .ok ((String.ofList (head ++ tail), y.spanFrom x.place), y.bump)

/-- Flags read so far, with the places of their letters and of the sign that clears. -/
structure FlagItems where
  change : FlagChange
  places : List (Flag × Span)
  negation : Option Span

/-- Adds a flag. -/
def FlagItems.push (f : FlagItems) (flag : Flag) (span : Span) : FlagItems :=
  let places := f.places ++ [(flag, span)]
  if f.negation.isSome then
    { f with change := { f.change with clear := f.change.clear ++ [flag] }, places }
  else { f with change := { f.change with set := f.change.set ++ [flag] }, places }

/-- Reads flags up to the mark behind them; `dangling` is a sign without a flag behind it. -/
def flagItems : Nat → Option Span → FlagItems → Cursor → Reading (FlagItems × Cursor)
  | 0, _, _, x => mistake .flagEnd (.at x.place)
  | n + 1, dangling, f, x =>
    let span := x.charSpan
    let goOn (dangling : Option Span) (f : FlagItems) : Reading (FlagItems × Cursor) :=
      if x.bump.isEnd then mistake .flagEnd (.at x.bump.place) else flagItems n dangling f x.bump
    match x.char? with
    | none => mistake .flagEnd (.at x.place)
    | some c =>
      if c = ':' ∨ c = ')' then
        match dangling with
        | some s => mistake .flagDanglingNegation s
        | none => .ok (f, x)
      else if c = '-' then
        match f.negation with
        | some first => .error ⟨.flagNegationTwice, span, some first⟩
        | none => goOn (some span) { f with negation := some span }
      else
        match Flag.ofLetter? c with
        | none => mistake .flagUnknown span
        | some flag =>
          match f.places.find? (·.1 = flag) with
          | some (_, first) => .error ⟨.flagTwice, span, some first⟩
          | none => goOn none (f.push flag span)

/-- Reads on with other flags about blanks. -/
def Cursor.withFlags (change : FlagChange) (x : Cursor) : Cursor :=
  { x with spaced := change.apply .ignoreSpace x.spaced }

/-- Opens a group behind the sequence so far. -/
def pushGroup (s : ReadState) (g : OpenGroup) (x : Cursor) : ReadState :=
  { s with
    cursor := x.withFlags g.change
    sequence := ⟨x.place, []⟩
    stack := .group s.sequence g s.cursor.spaced :: s.stack }

/-- Opens a group with a name. -/
def openNamed (s : ReadState) (paren : Span) (x : Cursor) : Reading ReadState := do
  let ((name, span), y) ← groupName x
  match s.names.lookup name with
  | some first => .error ⟨.groupNameTwice, span, some first⟩
  | none =>
    return { pushGroup s ⟨paren, .none, true⟩ y with names := (name, span) :: s.names }

/-- Reads flags behind a question mark: of a group, or of all that follows. -/
def openFlags (s : ReadState) (paren : Span) (mark : Position) (x : Cursor) :
    Reading ReadState := do
  if x.isEnd then mistake .groupUnclosed paren
  else
    let (f, y) ← flagItems (x.rest.length + 1) none ⟨.none, [], none⟩ x
    if y.sees ')' then
      if f.places.isEmpty && f.negation.isNone then mistake .nothingToRepeat (.at mark)
      else
        let z := y.bump
        return { s with
          cursor := z.withFlags f.change
          sequence := s.sequence.push (.flags ⟨paren.start, z.place⟩ f.change) }
    else return pushGroup s ⟨paren, f.change, false⟩ y.bump

/-- Reads the start of a group. -/
def openParen (s : ReadState) (x : Cursor) : Reading ReadState :=
  let paren := x.charSpan
  let y := x.next
  let around := ["?=", "?!", "?<=", "?<!"].findSome? (y.bumpIf? ·)
  match around with
  | some z => mistake .lookAround (z.spanFrom paren.start)
  | none =>
    match (y.bumpIf? "?P<").or (y.bumpIf? "?<") with
    | some z => openNamed s paren z
    | none =>
      match y.bumpIf? "?" with
      | some z => openFlags s paren y.place z
      | none => .ok (pushGroup s ⟨paren, .none, true⟩ y)

/-- Closes the innermost group. -/
def closeParen (s : ReadState) (x : Cursor) : Reading ReadState :=
  let last := s.sequence.toNode x.place
  let close (body : Node) (before : Sequence) (g : OpenGroup) (spaced : Bool)
      (stack : List Frame) : Reading ReadState :=
    let y := { x.bump with spaced }
    .ok { s with
      cursor := y
      sequence := before.push (.group ⟨g.span.start, y.place⟩ g.change g.captures body)
      stack }
  match s.stack with
  | .group before g spaced :: stack => close last before g spaced stack
  | .alternation start branches :: .group before g spaced :: stack =>
    close (.alternation ⟨start, x.place⟩ (branches ++ [last])) before g spaced stack
  | _ => mistake .groupUnopened x.charSpan

/-- Ends a branch of an alternation. -/
def nextBranch (s : ReadState) (x : Cursor) : ReadState :=
  let branch := s.sequence.toNode x.place
  let stack := match s.stack with
    | .alternation start branches :: rest => .alternation start (branches ++ [branch]) :: rest
    | rest => .alternation s.sequence.start [branch] :: rest
  { s with cursor := x.bump, sequence := ⟨x.bump.place, []⟩, stack }

/-! ## Repetitions -/

/-- The part that a repetition repeats, and those before it. -/
def lastPart (s : Sequence) (x : Cursor) : Reading (Node × Sequence) :=
  match s.nodes.getLast? with
  | none => mistake .nothingToRepeat (.at x.place)
  | some (.empty _) => mistake .nothingToRepeat (.at x.place)
  | some (.flags _ _) => mistake .nothingToRepeat (.at x.place)
  | some n => .ok (n, { s with nodes := s.nodes.dropLast })

/-- Repeats the last part. -/
def repeatLast (s : ReadState) (body : Node) (before : Sequence) (least : Nat)
    (most : Option Nat) (x : Cursor) : ReadState :=
  { s with
    cursor := x
    sequence := before.push (.repetition ⟨body.span.start, x.place⟩ least most body) }

/-- The cursor behind a question mark, if one stands here. -/
def skipQuestion (x : Cursor) : Cursor := if x.sees '?' then x.bump else x

/-- Reads a repetition of one character. -/
def uncounted (s : ReadState) (least : Nat) (most : Option Nat) (x : Cursor) :
    Reading ReadState := do
  let (body, before) ← lastPart s.sequence x
  return repeatLast s body before least most (skipQuestion x.bump)

/-- Passes over blanks, which do not count in a repetition. -/
def skipBlanks : Nat → Cursor → Cursor
  | 0, x => x
  | n + 1, x => if x.char?.any Text.isBlank then skipBlanks n x.bump else x

/-- Reads a number of a repetition, with the blanks around it. -/
def count (x : Cursor) : Reading Nat × Cursor :=
  let y := skipBlanks x.rest.length x
  let (ds, z) := y.takeSpaced Text.Digits.isDigit y.rest.length
  let n := Text.Digits.accumulate 0 ds
  let result : Reading Nat :=
    if ds.isEmpty then mistake .countEmpty (z.spanFrom y.place)
    else if n < 4294967296 then .ok n
    else mistake .numberInvalid (z.spanFrom y.place)
  (result, skipBlanks z.rest.length z)

/-- Reads the bounds of a repetition behind its brace. -/
def bounds (start : Position) (x : Cursor) : Reading ((Nat × Option Nat) × Cursor) := do
  let unclosed (y : Cursor) : Reading Unit :=
    if y.isEnd then mistake .countUnclosed (y.spanFrom start) else .ok ()
  unclosed x
  let (least, y) := count x
  unclosed y
  if y.sees ',' then
    let z := y.next
    unclosed z
    if z.sees '\x7d' then return ((← least, none), z)
    else
      let least ← least
      let (most, z) := count z
      return ((least, some (← most)), z)
  else
    let n ← least
    return ((n, some n), y)

/-- Reads a repetition with bounds. -/
def counted (s : ReadState) (x : Cursor) : Reading ReadState := do
  let start := x.place
  let (body, before) ← lastPart s.sequence x
  let ((least, most), y) ← bounds start x.next
  if !y.sees '\x7d' then mistake .countUnclosed (y.spanFrom start)
  else
    let y := skipQuestion y.next
    if most.any (· < least) then mistake .countRange (y.spanFrom start)
    else return repeatLast s body before least most y

/-! ## Patterns -/

/-- Reads one part of a pattern. -/
def readPart (s : ReadState) (x : Cursor) : Reading ReadState :=
  match x.char? with
  | some '(' => openParen s x
  | some ')' => closeParen s x
  | some '|' => .ok (nextBranch s x)
  | some '[' => do
    let (n, y) ← bracketClass x
    return { s with cursor := y, sequence := s.sequence.push n }
  | some '?' => uncounted s 0 (some 1) x
  | some '*' => uncounted s 0 none x
  | some '+' => uncounted s 1 none x
  | some '\x7b' => counted s x
  | _ => do
    let (a, y) ← atom x
    return { s with cursor := y, sequence := s.sequence.push a.toNode }

/-- Closes what is open at the end of a pattern, if it may be. -/
def finish (s : ReadState) : Reading Node :=
  let last := s.sequence.toNode s.cursor.place
  match s.stack with
  | [] => .ok last
  | [.alternation start branches] =>
    .ok (.alternation ⟨start, s.cursor.place⟩ (branches ++ [last]))
  | .group _ g _ :: _ => mistake .groupUnclosed g.span
  | .alternation _ _ :: .group _ g _ :: _ => mistake .groupUnclosed g.span
  | .alternation start _ :: _ => mistake .groupUnclosed (.at start)

/-- Reads parts up to the end of a pattern. -/
def readParts : Nat → ReadState → Reading Node
  | 0, s => finish s
  | n + 1, s => do
    let x := s.cursor.skipSpace
    if x.isEnd then finish { s with cursor := x }
    else readParts n (← readPart { s with cursor := x } x)

/-- How deep a tree may be. -/
def deepest : Nat := 250

/-- The tree of a pattern. -/
def read? (pattern : String) : Reading Node := do
  let x := Cursor.start pattern
  let n ← readParts (x.rest.length + 1) ⟨x, ⟨x.place, []⟩, [], []⟩
  match n.checkDepth deepest with
  | .error s => mistake (.tooDeep deepest) s
  | .ok () => return n

end Regex

end Leasehold
