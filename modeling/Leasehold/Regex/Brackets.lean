import Leasehold.Regex.Escape

/-!
# Classes between brackets

A class lists characters, ranges and other classes, and may combine what it
lists by set operations, which are carried out from the left.  Brackets nest; a
bracket and a colon begin a named class if they end one, too.
-/

namespace Leasehold

namespace Regex

/-- The items of a class read so far. -/
structure Items where
  span : Span
  sets : List ClassSet

namespace Items

/-- No items yet. -/
def none (p : Position) : Items := ⟨.at p, []⟩

/-- One more item. -/
def push (s : ClassSet) (i : Items) : Items :=
  ⟨⟨if i.sets.isEmpty then s.span.start else i.span.start, s.span.stop⟩, i.sets ++ [s]⟩

/-- All items as one class. -/
def toSet (i : Items) : ClassSet :=
  match i.sets with
  | [] => .empty i.span
  | [s] => s
  | sets => .union i.span sets

end Items

/-- What a class waits for. -/
inductive ClassFrame where
  /-- The closing bracket of a class among other items. -/
  | opened (outer : Items) (span : Span) (negated : Bool)
  /-- The right side of an operation. -/
  | operation (op : SetOperation) (left : ClassSet)

/-- The class with the operation that waits for it carried out. -/
def closeOperation (right : ClassSet) : List ClassFrame → ClassSet × List ClassFrame
  | .operation op left :: frames =>
    (.operation ⟨left.span.start, right.span.stop⟩ op left right, frames)
  | frames => (right, frames)

/-- The mistake of a class that does not end. -/
def classUnclosed {α : Type} : List ClassFrame → Cursor → Reading α
  | .opened _ span _ :: _, _ => mistake .classUnclosed span
  | .operation _ _ :: frames, x => classUnclosed frames x
  | [], x => mistake .classUnclosed (.at x.place)

/-- Reads hyphens at the start of a class, which stand for themselves. -/
def hyphens (start : Position) : Nat → Items → Cursor → Reading (Items × Cursor)
  | 0, i, x => .ok (i, x)
  | n + 1, i, x =>
    if x.sees '-' then
      let y := x.next
      if y.isEnd then mistake .classUnclosed (.at start)
      else hyphens start n (i.push (.literal ⟨x.charSpan, '-', false⟩)) y
    else .ok (i, x)

/-- Opens a class at its bracket. -/
def openClass (outer : Items) (x : Cursor) : Reading (ClassFrame × Items × Cursor) := do
  let start := x.place
  let unclosed (y : Cursor) : Reading Unit :=
    if y.isEnd then mistake .classUnclosed (y.spanFrom start) else .ok ()
  let y := x.next
  unclosed y
  let negated := y.sees '^'
  let y := if negated then y.next else y
  unclosed y
  let (items, y) ← hyphens start y.rest.length (.none y.place) y
  let first := items.sets.isEmpty && y.sees ']'
  let items := if first then items.push (.literal ⟨y.charSpan, ']', false⟩) else items
  let y := if first then y.next else y
  unclosed y
  return (.opened outer (y.spanFrom start) negated, items, y)

/-- Reads a named class, if there is one. -/
def namedClass? (x : Cursor) : Option (ClassSet × Cursor) := do
  let y ← x.bumpIf? "[:"
  let negated := y.sees '^'
  let y := if negated then y.bump else y
  let (name, y) := y.takeWhile (· ≠ ':')
  let y ← y.bumpIf? ":]"
  let kind ← NamedClass.ofName? (String.ofList name)
  return (.named (y.spanFrom x.place) kind negated, y)

/-- Reads an item or a range. -/
def rangeOrItem (frames : List ClassFrame) (x : Cursor) : Reading (ClassSet × Cursor) := do
  let (a, y) ← bracketAtom x
  let y := y.skipSpace
  if y.isEnd then classUnclosed frames y
  else if !y.sees '-' || y.peekSpaced = some ']' || y.peekSpaced = some '-' then
    return (← a.toClassSet?, y)
  else
    let y := y.next
    if y.isEnd then classUnclosed frames y
    else
      let (b, y) ← bracketAtom y
      let span : Span := ⟨a.span.start, b.span.stop⟩
      let low ← a.toLiteral?
      let high ← b.toLiteral?
      if low.char ≤ high.char then return (.range span low high, y)
      else mistake .classRange span

/-- The operation whose mark stands here. -/
def operation? (x : Cursor) : Option (SetOperation × Cursor) :=
  let mark (text : String) (op : SetOperation) := (x.bumpIf? text).map fun y => (op, y)
  (mark "&&" .intersection).or ((mark "--" .difference).or (mark "~~" .symmetricDifference))

/-- Reads the items of classes up to the bracket that closes the first one. -/
def classItems : Nat → List ClassFrame → Items → Cursor → Reading (Node × Cursor)
  | 0, frames, _, x => classUnclosed frames x
  | n + 1, frames, items, x =>
    let x := x.skipSpace
    match x.char? with
    | none => classUnclosed frames x
    | some '[' =>
      match namedClass? x with
      | some (s, y) => classItems n frames (items.push s) y
      | none => do
        let (frame, inner, y) ← openClass items x
        classItems n (frame :: frames) inner y
    | some ']' =>
      let y := x.bump
      match closeOperation items.toSet frames with
      | (set, .opened outer span negated :: frames) =>
        let span := y.spanFrom span.start
        if frames.isEmpty then .ok (.bracketed span negated set, y)
        else classItems n frames (outer.push (.bracketed span negated set)) y
      | _ => mistake .classUnclosed (.at x.place)
    | some _ =>
      match operation? x with
      | some (op, y) =>
        let (left, frames) := closeOperation items.toSet frames
        classItems n (.operation op left :: frames) (.none y.place) y
      | none => do
        let (s, y) ← rangeOrItem frames x
        classItems n frames (items.push s) y

/-- Reads a class at its bracket. -/
def bracketClass (x : Cursor) : Reading (Node × Cursor) := do
  let (frame, items, y) ← openClass (.none x.place) x
  classItems (y.rest.length + 1) [frame] items y

end Regex

end Leasehold
