/-!
# Regular expressions as they are written

The tree of a pattern: literals, classes, assertions, and their combinations,
each with the place in the pattern where it stands.  What a tree matches is said
elsewhere; it depends on the flags that are set before it.
-/

namespace Leasehold

namespace Regex

/-! ## Places -/

/-- A place between two characters of a pattern; lines and columns count from one. -/
structure Position where
  line : Nat
  column : Nat
  deriving DecidableEq, Inhabited

/-- A part of a pattern. -/
structure Span where
  start : Position
  stop : Position
  deriving DecidableEq, Inhabited

/-- The span without characters at a place. -/
def Span.at (p : Position) : Span := ⟨p, p⟩

/-! ## Flags -/

/-- What changes the meaning of the pattern behind it. -/
inductive Flag where
  /-- Letters stand for both of their cases. -/
  | ignoreCase
  /-- Lines have starts and ends of their own. -/
  | multiLine
  /-- The dot stands for a line feed, too. -/
  | dotAll
  /-- Repetitions are short unless marked. -/
  | swapGreed
  /-- Characters are those of the whole repertoire, not single bytes. -/
  | unicode
  /-- Carriage returns end lines, too. -/
  | carriageReturn
  /-- Blanks and comments do not count. -/
  | ignoreSpace
  deriving DecidableEq

/-- The flag of a letter. -/
def Flag.ofLetter? : Char → Option Flag
  | 'i' => some ignoreCase
  | 'm' => some multiLine
  | 's' => some dotAll
  | 'U' => some swapGreed
  | 'u' => some unicode
  | 'R' => some carriageReturn
  | 'x' => some ignoreSpace
  | _ => none

/-- Flags that are set and flags that are cleared. -/
structure FlagChange where
  set : List Flag
  clear : List Flag

namespace FlagChange

/-- Nothing changes. -/
def none : FlagChange := ⟨[], []⟩

/-- The state of a flag after a change. -/
def apply (f : FlagChange) (flag : Flag) (before : Bool) : Bool :=
  if f.clear.contains flag then false else if f.set.contains flag then true else before

end FlagChange

/-! ## Classes -/

/-- A character of a pattern.  In two hexadecimal digits it can stand for a byte. -/
structure Literal where
  span : Span
  char : Char
  isByte : Bool
  deriving Inhabited

/-- The classes with a letter. -/
inductive LetterClass where
  | digit
  | space
  | word
  deriving DecidableEq

/-- The named classes of ASCII characters. -/
inductive NamedClass where
  | alnum | alpha | ascii | blank | cntrl | digit | graph
  | lower | print | punct | space | upper | word | xdigit
  deriving DecidableEq

/-- The class of a name. -/
def NamedClass.ofName? : String → Option NamedClass
  | "alnum" => some alnum
  | "alpha" => some alpha
  | "ascii" => some ascii
  | "blank" => some blank
  | "cntrl" => some cntrl
  | "digit" => some digit
  | "graph" => some graph
  | "lower" => some lower
  | "print" => some print
  | "punct" => some punct
  | "space" => some space
  | "upper" => some upper
  | "word" => some word
  | "xdigit" => some xdigit
  | _ => none

/-- How two classes are combined. -/
inductive SetOperation where
  | intersection
  | difference
  | symmetricDifference
  deriving DecidableEq

/-- What stands between brackets. -/
inductive ClassSet where
  | empty (span : Span)
  | literal (l : Literal)
  | range (span : Span) (low high : Literal)
  | named (span : Span) (kind : NamedClass) (negated : Bool)
  | property (span : Span) (name : String)
  | letter (span : Span) (kind : LetterClass) (negated : Bool)
  | bracketed (span : Span) (negated : Bool) (set : ClassSet)
  | union (span : Span) (items : List ClassSet)
  | operation (span : Span) (op : SetOperation) (left right : ClassSet)
  deriving Inhabited

/-- The place of a class. -/
def ClassSet.span : ClassSet → Span
  | empty s => s
  | literal l => l.span
  | range s _ _ => s
  | named s _ _ => s
  | property s _ => s
  | letter s _ _ => s
  | bracketed s _ _ => s
  | union s _ => s
  | operation s _ _ _ => s

/-! ## Trees -/

/-- What must hold at a place without taking up characters. -/
inductive Assertion where
  | startLine
  | endLine
  | startText
  | endText
  | wordBoundary
  | notWordBoundary
  | wordStart
  | wordEnd
  | wordStartHalf
  | wordEndHalf
  deriving DecidableEq

/-- The tree of a pattern. -/
inductive Node where
  | empty (span : Span)
  | flags (span : Span) (change : FlagChange)
  | literal (l : Literal)
  | dot (span : Span)
  | assertion (span : Span) (kind : Assertion)
  | property (span : Span) (name : String)
  | letter (span : Span) (kind : LetterClass) (negated : Bool)
  | bracketed (span : Span) (negated : Bool) (set : ClassSet)
  | repetition (span : Span) (least : Nat) (most : Option Nat) (body : Node)
  | group (span : Span) (change : FlagChange) (captures : Bool) (body : Node)
  | alternation (span : Span) (branches : List Node)
  | concat (span : Span) (parts : List Node)
  deriving Inhabited

/-- The place of a tree. -/
def Node.span : Node → Span
  | empty s => s
  | flags s _ => s
  | literal l => l.span
  | dot s => s
  | assertion s _ => s
  | property s _ => s
  | letter s _ _ => s
  | bracketed s _ _ => s
  | repetition s _ _ _ => s
  | group s _ _ _ => s
  | alternation s _ => s
  | concat s _ => s

/-! ## Depth -/

mutual

/-- Checks that classes are nested at most `n` times; gives the first place that is not. -/
def ClassSet.checkDepth : Nat → ClassSet → Except Span Unit
  | n, .bracketed s _ set =>
    match n with
    | 0 => .error s
    | n + 1 => set.checkDepth n
  | n, .union s items =>
    match n with
    | 0 => .error s
    | n + 1 => ClassSet.checkDepths n items
  | n, .operation s _ left right =>
    match n with
    | 0 => .error s
    | n + 1 => do
      left.checkDepth n
      right.checkDepth n
  | _, .empty _ => .ok ()
  | _, .literal _ => .ok ()
  | _, .range _ _ _ => .ok ()
  | _, .named _ _ _ => .ok ()
  | _, .property _ _ => .ok ()
  | _, .letter _ _ _ => .ok ()

/-- Checks all items of a class. -/
def ClassSet.checkDepths : Nat → List ClassSet → Except Span Unit
  | _, [] => .ok ()
  | n, x :: xs => do
    x.checkDepth n
    ClassSet.checkDepths n xs

end

mutual

/-- Checks that a tree is at most `n` levels deep; gives the first place that is not. -/
def Node.checkDepth : Nat → Node → Except Span Unit
  | n, .bracketed s _ set =>
    match n with
    | 0 => .error s
    | n + 1 => set.checkDepth n
  | n, .repetition s _ _ body =>
    match n with
    | 0 => .error s
    | n + 1 => body.checkDepth n
  | n, .group s _ _ body =>
    match n with
    | 0 => .error s
    | n + 1 => body.checkDepth n
  | n, .alternation s branches =>
    match n with
    | 0 => .error s
    | n + 1 => Node.checkDepths n branches
  | n, .concat s parts =>
    match n with
    | 0 => .error s
    | n + 1 => Node.checkDepths n parts
  | _, .empty _ => .ok ()
  | _, .flags _ _ => .ok ()
  | _, .literal _ => .ok ()
  | _, .dot _ => .ok ()
  | _, .assertion _ _ => .ok ()
  | _, .property _ _ => .ok ()
  | _, .letter _ _ _ => .ok ()

/-- Checks all trees of a list. -/
def Node.checkDepths : Nat → List Node → Except Span Unit
  | _, [] => .ok ()
  | n, x :: xs => do
    x.checkDepth n
    Node.checkDepths n xs

end

end Regex

end Leasehold
