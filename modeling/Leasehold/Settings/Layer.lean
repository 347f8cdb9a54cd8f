import Leasehold.Decimal.Reader
import Leasehold.Text.Letters
import Leasehold.Toml.Value

/-!
# Layers of settings

Settings come from a file and from variables, one layer over the other.  A layer
is a sequence of assignments, each to a path into a tree.  Assigning a table goes
on member by member, so that what only a lower layer says stays; everything else
replaces what was there (`Setting.assign`).
-/

namespace Leasehold

/-- A value of any layer. -/
inductive Setting where
  /-- Nothing: the filling of lists up to an index that is assigned. -/
  | absent
  | text (value : String)
  | integer (value : Int)
  | real (value : Binary64)
  | bool (value : Bool)
  | list (items : List Setting)
  | table (members : List (String × Setting))
  deriving Inhabited

/-- A step into a tree. -/
inductive PathStep where
  | name (name : String)
  /-- An index; a negative one counts from the end. -/
  | index (i : Int)
  deriving DecidableEq

/-- A path into a tree. -/
structure SettingPath where
  root : String
  steps : List PathStep
  deriving DecidableEq

namespace SettingPath

/-- A character of a name in a path. -/
def isNameChar (c : Char) : Bool := c.isAlphanum || c = '_' || c = '-'

/-- Digits behind an optional minus sign. -/
def number? : List Char → Option Int
  | '-' :: cs => (Text.Digits.value? cs).map fun n => -(n : Int)
  | cs => (Text.Digits.value? cs).map Int.ofNat

/-- A text without the blanks in front of it. -/
def dropBlanks (cs : List Char) : List Char := cs.dropWhile fun c => c = ' ' || c = '\t'

/-- An index, which blanks may surround. -/
def index? (cs : List Char) : Option Int :=
  number? (dropBlanks (dropBlanks cs).reverse).reverse

/-- The steps of a path: names behind points and indices in brackets.  The first argument
bounds their number. -/
def steps? : Nat → List Char → Option (List PathStep)
  | _, [] => some []
  | n + 1, '.' :: cs =>
    let name := cs.takeWhile isNameChar
    if name.isEmpty then none
    else (steps? n (cs.dropWhile isNameChar)).map (.name (String.ofList name) :: ·)
  | n + 1, '[' :: cs =>
    match cs.dropWhile (· ≠ ']') with
    | ']' :: rest => do
      let i ← index? (cs.takeWhile (· ≠ ']'))
      if Text.Digits.signedMin ≤ i ∧ i ≤ Text.Digits.signedMax then
        (steps? n rest).map (.index i :: ·)
      else none
    | _ => none
  | _, _ => none

/-- The path of a text; a text that is no path is one name. -/
def ofText (s : String) : SettingPath :=
  let cs := s.toList
  let root := cs.takeWhile isNameChar
  if root.isEmpty then ⟨s, []⟩
  else
    match steps? cs.length (cs.dropWhile isNameChar) with
    | some steps => ⟨String.ofList root, steps⟩
    | none => ⟨s, []⟩

end SettingPath

namespace Setting

/-- The members of a table; nothing else has any. -/
def members : Setting → Toml.Members Setting
  | table ms => ms
  | _ => []

/-- The items of a list; nothing else has any. -/
def items : Setting → List Setting
  | list l => l
  | _ => []

/-- A list with an item changed.  It is filled up to an index behind its end, and pushed back
by an index before its start. -/
def changeItem (i : Int) (change : Setting → Setting) (l : List Setting) : List Setting :=
  if 0 ≤ i then
    let n := i.toNat
    let l := l ++ List.replicate (n + 1 - l.length) absent
    l.modify n change
  else if i.natAbs ≤ l.length then l.modify (l.length - i.natAbs) change
  else (List.replicate (i.natAbs - l.length) absent ++ l).modify 0 change

/-- Changes what a path leads to.  On the way everything that is no table or no list, as the
path demands, gives way to one. -/
def change (f : Setting → Setting) : List PathStep → Setting → Setting
  | [], s => f s
  | .name n :: steps, s =>
    .table (s.members.put n (change f steps ((s.members.get? n).getD .absent)))
  | .index i :: steps, s => .list (changeItem i (change f steps) s.items)

mutual

/-- What is left of a value when another one is assigned to its place. -/
def assign : Setting → Setting → Setting
  | .table ms, old => .table (assignAll ms old.members)
  | .absent, _ => .absent
  | .text t, _ => .text t
  | .integer n, _ => .integer n
  | .real x, _ => .real x
  | .bool b, _ => .bool b
  | .list l, _ => .list l

/-- Assigns members one after another. -/
def assignAll : List (String × Setting) → Toml.Members Setting → Toml.Members Setting
  | [], old => old
  | (n, v) :: rest, old => assignAll rest (old.put n (assign v ((old.get? n).getD .absent)))

end

/-- Assigns a value to the path that a text means. -/
def assignAt (name : String) (v : Setting) (tree : Setting) : Setting :=
  let path := SettingPath.ofText name
  change (assign v) (.name path.root :: path.steps) tree

/-- The tree of assignments, carried out one after another. -/
def ofLayers (assignments : List (String × Setting)) : Setting :=
  assignments.foldl (fun tree a => assignAt a.1 a.2 tree) (.table [])

mutual

/-- The setting that a document gives. -/
def ofToml : Toml → Setting
  | .text t => .text t
  | .integer n => .integer n
  | .real x => .real x
  | .bool b => .bool b
  | .moment t => .text t
  | .list l => .list (ofTomlItems l)
  | .table ms => .table (ofTomlMembers ms)

/-- The settings of a list. -/
def ofTomlItems : List Toml → List Setting
  | [] => []
  | v :: rest => ofToml v :: ofTomlItems rest

/-- The settings of a table. -/
def ofTomlMembers : List (String × Toml) → List (String × Setting)
  | [] => []
  | (n, v) :: rest => (n, ofToml v) :: ofTomlMembers rest

end

/-- The setting that the text of a variable gives: a truth value, a number, or the text. -/
def ofVariable (s : String) : Setting :=
  let word := Text.lowerString s
  if word = "true" then .bool true
  else if word = "false" then .bool false
  else
    match Text.Digits.signed? s with
    | some n => .integer n
    | none =>
      match Decimal.read? s with
      | some x => .real x
      | none => .text s

/-- The names of variables that are settings begin with this, in any case. -/
def variableMark : List Char := "distlock_".toList

/-- A text with a point for each pair of underscores. -/
def pointed : List Char → List Char
  | '_' :: '_' :: cs => '.' :: pointed cs
  | c :: cs => c :: pointed cs
  | [] => []

/-- The path that the name of a variable means, if it is a setting. -/
def variablePath? (name : String) : Option String :=
  let cs := (Text.lowerString name).toList
  if variableMark.isPrefixOf cs then some (String.ofList (pointed (cs.drop variableMark.length)))
  else none

/-- The assignments of an environment. -/
def ofEnvironment (environment : List (String × String)) : List (String × Setting) :=
  environment.filterMap fun (n, v) => (variablePath? n).map fun path => (path, ofVariable v)

example : SettingPath.ofText "a[-1].b" = ⟨"a", [.index (-1), .name "b"]⟩ := by decide +kernel
example : SettingPath.ofText "a." = ⟨"a.", []⟩ := by decide +kernel
example : variablePath? "DistLock_Locking__Host" = some "locking.host" := by decide +kernel

end Setting

end Leasehold
