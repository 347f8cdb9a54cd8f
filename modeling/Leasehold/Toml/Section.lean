import Leasehold.Toml.Value

/-!
# The tree under construction

A document is read statement by statement into a tree of sections.  A section
remembers what made it, since that decides what may still be added: a header
opens a section that was only implied so far, but no other; a dotted key goes on
with sections that have no header of their own.  `Section.edit` is the walk from a
section along a path, and `Section.insert` and `Section.openHeader` are what is
done at its end.
-/

namespace Leasehold

namespace Toml

/-- What made a section. -/
inductive SectionKind where
  /-- A longer header that passes through it. -/
  | implied
  /-- A header of its own. -/
  | header
  /-- A dotted key. -/
  | dotted
  deriving DecidableEq

/-- A part of a document that is not yet complete. -/
inductive Item where
  | value (v : Toml)
  | table (kind : SectionKind) (members : List (String × Item))
  /-- The sections of one repeated header. -/
  | tables (sections : List (List (String × Item)))
  deriving Inhabited

mutual

/-- The finished value of an item. -/
def Item.finish : Item → Toml
  | .value v => v
  | .table _ ms => .table (finishMembers ms)
  | .tables l => .list (finishTables l)

/-- The finished members of a section. -/
def Item.finishMembers : List (String × Item) → List (String × Toml)
  | [] => []
  | (n, i) :: rest => (n, i.finish) :: finishMembers rest

/-- The finished sections of a repeated header. -/
def Item.finishTables : List (List (String × Item)) → List Toml
  | [] => []
  | ms :: rest => .table (finishMembers ms) :: finishTables rest

end

/-- A section with what made it. -/
structure Section where
  kind : SectionKind
  members : Members Item

namespace Section

/-- The section of a whole document before its first statement. -/
def empty : Section := ⟨.header, []⟩

/-- Changes the section at the end of a path, by dotted keys or by headers.  Missing sections
are made on the way; of a repeated header the last section counts. -/
def edit (dotted : Bool) (change : Section → Option Section) :
    List String → Section → Option Section
  | [], s => change s
  | name :: path, s =>
    let back (i : Item) : Section := ⟨s.kind, s.members.put name i⟩
    match s.members.get? name with
    | none =>
      (edit dotted change path ⟨if dotted then .dotted else .implied, []⟩).map fun t =>
        back (.table t.kind t.members)
    | some (.value _) => none
    | some (.table kind ms) =>
      if dotted && kind = .header then none
      else (edit dotted change path ⟨kind, ms⟩).map fun t => back (.table t.kind t.members)
    | some (.tables l) =>
      match l.getLast? with
      | some ms =>
        (edit dotted change path ⟨.header, ms⟩).map fun t =>
          back (.tables (l.dropLast ++ [t.members]))
      | none => none

/-- Puts a value under a key whose last part is `name` and whose other parts led here.  A section
with a header of its own takes no dotted key, and a name is given once. -/
def insertHere (direct : Bool) (name : String) (v : Toml) (s : Section) : Option Section :=
  if !direct && s.kind = .header then none
  else if (s.members.get? name).isSome then none
  else some ⟨s.kind, s.members ++ [(name, .value v)]⟩

/-- Puts a value under a dotted key. -/
def insert (path : List String) (name : String) (v : Toml) (s : Section) : Option Section :=
  edit true (insertHere path.isEmpty name v) path s

/-- Opens a section for a header: a new one, or one that was only implied. -/
def openHere (name : String) (s : Section) : Option Section :=
  match s.members.get? name with
  | none => some ⟨s.kind, s.members ++ [(name, .table .header [])]⟩
  | some (.table .implied ms) => some ⟨s.kind, s.members.put name (.table .header ms)⟩
  | some _ => none

/-- Opens one more section for a repeated header. -/
def repeatHere (name : String) (s : Section) : Option Section :=
  match s.members.get? name with
  | none => some ⟨s.kind, s.members ++ [(name, .tables [[]])]⟩
  | some (.tables l) => some ⟨s.kind, s.members.put name (.tables (l ++ [[]]))⟩
  | some _ => none

/-- Opens the section of a header. -/
def openHeader (repeated : Bool) (path : List String) (name : String) (s : Section) :
    Option Section :=
  edit false (if repeated then repeatHere name else openHere name) path s

/-- The finished members. -/
def finish (s : Section) : Members Toml := Item.finishMembers s.members

end Section

end Toml

end Leasehold
