import Leasehold.Lock.Database
import Leasehold.World.Path

/-!
# Directories, files and databases

What is stored under which path.  A path is looked up component by component, so
that a file in the middle of it is told from a part that is missing; a lock
database is a file of its own kind.  `Disk.node?_put` says that what was put is
found again, and that nothing else is touched.
-/

namespace Leasehold

/-- What a path leads to. -/
inductive Node where
  | directory
  | file (text : String)
  | database (db : Database)
  deriving DecidableEq, Inhabited

/-- Why a path could not be used. -/
inductive DiskFault where
  | notFound
  | alreadyThere
  | notADirectory
  | isADirectory
  | nameTooLong
  | invalidName
  deriving DecidableEq

/-- The system's wording. -/
def DiskFault.message : DiskFault → String
  | notFound => "No such file or directory (os error 2)"
  | alreadyThere => "File exists (os error 17)"
  | notADirectory => "Not a directory (os error 20)"
  | isADirectory => "Is a directory (os error 21)"
  | nameTooLong => "File name too long (os error 36)"
  | invalidName => "file name contained an unexpected NUL byte"

/-- Everything that is stored, by the components of its path. -/
structure Disk where
  nodes : List (List String × Node)
  deriving Inhabited

namespace Disk

/-- An empty disk. -/
def empty : Disk := ⟨[]⟩

/-- What is stored under a place; the root is always there. -/
def node? (d : Disk) (place : List String) : Option Node :=
  if place = [] then some .directory else (d.nodes.find? (·.1 = place)).map (·.2)

/-- The disk with something stored under a place. -/
def put (d : Disk) (place : List String) (n : Node) : Disk :=
  ⟨(place, n) :: d.nodes.filter (·.1 ≠ place)⟩

/-- The most bytes of the name of a file or directory. -/
def longestName : Nat := 255

/-- The most bytes of a path. -/
def longestPath : Nat := 4095

/-- Walks from a directory through components to a place.  All that is walked through must be
directories; the place itself may be empty. -/
def walk (d : Disk) : List String → List String → Except DiskFault (List String)
  | here, [] => .ok here
  | here, c :: cs =>
    match d.node? here with
    | some .directory =>
      if longestName < c.utf8ByteSize then .error .nameTooLong
      else walk d (if c = ".." then here.dropLast else here ++ [c]) cs
    | some _ => .error .notADirectory
    | none => .error .notFound

/-- The place of a path. -/
def place (d : Disk) (path : String) : Except DiskFault (List String) :=
  if path.toList.contains '\x00' then .error .invalidName
  else if longestPath < path.utf8ByteSize then .error .nameTooLong
  else d.walk [] (Path.components path)

/-- What a path leads to. -/
def lookUp (d : Disk) (path : String) : Except DiskFault Node :=
  match d.place path with
  | .ok spot =>
    match d.node? spot with
    | some n => .ok n
    | none => .error .notFound
  | .error f => .error f

/-- The path leads to a directory. -/
def isDirectory (d : Disk) (path : String) : Bool :=
  match d.lookUp path with
  | .ok .directory => true
  | _ => false

/-- Makes one directory. -/
def makeDirectory (path : String) (d : Disk) : Except DiskFault Disk :=
  match d.place path with
  | .ok spot =>
    match d.node? spot with
    | some _ => .error .alreadyThere
    | none => .ok (d.put spot .directory)
  | .error f => .error f

/-- Makes a directory, and first those above it, as many as `levels`. -/
def makeAll : Nat → String → Disk → Except DiskFault Disk
  | levels, path, d =>
    if path.isEmpty then .ok d
    else
      let last (d : Disk) :=
        match d.makeDirectory path with
        | .ok d => .ok d
        | .error f => if d.isDirectory path then .ok d else .error f
      match levels, d.makeDirectory path with
      | _, .ok d => .ok d
      | levels + 1, .error .notFound =>
        match Path.parent path with
        | some above =>
          match makeAll levels above d with
          | .ok d => last d
          | .error f => .error f
        | none => .error .notFound
      | _, .error f => if d.isDirectory path then .ok d else .error f

/-- Makes a directory and all that are missing above it. -/
def makeDirectories (path : String) (d : Disk) : Except DiskFault Disk :=
  d.makeAll (Path.components path).length path

/-- What the file of a database begins with.  Nothing is kept of the bytes behind it. -/
def databaseHeader : String := "SQLite format 3\x00"

/-- Reads a file as text. -/
def readText (d : Disk) (path : String) : Except DiskFault String :=
  match d.lookUp path with
  | .ok (.file t) => .ok t
  | .ok .directory => .error .isADirectory
  | .ok (.database _) => .ok databaseHeader
  | .error f => .error f

/-- Writes a file, which replaces what was there unless it is a directory. -/
def writeText (path text : String) (d : Disk) : Except DiskFault Disk :=
  match d.place path with
  | .ok spot =>
    match d.node? spot with
    | some .directory => .error .isADirectory
    | _ => .ok (d.put spot (.file text))
  | .error f => .error f

/-- The most bytes of the name of a database, which a longer name stands beside for a while. -/
def longestDatabaseName : Nat := longestName - "-journal".utf8ByteSize

/-- The most bytes of the path of a database. -/
def longestDatabasePath : Nat := 511

/-- The place is short enough for a database. -/
def fitsDatabase (spot : List String) : Bool :=
  spot.getLast?.all (fun name => name.utf8ByteSize ≤ longestDatabaseName) &&
    spot.foldl (fun n c => n + c.utf8ByteSize + 1) 0 ≤ longestDatabasePath

/-- Opens the database of a path, which is created if nothing is there.  Slashes at the end of
the path do not count. -/
def openDatabase (path : String) (d : Disk) : Except StoreFault Disk :=
  match d.place path with
  | .ok spot =>
    if !fitsDatabase spot then .error (.cannotOpen path)
    else
      match d.node? spot with
      | some (.database _) => .ok d
      | some (.file text) =>
        if text.isEmpty then .ok (d.put spot (.database Database.empty)) else .error .notADatabase
      | some .directory => .error (.cannotOpen path)
      | none => .ok (d.put spot (.database Database.empty))
  | .error _ => .error (.cannotOpen path)

/-- The database of a path, an empty one if there is none. -/
def database (d : Disk) (path : String) : Database :=
  match d.lookUp path with
  | .ok (.database db) => db
  | _ => Database.empty

/-- The disk with another state of the database of a path. -/
def putDatabase (d : Disk) (path : String) (db : Database) : Disk :=
  match d.place path with
  | .ok spot => d.put spot (.database db)
  | .error _ => d

theorem node?_put (d : Disk) (p q : List String) (n : Node) (hq : q ≠ []) :
    (d.put p n).node? q = if p = q then some n else d.node? q := by
  unfold put node?
  by_cases h : p = q
  · subst h; simp [hq]
  · simp only [hq, h, ↓reduceIte, List.find?_cons, decide_false]
    congr 1
    rw [List.find?_filter]
    congr 1
    funext x
    by_cases hx : x.1 = q <;> simp [hx, Ne.symm h]

end Disk

end Leasehold
