import Leasehold.Text.Lines

/-!
# File paths

Paths are texts with slashes.  `Path.join` puts a relative path below another
one, `Path.parent` takes the last component off, and `Path.components` lists what
a look-up walks through, without empty parts and dots.
-/

namespace Leasehold

namespace Path

/-- The path starts at the root. -/
def isAbsolute (p : String) : Bool := p.toList.head? = some '/'

/-- A path below another one; an absolute path stands for itself. -/
def join (base p : String) : String :=
  if isAbsolute p || base.isEmpty then p
  else if base.toList.getLast? = some '/' then base ++ p
  else base ++ "/" ++ p

/-- The parts that a look-up walks through. -/
def components (p : String) : List String :=
  ((Text.splitAt '/' p.toList).map String.ofList).filter fun c => c ≠ "" && c ≠ "."

/-- Drops slashes and dots that stand for nothing from a reversed path. -/
def dropTrailing : List Char → List Char
  | '/' :: cs => dropTrailing cs
  | '.' :: '/' :: cs => dropTrailing cs
  | cs => cs

/-- The path without its last component; none of a path without components. -/
def parent (p : String) : Option String :=
  let reversed := dropTrailing p.toList.reverse
  if reversed.isEmpty || reversed = ['.'] then none
  else
    let rest := dropTrailing (reversed.dropWhile (· ≠ '/'))
    some (if rest.isEmpty && isAbsolute p then "/" else String.ofList rest.reverse)

example : join "x/" "y" = "x/y" ∧ join "x" "" = "x/" := by decide +kernel
example : parent "/a/b/" = some "/a" ∧ parent "/a" = some "/" ∧ parent "a" = some "" := by
  decide +kernel

end Path

end Leasehold
