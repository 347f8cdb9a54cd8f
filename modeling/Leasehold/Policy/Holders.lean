import Leasehold.Policy.Feature

/-!
# The manager's own policy

Who holds what among the callers of one process, where no feature decides.  A
resource that is held by anybody cannot be locked again, by its owner neither;
anybody may unlock it.  `holder?_insert` and `holder?_erase` say what the two
changes do to the view `holder?`, and nothing else is asked of it by
`Holders.decide`.
-/

namespace Leasehold

/-- Resources with the owners that hold them. -/
structure Holders where
  pairs : List (String × String)
  deriving DecidableEq, Inhabited

namespace Holders

/-- Nobody holds anything. -/
def empty : Holders := ⟨[]⟩

/-- Who holds a resource. -/
def holder? (h : Holders) (resource : String) : Option String :=
  (h.pairs.find? (·.1 = resource)).map (·.2)

/-- The resource goes to an owner. -/
def insert (resource owner : String) (h : Holders) : Holders := ⟨(resource, owner) :: h.pairs⟩

/-- Nobody holds the resource any more. -/
def erase (resource : String) (h : Holders) : Holders := ⟨h.pairs.filter (·.1 ≠ resource)⟩

/-- The owner holds the resource. -/
def isHeldBy (h : Holders) (resource owner : String) : Bool := h.holder? resource = some owner

/-- The answer to a request and who holds what after it. -/
def decide (h : Holders) : Query → Bool × Holders
  | .lock r o _ => if (h.holder? r).isSome then (false, h) else (true, h.insert r o)
  | .refresh r o _ => (h.isHeldBy r o, h)
  | .unlock r _ => ((h.holder? r).isSome, h.erase r)
  | .isLocked r => ((h.holder? r).isSome, h)
  | .isLockedBy r o => (h.isHeldBy r o, h)

@[simp] theorem holder?_empty (r : String) : empty.holder? r = none := rfl

theorem holder?_insert (h : Holders) (r o s : String) :
    (h.insert r o).holder? s = if r = s then some o else h.holder? s := by
  unfold insert holder?
  by_cases hrs : r = s <;> simp [hrs]

theorem holder?_erase (h : Holders) (r s : String) :
    (h.erase r).holder? s = if r = s then none else h.holder? s := by
  unfold erase holder?
  by_cases hrs : r = s
  · subst hrs; simp
  · simp only [hrs, ↓reduceIte, List.find?_filter]
    congr 1
    congr 1
    funext p
    by_cases hp : p.1 = s <;> simp [hp, Ne.symm hrs]

end Holders

end Leasehold
