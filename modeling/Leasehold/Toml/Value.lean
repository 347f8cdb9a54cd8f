import Leasehold.Decimal.Binary64

/-!
# TOML values

What a settings document holds: scalars, dates kept as their text, lists, and
tables with each name at most once.
-/

namespace Leasehold

/-- A value of a TOML document. -/
inductive Toml where
  | text (value : String)
  | integer (value : Int)
  | real (value : Binary64)
  | bool (value : Bool)
  /-- A date, a time or both, in one spelling for each. -/
  | moment (text : String)
  | list (items : List Toml)
  | table (members : List (String × Toml))
  deriving Inhabited

namespace Toml

/-- Values under names, each of which stands once. -/
abbrev Members (α : Type) := List (String × α)

namespace Members

variable {α : Type}

/-- The value under a name. -/
def get? (name : String) (ms : Members α) : Option α := (ms.find? (·.1 = name)).map (·.2)

/-- Puts a value under a name, in the place of what was there. -/
def put (name : String) (v : α) : Members α → Members α
  | [] => [(name, v)]
  | (n, w) :: rest => if n = name then (n, v) :: rest else (n, w) :: put name v rest

theorem get?_put (name other : String) (v : α) (ms : Members α) :
    get? other (put name v ms) = if name = other then some v else get? other ms := by
  induction ms with
  | nil => by_cases h : name = other <;> simp [put, get?, h]
  | cons m rest ih =>
    obtain ⟨n, w⟩ := m
    unfold put
    unfold get? at ih ⊢
    by_cases hn : n = name
    · by_cases ho : name = other <;> simp_all
    · by_cases hno : n = other
      · subst hno
        simp [hn, Ne.symm hn]
      · simp_all

end Members

end Toml

end Leasehold
