import Leasehold.Log

/-!
# Programs as functions of a state

What a program gives at a state, for each of the ways in which programs are put
together.  With these equations a program is opened step by step, from the first on.
-/

namespace Leasehold

namespace Program

variable {σ α β : Type}

theorem bind_at (x : StateM σ α) (f : α → StateM σ β) (s : σ) : (x >>= f) s = f (x s).1 (x s).2 :=
  rfl

theorem pure_at (a : α) (s : σ) : (pure a : StateM σ α) s = (a, s) := rfl

theorem map_at (f : α → β) (x : StateM σ α) (s : σ) : (f <$> x) s = (f (x s).1, (x s).2) := rfl

theorem get_at (s : σ) : (get : StateM σ σ) s = (s, s) := rfl

theorem modify_at (f : σ → σ) (s : σ) : (modify f : StateM σ PUnit) s = (⟨⟩, f s) := rfl

end Program

end Leasehold
