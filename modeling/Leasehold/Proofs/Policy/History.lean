import Leasehold.Proofs.Policy.Dispatch

/-!
# Who holds what, by the history of requests

A manager is asked one request after another, and its features may decide any of them.
Those that are left to its own policy are told apart by `Request.isOwn`, and what they did
to a resource by `Request.change?`: a lock that was granted makes its owner the holder, an
unlock that was granted leaves nobody.  The holder by the history (`holderAfter`) is what
the latest of these changes says; no map is looked at for it.

`Request.holder?_next` is the step: one request changes the holders as its change says.  So
the manager and the history agree on every holder all through a run (`holder?_at`), and the
answers of the policy are those that the history calls for (`Query.answerFor`).
-/

namespace Leasehold

/-- The answer that is due to a request about a resource with this holder. -/
def Query.answerFor (holder : Option String) : Query → Bool
  | .lock _ _ _ => holder.isNone
  | .refresh _ owner _ | .isLockedBy _ owner => holder = some owner
  | .unlock _ _ | .isLocked _ => holder.isSome

namespace Holders

variable {h : Holders} {q : Query}

theorem decide_fst (h : Holders) (q : Query) :
    (h.decide q).1 = q.answerFor (h.holder? q.resource) := by
  cases q with
  | lock r o hold =>
    simp only [decide, Query.answerFor, Query.resource]
    cases h.holder? r <;> rfl
  | refresh | unlock | isLocked | isLockedBy => rfl

theorem erase_of_not_held {r : String} (free : h.holder? r = none) : h.erase r = h := by
  have others : ∀ p ∈ h.pairs, p.1 ≠ r := by simpa [holder?] using free
  have all : h.pairs.filter (·.1 ≠ r) = h.pairs := by
    refine List.filter_eq_self.mpr fun p hp => ?_
    simp [others p hp]
  simp only [erase, all]

/-- A request that the policy refuses changes nothing. -/
theorem decide_snd_of_refused (refused : (h.decide q).1 = false) : (h.decide q).2 = h := by
  cases q with
  | lock r o hold =>
    simp only [decide] at refused ⊢
    split at refused
    · simp_all
    · cases refused
  | unlock r o =>
    have free : (h.holder? r).isSome = false := refused
    exact erase_of_not_held (by simpa using free)
  | refresh | isLocked | isLockedBy => rfl

end Holders

namespace Manager

variable {ε : Type} [Journal ε]

/-- A request as it is put to a manager. -/
structure Request (ε : Type) where
  manager : Manager ε
  query : Query

namespace Request

variable {r : Request ε} {resource : String}

/-- The answer to the request. -/
def answer (r : Request ε) : Except Fault Bool := (r.manager.ask r.query).1

/-- The manager after the request. -/
def next (r : Request ε) : Manager ε := (r.manager.ask r.query).2

/-- The request is allowed, and every feature leaves it to the manager's own policy. -/
def isOwn (r : Request ε) : Bool :=
  r.query.fault?.isNone && (offer r.query r.manager.features r.manager.outer).1.isNone

/-- The manager's own policy grants the request. -/
def isGranted (r : Request ε) : Bool := r.isOwn && r.answer.toOption = some true

/-- What the request makes of the holder of a resource, if it is a lock or an unlock of it that
the manager's own policy grants. -/
def change? (resource : String) (r : Request ε) : Option (Option String) :=
  if r.isGranted then
    match r.query with
    | .lock s owner _ => if s = resource then some (some owner) else none
    | .unlock s _ => if s = resource then some none else none
    | .refresh _ _ _ | .isLocked _ | .isLockedBy _ _ => none
  else none

/-- A request that is refused for its arguments or decided by a feature changes no holder. -/
theorem holders_next_of_not_own (other : r.isOwn = false) :
    r.next.holders = r.manager.holders := by
  cases hf : r.query.fault? with
  | some f => simp only [next, ask, hf]; rfl
  | none =>
    cases ho : (offer r.query r.manager.features r.manager.outer).1 with
    | some decision => simp only [next, ask_eq r.manager hf, ho]
    | none => simp [isOwn, hf, ho] at other

/-- A request that is left to the manager's own policy is decided by it. -/
theorem own_spec (own : r.isOwn = true) :
    r.answer = .ok (r.manager.holders.decide r.query).1 ∧
      r.next.holders = (r.manager.holders.decide r.query).2 := by
  simp only [isOwn, Bool.and_eq_true, Option.isNone_iff_eq_none] at own
  obtain ⟨accepted, undecided⟩ := own
  simp only [answer, next, ask_eq r.manager accepted, undecided, decideAlone_eq, and_self]

theorem answer_of_own (own : r.isOwn = true) :
    r.answer = .ok (r.query.answerFor (r.manager.holders.holder? r.query.resource)) := by
  rw [(own_spec own).1, Holders.decide_fst]

/-- Whatever the manager's own policy does not grant changes no holder. -/
theorem holders_next_of_not_granted (refused : r.isGranted = false) :
    r.next.holders = r.manager.holders := by
  cases own : r.isOwn with
  | false => exact holders_next_of_not_own own
  | true =>
    obtain ⟨answered, after⟩ := own_spec own
    rw [after]
    refine Holders.decide_snd_of_refused ?_
    simpa [isGranted, own, answered, Except.toOption] using refused

/-- A request changes the holder of a resource as its change says. -/
theorem holder?_next (r : Request ε) (resource : String) :
    r.next.holders.holder? resource =
      (r.change? resource).getD (r.manager.holders.holder? resource) := by
  cases granted : r.isGranted with
  | false => simp [change?, granted, holders_next_of_not_granted granted]
  | true =>
    have own : r.isOwn = true := by
      simp only [isGranted, Bool.and_eq_true] at granted
      exact granted.1
    obtain ⟨answered, after⟩ := own_spec own
    have yes : (r.manager.holders.decide r.query).1 = true := by
      simpa [isGranted, own, answered, Except.toOption] using granted
    rw [after]
    simp only [change?, granted, if_true]
    cases hq : r.query with
    | lock s owner hold =>
      rw [hq] at yes
      simp only [Holders.decide] at yes ⊢
      split at yes
      · cases yes
      · rename_i free
        rw [if_neg free, Holders.holder?_insert]
        split <;> rfl
    | unlock s owner =>
      simp only [Holders.decide, Holders.holder?_erase]
      split <;> rfl
    | refresh | isLocked | isLockedBy => rfl

theorem lock_of_change {owner : String} (lock : r.change? resource = some (some owner)) :
    r.isGranted = true ∧ ∃ hold, r.query = .lock resource owner hold := by
  cases granted : r.isGranted with
  | false => simp [change?, granted] at lock
  | true =>
    simp only [change?, granted, if_true] at lock
    refine ⟨rfl, ?_⟩
    cases hq : r.query with
    | lock s o hold =>
      simp only [hq, Option.ite_none_right_eq_some, Option.some.injEq] at lock
      obtain ⟨rfl, rfl⟩ := lock
      exact ⟨hold, rfl⟩
    | unlock s o => simp [hq] at lock
    | refresh | isLocked | isLockedBy => simp [hq] at lock

end Request

/-! ## Runs -/

/-- The requests of a run, each with the manager as it finds it. -/
def history (m : Manager ε) : List Query → List (Request ε)
  | [] => []
  | q :: rest => ⟨m, q⟩ :: history (Request.next ⟨m, q⟩) rest

/-- The holder of a resource by the requests so far: as the latest change of it says, and as at
first if there was none. -/
def holderAfter (first : Option String) (resource : String) (earlier : List (Request ε)) :
    Option String :=
  (earlier.filterMap (Request.change? resource)).getLast?.getD first

variable {m : Manager ε} {queries : List Query} {pre mid post : List (Request ε)} {r : Request ε}
  {resource : String}

theorem holderAfter_cons (first : Option String) (resource : String) (r : Request ε)
    (rest : List (Request ε)) :
    holderAfter first resource (r :: rest) =
      holderAfter ((r.change? resource).getD first) resource rest := by
  unfold holderAfter
  cases h : r.change? resource with
  | none => rw [List.filterMap_cons_none h]; rfl
  | some holder => rw [List.filterMap_cons_some h, List.getLast?_cons]; rfl

theorem holderAfter_concat (first : Option String) (resource : String) (earlier : List (Request ε))
    (r : Request ε) :
    holderAfter first resource (earlier ++ [r]) =
      (r.change? resource).getD (holderAfter first resource earlier) := by
  unfold holderAfter
  cases h : r.change? resource <;> simp [List.filterMap_append, h]

/-- A resource that had a holder and has none any more was unlocked. -/
theorem exists_unlock (first : Option String) (held : first.isSome)
    (free : holderAfter first resource mid = none) :
    ∃ r ∈ mid, r.change? resource = some none := by
  unfold holderAfter at free
  cases hlast : (mid.filterMap (Request.change? resource)).getLast? with
  | none => simp_all
  | some holder =>
    rw [hlast, Option.getD_some] at free
    obtain ⟨r, hr, hchange⟩ := List.mem_filterMap.mp (List.mem_of_getLast? hlast)
    exact ⟨r, hr, free ▸ hchange⟩

/-- All through a run the manager and the history agree on the holder of a resource. -/
theorem holder?_at (split : m.history queries = pre ++ r :: post) (resource : String) :
    r.manager.holders.holder? resource =
      holderAfter (m.holders.holder? resource) resource pre := by
  induction pre generalizing m queries with
  | nil =>
    cases queries with
    | nil => cases split
    | cons q rest => cases split; rfl
  | cons a pre ih =>
    cases queries with
    | nil => cases split
    | cons q rest =>
      rw [history, List.cons_append, List.cons.injEq] at split
      obtain ⟨rfl, later⟩ := split
      rw [ih later, Request.holder?_next, holderAfter_cons]

/-- What follows a request in a run is the run of the manager after it. -/
theorem exists_history (split : m.history queries = pre ++ r :: post) :
    ∃ rest, r.next.history rest = post := by
  induction pre generalizing m queries with
  | nil =>
    cases queries with
    | nil => cases split
    | cons q rest => cases split; exact ⟨rest, rfl⟩
  | cons a pre ih =>
    cases queries with
    | nil => cases split
    | cons q rest =>
      rw [history, List.cons_append, List.cons.injEq] at split
      exact ih split.2

/-- The policy grants a lock only where nobody is the holder. -/
theorem free_of_lock {owner : String} (lock : r.change? resource = some (some owner)) :
    r.manager.holders.holder? resource = none := by
  obtain ⟨granted, hold, hq⟩ := Request.lock_of_change lock
  simp only [Request.isGranted, Bool.and_eq_true] at granted
  obtain ⟨own, yes⟩ := granted
  rw [Request.answer_of_own own, hq] at yes
  simpa [Query.answerFor, Query.resource, Except.toOption] using yes

/-- Between two locks of a resource that the policy grants it grants an unlock. -/
theorem locks_apart {last : Request ε} {owner owner' : String}
    (split : m.history queries = pre ++ r :: mid ++ last :: post)
    (lock : r.change? resource = some (some owner))
    (again : last.change? resource = some (some owner')) :
    ∃ u ∈ mid, u.change? resource = some none := by
  rw [List.append_assoc, List.cons_append] at split
  obtain ⟨rest, later⟩ := exists_history split
  have held : r.next.holders.holder? resource = some owner := by
    rw [Request.holder?_next, lock, Option.getD_some]
  refine exists_unlock (r.next.holders.holder? resource) (by rw [held]; rfl) ?_
  rw [← holder?_at later, free_of_lock again]

/-- Whatever the features do, the manager's own policy answers each request that is left to it as
the latest lock or unlock that it has granted calls for, and it grants no two locks of a resource
without an unlock between them.  A request that is decided by a feature, refused or not allowed
changes no holder. -/
theorem policy_follows_history (m : Manager ε) (queries : List Query) :
    (∀ pre r post, m.history queries = pre ++ r :: post →
      (r.isOwn = true →
        r.answer = .ok (r.query.answerFor
          (holderAfter (m.holders.holder? r.query.resource) r.query.resource pre))) ∧
      (r.isOwn = false ∨ r.answer ≠ .ok true → r.next.holders = r.manager.holders) ∧
      ∀ resource, r.next.holders.holder? resource =
        holderAfter (m.holders.holder? resource) resource (pre ++ [r])) ∧
    ∀ resource pre first mid last post owner owner',
      m.history queries = pre ++ first :: mid ++ last :: post →
      first.change? resource = some (some owner) → last.change? resource = some (some owner') →
        ∃ u ∈ mid, u.change? resource = some none := by
  constructor
  · intro pre r post split
    refine ⟨fun own => ?_, fun other => ?_, fun resource => ?_⟩
    · rw [← holder?_at split, Request.answer_of_own own]
    · refine Request.holders_next_of_not_granted ?_
      rcases other with other | refused
      · simp [Request.isGranted, other]
      · cases h : r.answer <;> simp_all [Request.isGranted, Except.toOption]
    · rw [Request.holder?_next, holder?_at split, holderAfter_concat]
  · intro resource pre first mid last post owner owner' split lock again
    exact locks_apart split lock again

/-- A feature that lets everybody through the gate and breaks off at everything else. -/
def gatekeeper : Feature (List LogRecord) :=
  { Feature.passive _ "gatekeeper" with
    before := fun q => pure (if q.resource = "gate" then .answer .accepted else .crash) }

/-- A door that changes hands while somebody passes the gate. -/
def doorQueries : List Query :=
  [.lock "door" "ann" 0, .lock "gate" "bob" 0, .lock "door" "bob" 0, .unlock "door" "bob",
    .lock "door" "bob" 0]

theorem policy_follows_history_door :
    ∃ first mid last,
      history ⟨[gatekeeper], .empty, []⟩ doorQueries = [] ++ first :: mid ++ last :: [] ∧
      first.change? "door" = some (some "ann") ∧ last.change? "door" = some (some "bob") ∧
      (∃ u ∈ mid, u.change? "door" = some none) ∧
      last.isOwn = true ∧
      last.answer = .ok (last.query.answerFor (holderAfter none "door" (first :: mid))) := by
  refine ⟨_, [_, _, _], _, rfl, by decide +kernel, by decide +kernel, ?_, by decide +kernel, ?_⟩
  · exact (policy_follows_history _ doorQueries).2 "door" [] _ [_, _, _] _ [] "ann" "bob" rfl
      (by decide +kernel) (by decide +kernel)
  · exact ((policy_follows_history _ doorQueries).1 [_, _, _, _] _ [] rfl).1 (by decide +kernel)

end Manager

end Leasehold
