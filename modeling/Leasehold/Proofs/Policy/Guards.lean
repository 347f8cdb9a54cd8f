import Leasehold.Policy.Guard
import Leasehold.Proofs.Policy.History

/-!
# Guards and the locks they stand for

Guards are asked for, released and thrown away in any order (`Guarded.Move`), and nothing else
locks or unlocks.  As long as no feature decides anything, the guards that are alive and the
manager's own policy agree (`Guarded.Balanced`): a resource with a holder has one guard, in the
name of this holder, and one without has none.  So a guard that ends finds its lock still there.

`Guarded.Stepped` lists what a move can come to, with what it leaves; `Balanced.stepped` is what
the programs of `Guard` do, and no later lemma opens them again.  What is known of a whole run is
`Guarded.Account`: each guard that was given is alive or has ended with one unlock, and the
manager was asked for nothing but these locks and unlocks.
-/

namespace Leasehold

/-- The feature leaves every decision to others, whatever else it does. -/
def Feature.Passes {ε : Type} (f : Feature ε) : Prop := ∀ q s, (f.before q s).1.Undecided

/-- Holders are known by what they hold, if they hold nothing. -/
theorem Holders.eq_empty {h : Holders} (free : ∀ resource, h.holder? resource = none) :
    h = Holders.empty := by
  obtain ⟨pairs⟩ := h
  cases pairs with
  | nil => rfl
  | cons p rest => simpa [holder?] using free p.1

namespace Manager

variable {ε : Type} [Journal ε] {m : Manager ε} {q : Query}

theorem features_ask (m : Manager ε) (q : Query) : (m.ask q).2.features = m.features := by
  cases accepted : q.fault? with
  | some fault => rw [ask, accepted]; rfl
  | none =>
    rw [ask_eq m accepted]
    split
    · rfl
    · rw [decideAlone_eq]

theorem offer_of_passes {fs : List (Feature ε)} (passing : ∀ f ∈ fs, f.Passes) (outer : ε) :
    (offer q fs outer).1 = none := by
  induction fs generalizing outer with
  | nil => rfl
  | cons f rest ih =>
    rw [offer_cons, Outcome.undecided_iff.mp (passing f List.mem_cons_self q outer)]
    exact ih (fun g hg => passing g (List.mem_cons_of_mem f hg)) _

/-- Without features that decide, all allowed requests are left to the manager's own policy. -/
theorem isOwn_of_passes (passing : ∀ f ∈ m.features, f.Passes) (allowed : q.fault? = none) :
    (⟨m, q⟩ : Request ε).isOwn = true := by
  simp [Request.isOwn, allowed, offer_of_passes passing]

end Manager

/-! ## The three programs -/

namespace Guard

variable {ε : Type} [Journal ε] {m : Manager ε} {g : Guard}

/-- A release is one unlock: throwing the guard away behind it does nothing. -/
theorem release_eq (g : Guard) (m : Manager ε) :
    g.release m = m.ask (.unlock g.resource g.owner) := rfl

/-- Throwing a guard away is one unlock, of which nothing is noted if it is granted. -/
theorem discard_of_granted (unreleased : g.released = false)
    (granted : (m.ask (.unlock g.resource g.owner)).1 = .ok true) :
    g.discard m = ((), (m.ask (.unlock g.resource g.owner)).2) := by
  rw [discard, unreleased, if_neg Bool.false_ne_true]
  simp only [bind, StateT.bind]
  generalize m.ask (.unlock g.resource g.owner) = reply at granted
  obtain ⟨answer, next⟩ := reply
  subst granted
  rfl

/-- Asking for a guard is one lock, and a guard comes of it if that is granted. -/
theorem acquire_eq (m : Manager ε) (resource owner : String) (hold : UInt64) :
    acquire resource owner hold m =
      ((m.ask (.lock resource owner hold)).1.map fun granted =>
        if granted then some ⟨resource, owner, false⟩ else none,
        (m.ask (.lock resource owner hold)).2) := by
  rw [acquire]
  simp only [bind, StateT.bind]
  generalize m.ask (.lock resource owner hold) = reply
  obtain ⟨answer, next⟩ := reply
  rcases answer with f | _ | _ <;> rfl

end Guard

/-! ## Guards that are alive -/

/-- A manager and the guards for its locks that are alive, the latest first. -/
structure Guarded (ε : Type) where
  manager : Manager ε
  live : List Guard

namespace Guarded

/-- What happens to guards: one is asked for, or one that is alive is released or thrown away. -/
inductive Move where
  | acquire (resource owner : String) (hold : UInt64)
  | release (place : Nat)
  | discard (place : Nat)

/-- What comes of a move. -/
inductive Event where
  | given (g : Guard) (hold : UInt64)
  | refused (resource owner : String) (hold : UInt64)
  | released (g : Guard) (answer : Except Fault Bool)
  | discarded (g : Guard)

namespace Event

/-- What the manager is asked. -/
def query : Event → Query
  | given g hold => .lock g.resource g.owner hold
  | refused resource owner hold => .lock resource owner hold
  | released g _ | discarded g => .unlock g.resource g.owner

/-- The guard was given. -/
def gives (g : Guard) : Event → Bool
  | given h _ => h = g
  | refused _ _ _ | released _ _ | discarded _ => false

/-- The guard has ended. -/
def ends (g : Guard) : Event → Bool
  | released h _ | discarded h => h = g
  | given _ _ | refused _ _ _ => false

end Event

variable {ε : Type} {d d' : Guarded ε} {g : Guard}

/-- The guards that are alive and the holders of the manager's own policy agree, and no feature
comes between them. -/
structure Balanced (d : Guarded ε) : Prop where
  passing : ∀ f ∈ d.manager.features, f.Passes
  matched : ∀ resource, d.live.filter (·.resource = resource) =
    ((d.manager.holders.holder? resource).map fun owner => ⟨resource, owner, false⟩).toList
  allowed : ∀ g ∈ d.live, (Query.unlock g.resource g.owner).fault? = none

/-- A guard that is alive has its lock. -/
theorem Balanced.held (h : d.Balanced) (alive : g ∈ d.live) :
    d.manager.holders.holder? g.resource = some g.owner ∧ g.released = false := by
  have own : g ∈ d.live.filter (·.resource = g.resource) :=
    List.mem_filter.mpr ⟨alive, decide_eq_true rfl⟩
  rw [h.matched, Option.mem_toList, Option.map_eq_some_iff] at own
  obtain ⟨owner, held, same⟩ := own
  rw [← same]
  exact ⟨held, rfl⟩

/-- One more guard is in the way of its own resource only. -/
theorem Balanced.given (h : d.Balanced) {m : Manager ε} {resource owner : String}
    (passing : ∀ f ∈ m.features, f.Passes)
    (allowed : (Query.unlock resource owner).fault? = none)
    (free : d.manager.holders.holder? resource = none)
    (after : m.holders = d.manager.holders.insert resource owner) :
    Balanced ⟨m, ⟨resource, owner, false⟩ :: d.live⟩ where
  passing := passing
  allowed := List.forall_mem_cons.mpr ⟨allowed, h.allowed⟩
  matched other := by
    show _ = ((m.holders.holder? other).map _).toList
    rw [after, Holders.holder?_insert, List.filter_cons, h.matched]
    by_cases own : resource = other
    · subst own
      simp [free]
    · simp [own]

/-- One guard less leaves its own resource free, and no other one. -/
theorem Balanced.ended (h : d.Balanced) {m : Manager ε} {pre post : List Guard}
    (passing : ∀ f ∈ m.features, f.Passes) (split : d.live = pre ++ g :: post)
    (after : m.holders = d.manager.holders.erase g.resource) : Balanced ⟨m, pre ++ post⟩ where
  passing := passing
  allowed other alive := h.allowed other (by
    rw [split]
    rcases List.mem_append.mp alive with before | behind
    · exact List.mem_append_left _ before
    · exact List.mem_append_right _ (List.mem_cons_of_mem g behind))
  matched other := by
    have matched := h.matched other
    rw [split, List.filter_append, List.filter_cons] at matched
    show _ = ((m.holders.holder? other).map _).toList
    rw [after, Holders.holder?_erase, List.filter_append]
    by_cases own : g.resource = other
    · subst own
      rw [(h.held (split ▸ List.mem_append_cons_self)).1] at matched
      simp only [decide_true, if_true, Option.map_some, Option.toList_some] at matched
      rcases List.append_eq_singleton_iff.mp matched with ⟨before, behind⟩ | ⟨-, behind⟩
      · rw [before, (List.cons.inj behind).2]
        simp
      · cases behind
    · rw [if_neg own]
      simpa [own] using matched

variable [Journal ε]

/-- Makes a move.  Nothing happens to a guard that is not there. -/
def step (d : Guarded ε) : Move → Option Event × Guarded ε
  | .acquire resource owner hold =>
    match Guard.acquire resource owner hold d.manager with
    | (.ok (some g), manager) => (some (.given g hold), ⟨manager, g :: d.live⟩)
    | (_, manager) => (some (.refused resource owner hold), ⟨manager, d.live⟩)
  | .release place =>
    match d.live[place]? with
    | some g =>
      (some (.released g (g.release d.manager).1),
        ⟨(g.release d.manager).2, d.live.eraseIdx place⟩)
    | none => (none, d)
  | .discard place =>
    match d.live[place]? with
    | some g => (some (.discarded g), ⟨(g.discard d.manager).2, d.live.eraseIdx place⟩)
    | none => (none, d)

/-- Makes moves one after another. -/
def run (d : Guarded ε) : List Move → List Event × Guarded ε
  | [] => ([], d)
  | move :: rest =>
    let (event, next) := d.step move
    let (later, last) := next.run rest
    (event.toList ++ later, last)

/-- What a move can come to, with what it leaves. -/
inductive Stepped (d : Guarded ε) : Option Event → Guarded ε → Prop where
  | given {resource owner : String} {hold : UInt64}
    (allowed : (Query.lock resource owner hold).fault? = none)
    (free : d.manager.holders.holder? resource = none) :
    Stepped d (some (.given ⟨resource, owner, false⟩ hold))
      ⟨(d.manager.ask (.lock resource owner hold)).2, ⟨resource, owner, false⟩ :: d.live⟩
  | refused {resource owner : String} {hold : UInt64}
    (same : (d.manager.ask (.lock resource owner hold)).2.holders = d.manager.holders) :
    Stepped d (some (.refused resource owner hold))
      ⟨(d.manager.ask (.lock resource owner hold)).2, d.live⟩
  | ended {g : Guard} {event : Event} {pre post : List Guard} (split : d.live = pre ++ g :: post)
    (kind : event = .released g (.ok true) ∨ event = .discarded g) :
    Stepped d (some event)
      ⟨(d.manager.ask (.unlock g.resource g.owner)).2, pre ++ post⟩
  | nothing : Stepped d none d

/-- The unlock of a guard that is alive is granted, and its resource is free after it. -/
theorem Balanced.unlock (h : d.Balanced) (alive : g ∈ d.live) :
    (d.manager.ask (.unlock g.resource g.owner)).1 = .ok true ∧
      (d.manager.ask (.unlock g.resource g.owner)).2.holders =
        d.manager.holders.erase g.resource := by
  have own := Manager.isOwn_of_passes h.passing (h.allowed g alive)
  obtain ⟨answered, after⟩ := Manager.Request.own_spec own
  refine ⟨answered.trans ?_, after⟩
  simp only [Holders.decide, (h.held alive).1, Option.isSome_some]

/-- An allowed lock is granted exactly if nobody holds its resource. -/
theorem Balanced.lock (h : d.Balanced) {resource owner : String} {hold : UInt64}
    (allowed : (Query.lock resource owner hold).fault? = none) :
    (d.manager.ask (.lock resource owner hold)).1 =
        .ok (d.manager.holders.holder? resource).isNone ∧
      (d.manager.ask (.lock resource owner hold)).2.holders =
        if (d.manager.holders.holder? resource).isNone then
          d.manager.holders.insert resource owner
        else d.manager.holders := by
  have own := Manager.isOwn_of_passes h.passing allowed
  obtain ⟨answered, after⟩ := Manager.Request.own_spec own
  simp only [Holders.decide] at answered after
  constructor
  · refine answered.trans ?_
    cases d.manager.holders.holder? resource <;> rfl
  · refine after.trans ?_
    cases d.manager.holders.holder? resource <;> rfl

/-- A guard at a place is taken out of the list. -/
theorem exists_split {live : List Guard} {place : Nat} (there : live[place]? = some g) :
    ∃ pre post, live = pre ++ g :: post ∧ live.eraseIdx place = pre ++ post := by
  obtain ⟨within, rfl⟩ := List.getElem?_eq_some_iff.mp there
  refine ⟨live.take place, live.drop (place + 1), ?_, List.eraseIdx_eq_take_drop_succ live place⟩
  rw [← List.drop_eq_getElem_cons within, List.take_append_drop]

/-- What the programs do with the guards that are alive. -/
theorem Balanced.stepped (h : d.Balanced) (move : Move) :
    Stepped d (d.step move).1 (d.step move).2 := by
  cases move with
  | acquire resource owner hold =>
    simp only [step, Guard.acquire_eq]
    cases allowed : (Query.lock resource owner hold).fault? with
    | some fault =>
      have refused : d.manager.ask (.lock resource owner hold) =
          (.error (.invalidArgument fault.message), d.manager) := by rw [Manager.ask, allowed]; rfl
      have stepped := Stepped.refused (d := d) (congrArg (·.2.holders) refused)
      rw [refused] at stepped ⊢
      exact stepped
    | none =>
      obtain ⟨answer, after⟩ := h.lock allowed
      cases free : d.manager.holders.holder? resource with
      | none =>
        rw [free] at answer
        rw [answer]
        exact .given allowed free
      | some holder =>
        rw [free] at answer after
        rw [answer]
        exact .refused after
  | release place =>
    simp only [step]
    cases there : d.live[place]? with
    | none => exact .nothing
    | some g =>
      obtain ⟨pre, post, split, left⟩ := exists_split there
      have granted := (h.unlock (List.mem_of_getElem? there)).1
      dsimp only
      rw [left, Guard.release_eq, granted]
      exact .ended split (.inl rfl)
  | discard place =>
    simp only [step]
    cases there : d.live[place]? with
    | none => exact .nothing
    | some g =>
      obtain ⟨pre, post, split, left⟩ := exists_split there
      have alive := List.mem_of_getElem? there
      simp only [left, Guard.discard_of_granted (h.held alive).2 (h.unlock alive).1]
      exact .ended split (.inr rfl)

/-- Every move keeps the balance. -/
theorem Balanced.next {event : Option Event} (h : d.Balanced) (stepped : Stepped d event d') :
    d'.Balanced := by
  have passing (q : Query) : ∀ f ∈ (d.manager.ask q).2.features, f.Passes := by
    rw [Manager.features_ask]
    exact h.passing
  cases stepped with
  | given allowed free =>
    have after := (h.lock allowed).2
    rw [free] at after
    exact h.given (passing _) allowed free after
  | refused same =>
    refine ⟨passing _, fun resource => ?_, h.allowed⟩
    rw [same]
    exact h.matched resource
  | ended split kind =>
    exact h.ended (passing _) split (h.unlock (split ▸ List.mem_append_cons_self)).2
  | nothing => exact h

/-! ## Runs -/

/-- What is known of moves by their events: the manager was asked for these and nothing else, it
granted each unlock, and each guard that was there or was given is there or has ended. -/
structure Account (d : Guarded ε) (events : List Event) (last : Guarded ε) : Prop where
  balanced : last.Balanced
  asked : last.manager =
    (events.map Event.query).foldl (fun m q => (m.ask q).2) d.manager
  granted : ∀ r ∈ d.manager.history (events.map Event.query), ∀ resource owner,
    r.query = .unlock resource owner → r.answer = .ok true
  released : ∀ g answer, .released g answer ∈ events → answer = .ok true
  conserved : ∀ g, events.countP (·.gives g) + d.live.count g =
    events.countP (·.ends g) + last.live.count g

/-- Nothing has happened. -/
theorem Account.none (h : d.Balanced) : Account d [] d where
  balanced := h
  asked := rfl
  granted _ there := absurd there List.not_mem_nil
  released _ _ there := absurd there List.not_mem_nil
  conserved _ := rfl

/-- A single event, of which the parts of an account are read off. -/
theorem Account.single {event : Event} (balanced : d'.Balanced)
    (asked : d'.manager = (d.manager.ask event.query).2)
    (granted : ∀ resource owner, event.query = .unlock resource owner →
      (d.manager.ask event.query).1 = .ok true)
    (released : ∀ g answer, event = .released g answer → answer = .ok true)
    (conserved : ∀ g, (if event.gives g then 1 else 0) + d.live.count g =
      (if event.ends g then 1 else 0) + d'.live.count g) : Account d [event] d' where
  balanced := balanced
  asked := asked
  granted r there := by
    cases List.mem_singleton.mp there
    exact granted
  released g answer there := released g answer (List.mem_singleton.mp there).symm
  conserved g := by simpa [List.countP_cons] using conserved g

/-- What a move adds to the account. -/
theorem Balanced.account_step {event : Option Event} (h : d.Balanced)
    (stepped : Stepped d event d') : Account d event.toList d' := by
  have balanced := h.next stepped
  cases stepped with
  | nothing => exact .none h
  | given allowed free =>
    refine .single balanced rfl nofun nofun fun g => ?_
    simp only [Event.gives, Event.ends, List.count_cons, beq_iff_eq, decide_eq_true_eq,
      Bool.false_eq_true, if_false]
    omega
  | refused same => exact .single balanced rfl nofun nofun fun g => rfl
  | @ended g event pre post split kind =>
    have alive : g ∈ d.live := split ▸ List.mem_append_cons_self
    have unlocks : event.query = .unlock g.resource g.owner := by rcases kind with rfl | rfl <;> rfl
    have ending (other : Guard) :
        event.gives other = false ∧ event.ends other = decide (g = other) := by
      rcases kind with rfl | rfl <;> exact ⟨rfl, rfl⟩
    refine .single balanced (by rw [unlocks]) ?_ ?_ fun other => ?_
    · rintro resource owner -
      rw [unlocks]
      exact (h.unlock alive).1
    · rintro other answer rfl
      rcases kind with same | same
      · cases same
        rfl
      · cases same
    · rw [split, (ending other).1, (ending other).2, List.count_append, List.count_append,
        List.count_cons]
      simp only [beq_iff_eq, decide_eq_true_eq, Bool.false_eq_true, if_false]
      omega

/-- The history of more requests goes on with the manager after the first ones. -/
theorem history_append (m : Manager ε) (queries later : List Query) :
    m.history (queries ++ later) =
      m.history queries ++ (queries.foldl (fun m q => (m.ask q).2) m).history later := by
  induction queries generalizing m with
  | nil => rfl
  | cons q rest ih => exact congrArg (_ :: ·) (ih _)

/-- Accounts of runs that follow each other add up. -/
theorem Account.trans {events later : List Event} {last : Guarded ε} (first : Account d events d')
    (rest : Account d' later last) : Account d (events ++ later) last where
  balanced := rest.balanced
  asked := by rw [List.map_append, List.foldl_append, ← first.asked, rest.asked]
  granted r there := by
    rw [List.map_append, history_append, ← first.asked] at there
    exact (List.mem_append.mp there).elim (first.granted r) (rest.granted r)
  released g answer there :=
    (List.mem_append.mp there).elim (first.released g answer) (rest.released g answer)
  conserved g := by
    have before := first.conserved g
    have after := rest.conserved g
    rw [List.countP_append, List.countP_append]
    omega

theorem Balanced.account (h : d.Balanced) (moves : List Move) :
    Account d (d.run moves).1 (d.run moves).2 := by
  -- the balance is what each move leaves to the next one
  induction moves generalizing d with
  | nil => exact .none h
  | cons move rest ih =>
    have stepped := h.stepped move
    exact (h.account_step stepped).trans (ih (h.next stepped))

end Guarded

/-- Guards are asked for, released and thrown away in any order, by whomever and for whatever
resources, where no feature decides and nobody else locks or unlocks.  After any of these moves a
resource has a holder exactly if one guard for it is alive, in the name of this holder, and there
is no second one.  The manager was asked for one lock with each guard that was wanted and for one
unlock with each that has ended, and for nothing else, and all unlocks were granted; each guard
that was given is alive or has ended, once.  Whichever guard ends next, and in whichever way, it
is one unlock, which is granted and of which nothing is noted.  Where a lock is refused there is
no guard and no other holder, and when no guard is alive nobody holds anything. -/
theorem guards_balance {ε : Type} [Journal ε] {m : Manager ε}
    (passing : ∀ f ∈ m.features, f.Passes) (empty : m.holders = Holders.empty)
    (moves : List Guarded.Move) :
    let events := (Guarded.run ⟨m, []⟩ moves).1
    let d := (Guarded.run ⟨m, []⟩ moves).2
    let queries := events.map Guarded.Event.query
    (∀ resource, d.live.filter (·.resource = resource) =
      ((d.manager.holders.holder? resource).map fun owner =>
        (⟨resource, owner, false⟩ : Guard)).toList) ∧
    d.manager = queries.foldl (fun m q => (m.ask q).2) m ∧
    (∀ r ∈ m.history queries, ∀ resource owner, r.query = .unlock resource owner →
      r.answer = .ok true) ∧
    (∀ g answer, .released g answer ∈ events → answer = .ok true) ∧
    (∀ g, events.countP (·.gives g) = events.countP (·.ends g) + d.live.count g) ∧
    (∀ g ∈ d.live, let unlocked := (d.manager.ask (.unlock g.resource g.owner)).2
      g.release d.manager = (.ok true, unlocked) ∧ g.discard d.manager = ((), unlocked)) ∧
    (∀ resource owner hold, (Query.lock resource owner hold).fault? = none →
      let tried := Guard.acquire resource owner hold d.manager
      let free := (d.manager.holders.holder? resource).isNone
      tried.1 = .ok (if free then some ⟨resource, owner, false⟩ else none) ∧
      (free = false → tried.2.holders = d.manager.holders)) ∧
    (d.live = [] → d.manager.holders = Holders.empty) := by
  intro events d queries
  have start : (⟨m, []⟩ : Guarded ε).Balanced :=
    { passing, matched := fun resource => by simp [empty], allowed := nofun }
  have account := start.account moves
  have balanced : d.Balanced := account.balanced
  refine ⟨balanced.matched, account.asked, account.granted, account.released, account.conserved,
    fun g alive => ?_, fun resource owner hold allowed => ?_, fun none => ?_⟩
  · have granted := (balanced.unlock alive).1
    exact ⟨Prod.ext granted rfl, Guard.discard_of_granted (balanced.held alive).2 granted⟩
  · obtain ⟨answer, after⟩ := balanced.lock allowed
    rw [Guard.acquire_eq, answer]
    refine ⟨rfl, fun taken => ?_⟩
    rw [after, taken, if_neg Bool.false_ne_true]
  · refine Holders.eq_empty fun resource => ?_
    have nobody := balanced.matched resource
    rw [none] at nobody
    simpa using nobody.symm

/-- A feature that breaks off whatever it is asked. -/
def brittle : Feature (List LogRecord) :=
  { Feature.passive _ "brittle" with before := fun _ => pure .crash }

/-- Two guards are given and a third one is refused; the older one ends first. -/
def doorMoves : List Guarded.Move :=
  [.acquire "door" "ann" 0, .acquire "gate" "bob" 0, .acquire "door" "cid" 0, .discard 1,
    .release 0]

theorem guards_balance_door :
    let m : Manager (List LogRecord) := ⟨[brittle], .empty, []⟩
    let midway := (Guarded.run ⟨m, []⟩ (doorMoves.take 3)).2
    let last := (Guarded.run ⟨m, []⟩ doorMoves).2
    (∀ f ∈ m.features, f.Passes) ∧ m.holders = Holders.empty ∧
    midway.live = [⟨"gate", "bob", false⟩, ⟨"door", "ann", false⟩] ∧
    midway.live.filter (·.resource = "door") = [⟨"door", "ann", false⟩] ∧
    last.live = [] ∧ last.manager.holders = Holders.empty ∧
    (∀ record ∈ last.manager.outer, record.topic ≠ .guard) := by
  intro m midway last
  have passing : ∀ f ∈ m.features, f.Passes := by
    intro f hf q s
    cases List.mem_singleton.mp hf
    exact Outcome.undecided_iff.mpr rfl
  have before := guards_balance passing rfl (doorMoves.take 3)
  have after := guards_balance passing rfl doorMoves
  have ended : last.live = [] := by decide +kernel
  refine ⟨passing, rfl, by decide +kernel, ?_, ended, after.2.2.2.2.2.2.2 ended, by decide +kernel⟩
  rw [before.1 "door"]
  decide +kernel

end Leasehold
