import Leasehold.Policy.Manager

/-!
# Whom a request is put to

The calls that a manager makes of its features' hooks cannot be seen in its answers.
`Manager.recorded` is the same manager with features that put each call on record, in
a world of their own beside the features' one, and `ask_recorded` says that the record
changes nothing else.  `Dispatched` is the law: which hooks are called, in which order,
what the answer is and who holds what after it.

Both halves of a request go through the features in order until one of them puts an
end to it, so both are read with one predicate, `Until`.

The law has words of its own for what a hook says and lists the requests that are announced;
`Outcome.undecided_iff` and `Outcome.decision?_eq_some_iff` say that the manager means the same.
-/

namespace Leasehold

/-- A call of a hook, with the place of the feature in the order of registration. -/
inductive HookCall where
  | before (place : Nat) (q : Query) (outcome : Outcome Verdict)
  | after (place : Nat) (q : Query) (decision : Bool) (outcome : Outcome Bool)

/-- The decision of a hook that was asked.  A hook that failed or crashed has none. -/
def Outcome.decision? (outcome : Outcome Verdict) : Option Bool :=
  outcome.answer?.bind Verdict.decision?

theorem Outcome.decision?_eq_some_iff {outcome : Outcome Verdict} {decision : Bool} :
    outcome.decision? = some decision ↔
      outcome = .answer (if decision then .accepted else .denied) := by
  constructor
  · intro decides
    cases outcome with
    | answer verdict =>
      cases verdict <;> cases decides <;> rfl
    | fault e => nomatch decides
    | crash => nomatch decides
  · rintro rfl
    cases decision <;> rfl

/-- The hook has neither accepted nor denied the request. -/
def Outcome.Undecided (outcome : Outcome Verdict) : Prop :=
  outcome ≠ .answer .accepted ∧ outcome ≠ .answer .denied

theorem Outcome.undecided_iff {outcome : Outcome Verdict} :
    outcome.Undecided ↔ outcome.decision? = none := by
  rw [Option.eq_none_iff_forall_ne_some]
  simp only [ne_eq, decision?_eq_some_iff, Bool.forall_bool, Undecided]
  exact and_comm

/-- The hook keeps the news to itself.  A hook that failed or crashed does not. -/
def Outcome.keeps : Outcome Bool → Bool
  | .answer kept => kept
  | .fault _ | .crash => false

/-- The outcomes of hooks called in order, of `n` hooks in all: up to the first that puts an end
to it, or of all if none does. -/
inductive Until {α : Type} (ends : α → Bool) : Nat → List α → Prop where
  | ended {n : Nat} {passed : List α} {last : α} (others : ∀ a ∈ passed, ends a = false)
    (end_ : ends last = true) (there : passed.length < n) : Until ends n (passed ++ [last])
  | exhausted {passed : List α} (others : ∀ a ∈ passed, ends a = false) :
    Until ends passed.length passed

namespace Until

variable {α : Type} {ends : α → Bool} {n : Nat} {outcomes : List α} {a : α}

theorem nobody : Until ends 0 [] := @exhausted α ends [] (by simp)

theorem first (end_ : ends a = true) : Until ends (n + 1) [a] :=
  @ended α ends (n + 1) [] a (by simp) end_ (Nat.succ_pos n)

theorem cons (other : ends a = false) (h : Until ends n outcomes) :
    Until ends (n + 1) (a :: outcomes) := by
  cases h with
  | @ended _ passed last others end_ there =>
    exact @ended α ends (n + 1) (a :: passed) last (List.forall_mem_cons.mpr ⟨other, others⟩) end_
      (Nat.succ_lt_succ there)
  | exhausted others => exact exhausted (List.forall_mem_cons.mpr ⟨other, others⟩)

end Until

/-! ## Features on record -/

namespace Feature

variable {ε : Type}

/-- The feature at a place, with the calls of its hooks put on record. -/
def recorded (place : Nat) (f : Feature ε) : Feature (ε × List HookCall) where
  name := f.name
  before q s :=
    let reply := f.before q s.1
    (reply.1, (reply.2, s.2 ++ [.before place q reply.1]))
  after q decision s :=
    let reply := f.after q decision s.1
    (reply.1, (reply.2, s.2 ++ [.after place q decision reply.1]))
  start := part Prod.fst (fun outer s => (outer, s.2)) f.start
  stop := part Prod.fst (fun outer s => (outer, s.2)) f.stop

end Feature

/-- The features from a place on, all of them on record. -/
def recordedFrom {ε : Type} (place : Nat) : List (Feature ε) → List (Feature (ε × List HookCall))
  | [] => []
  | f :: rest => f.recorded place :: recordedFrom (place + 1) rest

/-- The record of the features from a place on that were asked, with what came of it. -/
def asked (q : Query) (place : Nat) : List (Outcome Verdict) → List HookCall
  | [] => []
  | outcome :: rest => .before place q outcome :: asked q (place + 1) rest

/-- The record of the features from a place on that were told of a decision, with what came of
it. -/
def told (q : Query) (decision : Bool) (place : Nat) : List (Outcome Bool) → List HookCall
  | [] => []
  | outcome :: rest => .after place q decision outcome :: told q decision (place + 1) rest

namespace Manager

variable {ε : Type} [Journal ε]

/-- The manager with all its features on record, behind the calls that were made earlier. -/
def recorded (earlier : List HookCall) (m : Manager ε) : Manager (ε × List HookCall) :=
  ⟨recordedFrom 0 m.features, m.holders, (m.outer, earlier)⟩

/-- Which hooks a request to `n` features has called, and the answer to it and the holders after
it, where `holders` were there before. -/
inductive Dispatched (q : Query) (n : Nat) (holders : Holders) :
    List HookCall → Bool → Holders → Prop where
  /-- A feature has decided: nobody behind it is asked, and nobody is told. -/
  | byFeature {passed : List (Outcome Verdict)} {decision : Bool}
    (undecided : ∀ outcome ∈ passed, outcome.Undecided) (there : passed.length < n) :
    Dispatched q n holders
      (asked q 0 (passed ++ [.answer (if decision then .accepted else .denied)])) decision holders
  /-- All features were asked, and none has decided. -/
  | byPolicy {passed : List (Outcome Verdict)} {news : List (Outcome Bool)}
    (undecided : ∀ outcome ∈ passed, outcome.Undecided) (all : passed.length = n)
    (announced : match q with
      | .lock _ _ _ | .refresh _ _ _ | .unlock _ _ => Until Outcome.keeps n news
      | .isLocked _ | .isLockedBy _ _ => news = []) :
    Dispatched q n holders (asked q 0 passed ++ told q (holders.decide q).1 0 news)
      (holders.decide q).1 (holders.decide q).2

/-! ## The two halves of a request -/

/-- What is noted of a hook that was asked. -/
def remarkAsked (name : String) (q : Query) : Outcome Verdict → ε → ε
  | .answer v, outer =>
    match v.decision? with
    | some b =>
      Journal.note ⟨.debug, .manager, "Lock feature " ++ name ++ " decided " ++ q.name ++ ": " ++
        toString b⟩ outer
    | none => outer
  | .fault e, outer =>
    Journal.note ⟨.warn, .manager, "Lock feature " ++ name ++ " failed in before " ++ q.name ++
      ": " ++ e.message⟩ outer
  | .crash, outer =>
    Journal.note ⟨.warn, .manager, "Lock feature " ++ name ++ " panicked in before " ++ q.name⟩
      outer

/-- What is noted of a hook that was told. -/
def remarkTold (name : String) (q : Query) : Outcome Bool → ε → ε
  | .answer _, outer => outer
  | .fault e, outer =>
    Journal.note ⟨.warn, .manager, "Lock feature " ++ name ++ " failed in after " ++ q.name ++
      ": " ++ e.message⟩ outer
  | .crash, outer =>
    Journal.note ⟨.warn, .manager, "Lock feature " ++ name ++ " panicked in after " ++ q.name⟩
      outer

@[simp] theorem remarkAsked_pair {δ : Type} (name : String) (q : Query) (o : Outcome Verdict)
    (s : ε × δ) : remarkAsked name q o s = (remarkAsked name q o s.1, s.2) := by
  cases o with
  | answer v => simp only [remarkAsked]; split <;> rfl
  | fault e => rfl
  | crash => rfl

@[simp] theorem remarkTold_pair {δ : Type} (name : String) (q : Query) (o : Outcome Bool)
    (s : ε × δ) : remarkTold name q o s = (remarkTold name q o s.1, s.2) := by
  cases o <;> rfl

theorem offer_cons (q : Query) (f : Feature ε) (rest : List (Feature ε)) (outer : ε) :
    offer q (f :: rest) outer =
      match (f.before q outer).1.decision? with
      | some b => (some b, remarkAsked f.name q (f.before q outer).1 (f.before q outer).2)
      | none => offer q rest (remarkAsked f.name q (f.before q outer).1 (f.before q outer).2) := by
  cases h : f.before q outer with
  | mk outcome next =>
    rw [offer]
    simp only [bind, StateT.bind, h]
    cases outcome with
    | answer v =>
      simp only [remarkAsked, Outcome.decision?, Outcome.answer?, Option.bind_some]
      cases v.decision? <;> rfl
    | fault e => rfl
    | crash => rfl

theorem announce_cons (q : Query) (decision : Bool) (f : Feature ε) (rest : List (Feature ε))
    (outer : ε) :
    announce q decision (f :: rest) outer =
      if (f.after q decision outer).1.keeps then
        ((), remarkTold f.name q (f.after q decision outer).1 (f.after q decision outer).2)
      else announce q decision rest
        (remarkTold f.name q (f.after q decision outer).1 (f.after q decision outer).2) := by
  cases h : f.after q decision outer with
  | mk outcome next =>
    rw [announce]
    simp only [bind, StateT.bind, h]
    cases outcome with
    | answer kept => cases kept <;> rfl
    | fault e => rfl
    | crash => rfl

/-- Features on record are asked as they would be without it, up to the first that decides. -/
theorem offer_recorded (q : Query) (fs : List (Feature ε)) (place : Nat) (outer : ε)
    (earlier : List HookCall) :
    ∃ outcomes, Until (fun o => o.decision?.isSome) fs.length outcomes ∧
      (offer q fs outer).1 = outcomes.findSome? Outcome.decision? ∧
      offer q (recordedFrom place fs) (outer, earlier) =
        ((offer q fs outer).1, ((offer q fs outer).2, earlier ++ asked q place outcomes)) := by
  induction fs generalizing place outer earlier with
  | nil => exact ⟨[], .nobody, rfl, by rw [asked, List.append_nil]; rfl⟩
  | cons f rest ih =>
    rw [recordedFrom, offer_cons, offer_cons]
    simp only [Feature.recorded, remarkAsked_pair]
    generalize (f.before q outer).1 = outcome, (f.before q outer).2 = next
    cases hd : outcome.decision? with
    | some b =>
      refine ⟨[outcome], .first (by rw [hd]; rfl), ?_, rfl⟩
      rw [List.findSome?_cons, hd]
    | none =>
      obtain ⟨outcomes, order, answer, equal⟩ := ih (place + 1) (remarkAsked f.name q outcome next)
        (earlier ++ [.before place q outcome])
      refine ⟨outcome :: outcomes, order.cons (by rw [hd]; rfl), ?_, ?_⟩
      · rw [List.findSome?_cons, hd]
        exact answer
      · rw [List.append_assoc] at equal
        exact equal

/-- Features on record are told as they would be without it, up to the first that keeps the news
to itself. -/
theorem announce_recorded (q : Query) (decision : Bool) (fs : List (Feature ε)) (place : Nat)
    (outer : ε) (earlier : List HookCall) :
    ∃ outcomes, Until Outcome.keeps fs.length outcomes ∧
      announce q decision (recordedFrom place fs) (outer, earlier) =
        ((), ((announce q decision fs outer).2, earlier ++ told q decision place outcomes)) := by
  induction fs generalizing place outer earlier with
  | nil => exact ⟨[], .nobody, by rw [told, List.append_nil]; rfl⟩
  | cons f rest ih =>
    rw [recordedFrom, announce_cons, announce_cons]
    simp only [Feature.recorded, remarkTold_pair]
    generalize (f.after q decision outer).1 = outcome, (f.after q decision outer).2 = next
    cases hk : outcome.keeps with
    | true => exact ⟨[outcome], .first hk, rfl⟩
    | false =>
      obtain ⟨outcomes, order, equal⟩ := ih (place + 1) (remarkTold f.name q outcome next)
        (earlier ++ [.after place q decision outcome])
      refine ⟨outcome :: outcomes, order.cons hk, ?_⟩
      rw [List.append_assoc] at equal
      exact equal

/-! ## The whole of a request -/

/-- What is noted of a decision of the manager's own policy. -/
def remarkPolicy (q : Query) (decision : Bool) (outer : ε) : ε :=
  match policyNote? q decision with
  | some note => Journal.note ⟨.debug, .manager, note⟩ outer
  | none => outer

@[simp] theorem remarkPolicy_pair {δ : Type} (q : Query) (decision : Bool) (s : ε × δ) :
    remarkPolicy q decision s = (remarkPolicy q decision s.1, s.2) := by
  unfold remarkPolicy
  split <;> rfl

theorem decideAlone_eq (m : Manager ε) (q : Query) :
    decideAlone q m = ((m.holders.decide q).1,
      { m with
        holders := (m.holders.decide q).2
        outer :=
          if q.isAnnounced then
            (announce q (m.holders.decide q).1 m.features
              (remarkPolicy q (m.holders.decide q).1 m.outer)).2
          else remarkPolicy q (m.holders.decide q).1 m.outer }) := by
  cases q <;> rfl

theorem ask_eq (m : Manager ε) {q : Query} (accepted : q.fault? = none) :
    ask q m =
      match (offer q m.features m.outer).1 with
      | some decision => (.ok decision, { m with outer := (offer q m.features m.outer).2 })
      | none =>
        (.ok (decideAlone q { m with outer := (offer q m.features m.outer).2 }).1,
          (decideAlone q { m with outer := (offer q m.features m.outer).2 }).2) := by
  rw [ask, accepted]
  simp only [bind, StateT.bind, outside, get, getThe, MonadStateOf.get, StateT.get, pure]
  generalize offer q m.features m.outer = reply
  obtain ⟨answer, outer⟩ := reply
  cases answer <;> rfl

/-- The manager's own policy decides as it would without a record, and tells the features of it. -/
theorem decideAlone_recorded (m : Manager ε) (q : Query) (earlier : List HookCall) :
    ∃ news, (if q.isAnnounced then Until Outcome.keeps m.features.length news else news = []) ∧
      decideAlone q (m.recorded earlier) = ((decideAlone q m).1,
        (decideAlone q m).2.recorded (earlier ++ told q (m.holders.decide q).1 0 news)) := by
  rw [decideAlone_eq, decideAlone_eq]
  simp only [recorded, remarkPolicy_pair]
  cases q.isAnnounced with
  | true =>
    obtain ⟨news, order, equal⟩ := announce_recorded q (m.holders.decide q).1 m.features 0
      (remarkPolicy q (m.holders.decide q).1 m.outer) earlier
    refine ⟨news, order, ?_⟩
    simp only [if_true, equal]
  | false =>
    refine ⟨[], rfl, ?_⟩
    simp only [Bool.false_eq_true, if_false, told, List.append_nil]

/-- An allowed request is put to the features in order, up to the first that decides it.  If none
does, the manager's own policy decides, and the features are told in order.  Having the calls on
record changes nothing else. -/
theorem ask_recorded (m : Manager ε) (earlier : List HookCall) {q : Query}
    (accepted : q.fault? = none) :
    ∃ calls decision, (m.ask q).1 = .ok decision ∧
      Dispatched q m.features.length m.holders calls decision (m.ask q).2.holders ∧
      (m.recorded earlier).ask q = (.ok decision, (m.ask q).2.recorded (earlier ++ calls)) := by
  obtain ⟨outcomes, order, answer, equal⟩ := offer_recorded q m.features 0 m.outer earlier
  have undecided : ∀ passed : List (Outcome Verdict),
      (∀ o ∈ passed, o.decision?.isSome = false) → ∀ o ∈ passed, o.Undecided := by
    intro passed others o ho
    rw [Outcome.undecided_iff, ← Option.not_isSome_iff_eq_none, others o ho]
    exact Bool.false_ne_true
  have unanswered : ∀ passed : List (Outcome Verdict),
      (∀ o ∈ passed, o.decision?.isSome = false) → passed.findSome? Outcome.decision? = none :=
    fun passed others => List.findSome?_eq_none_iff.mpr fun o ho =>
      Outcome.undecided_iff.mp (undecided passed others o ho)
  rw [ask_eq m accepted, ask_eq (m.recorded earlier) accepted]
  simp only [recorded, equal]
  generalize hn : m.features.length = n at order
  cases order with
  | @ended _ passed last others end_ there =>
    obtain ⟨decision, hd⟩ := Option.isSome_iff_exists.mp end_
    rw [List.findSome?_append, unanswered passed others, Option.none_or, List.findSome?_cons,
      hd] at answer
    rw [answer, Outcome.decision?_eq_some_iff.mp hd]
    exact ⟨_, decision, rfl, .byFeature (undecided passed others) there, rfl⟩
  | exhausted others =>
    rw [unanswered outcomes others] at answer
    rw [answer]
    obtain ⟨news, announced, same⟩ := decideAlone_recorded
      { m with outer := (offer q m.features m.outer).2 } q (earlier ++ asked q 0 outcomes)
    rw [hn] at announced
    refine ⟨asked q 0 outcomes ++ told q (m.holders.decide q).1 0 news, _, rfl, ?_, ?_⟩
    · rw [decideAlone_eq]
      refine .byPolicy (undecided outcomes others) rfl ?_
      cases q <;> exact announced
    · rw [← List.append_assoc]
      exact congrArg (fun reply => (Except.ok reply.1, reply.2)) same

/-- Of the features of this manager the first leaves every decision to others and keeps no news,
the second crashes when it is asked and fails when it is told, and the third is like the first. -/
def crashing : Manager (List LogRecord) :=
  ⟨[.passive _ "idle",
    { Feature.passive _ "broken" with
      before := fun _ => pure .crash
      after := fun _ _ => pure (.fault (.storage "gone")) },
    .passive _ "last"], ⟨[("door", "ann")]⟩, []⟩

/-- An unlock that is granted: all features are asked, and all of them are told. -/
theorem ask_recorded_crash :
    (Query.unlock "door" "ann").fault? = none ∧
    ∃ calls decision,
      calls = [.before 0 (.unlock "door" "ann") (.answer .unhandled),
        .before 1 (.unlock "door" "ann") .crash,
        .before 2 (.unlock "door" "ann") (.answer .unhandled),
        .after 0 (.unlock "door" "ann") true (.answer false),
        .after 1 (.unlock "door" "ann") true (.fault (.storage "gone")),
        .after 2 (.unlock "door" "ann") true (.answer false)] ∧
      decision = true ∧ (crashing.ask (.unlock "door" "ann")).2.holders = .empty ∧
      (crashing.ask (.unlock "door" "ann")).1 = .ok decision ∧
      Dispatched (.unlock "door" "ann") crashing.features.length crashing.holders calls decision
        (crashing.ask (.unlock "door" "ann")).2.holders ∧
      (crashing.recorded []).ask (.unlock "door" "ann") =
        (.ok decision, (crashing.ask (.unlock "door" "ann")).2.recorded ([] ++ calls)) := by
  have accepted : (Query.unlock "door" "ann").fault? = none := by decide
  obtain ⟨calls, decision, answer, dispatched, same⟩ := ask_recorded crashing [] accepted
  have record : ((crashing.recorded []).ask (.unlock "door" "ann")).2.outer.2 = calls := by
    rw [same]
    rfl
  have granted : Except.ok true = Except.ok decision := answer
  exact ⟨accepted, calls, decision, record.symm, (Except.ok.inj granted).symm, rfl, answer,
    dispatched, same⟩

end Manager

end Leasehold
