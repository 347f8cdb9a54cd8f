import Leasehold.Proofs.Policy.Dispatch
import Leasehold.Proofs.Waiting.Rounds

/-!
# How a wait ends and what it tells

A run is rounds that end in a pause and one that ends the wait.  Each of the former is one
refusal and one retry (`Wait.Retried`), so that the refusals number the retries, and only the
last attempt can have been anything else than refused.  `WaitEvent.Told` is the order of events
that an observer can rely on, and `Wait.Account` what a finished wait has done.

A manager refuses wrong arguments whenever it is asked (`Manager.steady_asking`), which is why no
retry ever comes before such a fault.
-/

namespace Leasehold

variable {ε : Type}

/-! ## Events in their order -/

namespace WaitEvent

/-- Retries with the numbers from 1 to `retries`, one after another. -/
inductive Numbered (resource : String) : Nat → List WaitEvent → Prop where
  | nothing : Numbered resource 0 []
  | next {retries : Nat} {events : List WaitEvent} (before : Numbered resource retries events)
    (elapsed : Span) (remaining : Option Span) :
    Numbered resource (retries + 1)
      (events ++ [.retrying resource (retries + 1) elapsed remaining])

/-- The event that goes with the end of a wait, after so many retries and refusals.  The refusal at
the end of the time is followed by no retry. -/
inductive Ends (resource : String) : Except Fault Bool → Nat → Nat → WaitEvent → Prop where
  | acquired {refusals : Nat} (waited : Span) :
    Ends resource (.ok true) refusals refusals (.acquired resource waited)
  | cancelled {refusals : Nat} (waited : Span) (seconds : Binary64) :
    Ends resource (.error (.cancelled resource seconds)) refusals refusals
      (.cancelled resource waited)
  | timedOut {refusals : Nat} (waited : Span) (seconds : Binary64) (bound : WaitBound)
    (source : BoundSource) :
    Ends resource (.error (.timedOut resource seconds bound source)) refusals (refusals + 1)
      (.timedOut resource waited)

/-- The events of a wait that has come to a result after so many refusals. -/
inductive Told (resource : String) (bound : WaitBound) :
    Except Fault Bool → Nat → List WaitEvent → Prop where
  /-- A refusal is an answer. -/
  | answered : Told resource bound (.ok false) 0 []
  | wrongArguments (text : String) : Told resource bound (.error (.invalidArgument text)) 0 []
  | atOnce {result : Except Fault Bool} {event : WaitEvent}
    (ends : Ends resource result 0 0 event) : Told resource bound result 0 [event]
  | waited {result : Except Fault Bool} {retries refusals : Nat} {events : List WaitEvent}
    {event : WaitEvent} (numbered : Numbered resource retries events)
    (ends : Ends resource result retries refusals event) :
    Told resource bound result refusals (.began resource bound :: events ++ [event])

end WaitEvent

/-! ## Finished waits -/

/-- What a finished wait has done: its answers and the events that it told, up to a result after so
many refusals. -/
structure Wait.Account (w : Wait) (result : Except Fault Bool) (refusals : Nat)
    (answers : List (Except Fault Bool)) (events : List WaitEvent) : Prop where
  /-- The wait ends with the lock exactly if its last attempt was granted. -/
  granted : result = .ok true ↔ answers.getLast? = some (.ok true)
  /-- All attempts before the last one were refused. -/
  refused : ∀ answer ∈ answers.dropLast, answer = .ok false
  /-- No other result passes over a lock that was granted. -/
  unhidden : .ok true ∈ answers → result = .ok true
  single : result = .ok false → w.single = true
  /-- A fault of the attempt is one of the first attempt, and the result. -/
  faulty : ∀ fault, .error fault ∈ answers → answers = [.error fault] ∧ result = .error fault
  /-- Wrong arguments are found out at the first attempt, and the observer hears nothing. -/
  wrong : ∀ text, result = .error (.invalidArgument text) →
    answers = [.error (.invalidArgument text)] ∧ events = []
  told : WaitEvent.Told w.resource w.bound result refusals events

namespace Wait

variable {heard : Bool} {a : Asking ε} {w v v' : Wait} {deeds more : List (WaitDeed ε)}
  {result : Except Fault Bool}

/-- The deeds of rounds that ended in a pause, and the wait after them. -/
inductive Retried (heard : Bool) (a : Asking ε) (w : Wait) : Wait → List (WaitDeed ε) → Prop where
  | start : Retried heard a w w []
  | again {v v' : Wait} {deeds more : List (WaitDeed ε)} {length : Span}
    (before : Retried heard a w v deeds) (round : v.Rounded heard a (.pause length, v') more) :
    Retried heard a w v' (deeds ++ more)

/-- The deeds of a run that has come to a result. -/
inductive Finished (heard : Bool) (a : Asking ε) (w : Wait) (result : Except Fault Bool)
    (v' : Wait) : List (WaitDeed ε) → Prop where
  | last {v : Wait} {deeds more : List (WaitDeed ε)} (before : Retried heard a w v deeds)
    (round : v.Rounded heard a (.finished result, v') more) :
    Finished heard a w result v' (deeds ++ more)

/-- A run on record goes on with the rounds that it has begun with. -/
theorem records_run (s : Surroundings ε) (rounds : Nat)
    (before : Retried s.observe.isSome a w v deeds) :
    Records (v.run s a rounds) (v.run s.recorded a.recorded rounds) fun reply more =>
      ∀ result, reply.1 = some result →
        Finished s.observe.isSome a w result reply.2 (deeds ++ more) := by
  induction rounds generalizing v deeds with
  | zero => exact .pure _ (by rintro result ⟨⟩)
  | succ rounds ih =>
    refine .bind (records_round s v a) ?_
    rintro ⟨round, v'⟩ more rounded
    cases round with
    | finished result =>
      refine .pure _ ?_
      rintro result ⟨⟩
      rw [List.append_nil]
      exact .last before rounded
    | pause length =>
      refine .bind (.off _) ?_
      rintro ⟨⟩ slept rfl
      refine (ih (.again before rounded)).imp ?_
      intro reply rest finished result hresult
      rw [List.nil_append, ← List.append_assoc]
      exact finished result hresult

/-! ## Before the last round -/

/-- The answers among deeds. -/
def answers (deeds : List (WaitDeed ε)) : List (Except Fault Bool) :=
  deeds.filterMap WaitDeed.answer?

/-- The events among deeds. -/
def events (deeds : List (WaitDeed ε)) : List WaitEvent := deeds.filterMap WaitDeed.event?

/-- What has come of a fresh wait before its next round: as many refusals as retries, after the
beginning if there are any. -/
structure Pending (w v : Wait) (deeds : List (WaitDeed ε)) : Prop where
  resource_eq : v.resource = w.resource
  bound_eq : v.bound = w.bound
  single_eq : v.single = w.single
  answers_eq : answers deeds = List.replicate v.refusals (.ok false)
  events_eq : ∃ retries, WaitEvent.Numbered w.resource v.refusals retries ∧
    events deeds = if v.refusals = 0 then [] else .began w.resource w.bound :: retries

@[simp] theorem answers_append (deeds more : List (WaitDeed ε)) :
    answers (deeds ++ more) = answers deeds ++ answers more := List.filterMap_append

@[simp] theorem events_append (deeds more : List (WaitDeed ε)) :
    events (deeds ++ more) = events deeds ++ events more := List.filterMap_append

@[simp] theorem answers_asked (state : ε) (answer : Except Fault Bool)
    (deeds : List (WaitDeed ε)) :
    answers (.asked state answer :: deeds) = answer :: answers deeds := rfl

@[simp] theorem events_asked (state : ε) (answer : Except Fault Bool) (deeds : List (WaitDeed ε)) :
    events (.asked state answer :: deeds) = events deeds := rfl

@[simp] theorem answers_told (event : WaitEvent) (deeds : List (WaitDeed ε)) :
    answers (.told event :: deeds) = answers deeds := rfl

@[simp] theorem events_told (event : WaitEvent) (deeds : List (WaitDeed ε)) :
    events (.told event :: deeds) = event :: events deeds := rfl

@[simp] theorem answers_nil : answers ([] : List (WaitDeed ε)) = [] := rfl

@[simp] theorem events_nil : events ([] : List (WaitDeed ε)) = [] := rfl

@[simp] theorem answers_telling (heard : Bool) (event : WaitEvent) :
    answers (telling heard event : List (WaitDeed ε)) = [] := by
  unfold telling
  split <;> rfl

@[simp] theorem events_telling (event : WaitEvent) :
    events (telling true event : List (WaitDeed ε)) = [event] := rfl

theorem asked_notMem_telling (state : ε) (answer : Except Fault Bool) (heard : Bool)
    (event : WaitEvent) : .asked state answer ∉ telling heard event := by
  unfold telling
  split <;> simp

@[simp] theorem answers_beganDeeds (heard : Bool) (w : Wait) :
    answers (w.beganDeeds heard : List (WaitDeed ε)) = [] := by
  unfold beganDeeds
  split <;> simp

theorem events_beganDeeds (w : Wait) :
    events (w.beganDeeds true : List (WaitDeed ε)) =
      if w.refusals = 0 then [.began w.resource w.bound] else [] := by
  unfold beganDeeds
  split <;> rfl

theorem asked_notMem_beganDeeds (state : ε) (answer : Except Fault Bool) (heard : Bool)
    (w : Wait) : .asked state answer ∉ w.beganDeeds heard := by
  unfold beganDeeds
  split
  · exact asked_notMem_telling state answer heard _
  · exact List.not_mem_nil

/-- After the refusal of its next attempt the observer of a wait has heard of its beginning and of
the retries before. -/
theorem Pending.events_begun (h : Pending w v deeds) :
    ∃ retries, WaitEvent.Numbered w.resource v.refusals retries ∧
      events deeds ++ events (v.beganDeeds true : List (WaitDeed ε)) =
        .began w.resource w.bound :: retries := by
  obtain ⟨retries, numbered, told⟩ := h.events_eq
  refine ⟨retries, numbered, ?_⟩
  rw [told, events_beganDeeds, h.resource_eq, h.bound_eq]
  by_cases first : v.refusals = 0
  · rw [first] at numbered
    cases numbered
    rw [if_pos first, if_pos first]
    rfl
  · rw [if_neg first, if_neg first, List.append_nil]

theorem pending_start (fresh : w.refusals = 0) : Pending w w ([] : List (WaitDeed ε)) := by
  refine ⟨rfl, rfl, rfl, ?_, [], ?_, ?_⟩
  · rw [fresh]
    rfl
  · rw [fresh]
    exact .nothing
  · rw [if_pos fresh]
    rfl

theorem Pending.again {length : Span} (h : Pending w v deeds)
    (round : v.Rounded true a (.pause length, v') more) : Pending w v' (deeds ++ more) := by
  cases round with
  | refused state patient answer ended =>
    cases ended with
    | pauses length elapsed remaining =>
      obtain ⟨retries, numbered, begun⟩ := h.events_begun
      refine ⟨h.resource_eq, h.bound_eq, h.single_eq, ?_, _, numbered.next elapsed remaining, ?_⟩
      · simp [h.answers_eq, List.replicate_succ']
      · rw [refusals_refused, if_neg (Nat.succ_ne_zero _), events_append, events_asked,
          events_append, ← List.append_assoc, begun, resource_refused, h.resource_eq]
        rfl

theorem Retried.pending (fresh : w.refusals = 0) (h : Retried true a w v deeds) :
    Pending w v deeds := by
  induction h with
  | start => exact pending_start fresh
  | again before round ih => exact ih.again round

/-! ## The account of a finished wait -/

/-- Nothing was told of a wait that was not refused. -/
theorem Pending.events_nil (h : Pending w v deeds) (first : v.refusals = 0) :
    events deeds = [] := by
  obtain ⟨retries, -, told⟩ := h.events_eq
  rw [told, if_pos first]

/-- A wait that ends before its next refusal has told of all refusals before. -/
theorem Pending.told {event : WaitEvent} (h : Pending w v deeds)
    (ends : WaitEvent.Ends w.resource result v.refusals v.refusals event) :
    WaitEvent.Told w.resource w.bound result v.refusals (events deeds ++ [event]) := by
  obtain ⟨retries, numbered, told⟩ := h.events_eq
  rw [told]
  by_cases first : v.refusals = 0
  · rw [if_pos first]
    rw [first] at ends ⊢
    exact .atOnce ends
  · rw [if_neg first]
    exact .waited numbered ends

/-- The account of a wait that ends with an attempt, or with none if it was stopped before. -/
theorem account_of_last {refusals : Nat} (attempts : Nat) (last : Option (Except Fault Bool))
    {answers : List (Except Fault Bool)} {events : List WaitEvent}
    (attempted : answers = List.replicate attempts (.ok false) ++ last.toList)
    (granted : result = .ok true ↔ last = some (.ok true))
    (single : result = .ok false → w.single = true)
    (faulty : ∀ fault, last = some (.error fault) → attempts = 0 ∧ result = .error fault)
    (wrong : ∀ text, result = .error (.invalidArgument text) →
      last = some (.error (.invalidArgument text)) ∧ events = [])
    (told : WaitEvent.Told w.resource w.bound result refusals events) :
    w.Account result refusals answers events := by
  subst attempted
  have passed : ∀ answer : Except Fault Bool,
      answer ∈ List.replicate attempts (.ok false) → answer = .ok false :=
    fun answer h => List.eq_of_mem_replicate h
  have member : ∀ answer : Except Fault Bool, answer ≠ .ok false →
      answer ∈ List.replicate attempts (.ok false) ++ last.toList → last = some answer := by
    intro answer other h
    rcases List.mem_append.mp h with h | h
    · exact absurd (passed answer h) other
    · exact Option.mem_toList.mp h
  have alone : ∀ fault, last = some (.error fault) →
      List.replicate attempts (.ok false) ++ last.toList = [.error fault] := by
    intro fault h
    rw [(faulty fault h).1, h]
    rfl
  refine ⟨?_, ?_, ?_, single, ?_, ?_, told⟩
  · rw [granted]
    cases last with
    | none => simp [List.getLast?_replicate]
    | some answer => simp
  · cases last with
    | none =>
      intro answer h
      rw [Option.toList_none, List.append_nil] at h
      exact passed answer ((List.dropLast_sublist _).mem h)
    | some last =>
      intro answer h
      rw [Option.toList_some, List.dropLast_concat] at h
      exact passed answer h
  · exact fun h => granted.mpr (member _ (by simp) h)
  · intro fault h
    have hlast := member _ (by simp) h
    exact ⟨alone fault hlast, (faulty fault hlast).2⟩
  · intro text h
    obtain ⟨hlast, silent⟩ := wrong text h
    exact ⟨alone _ hlast, silent⟩

/-- An asking that has a fault for one attempt has it for all of them, and it is one of the
arguments. -/
def Steady (a : Asking ε) : Prop :=
  ∀ state fault, (a.attempt state).1 = .error fault →
    (∃ text, fault = .invalidArgument text) ∧ ∀ other, (a.attempt other).1 = .error fault

/-- Rounds that ended in a pause were none at all, or an attempt was refused to a patient wait. -/
theorem Retried.nothing_or (h : Retried heard a w v deeds) :
    v.refusals = w.refusals ∨ v.single = false ∧ ∃ state, (a.attempt state).1 = .ok false := by
  cases h with
  | start => exact .inl rfl
  | again before round =>
    cases round with
    | refused state patient answer ended =>
      cases ended with
      | pauses length elapsed remaining => exact .inr ⟨patient, state, answer⟩

/-- Where no attempt of a patient wait is refused, the first round is the last. -/
theorem Retried.first (h : Retried heard a w v deeds) (fresh : w.refusals = 0)
    (never : v.single = false → ∀ state, (a.attempt state).1 ≠ .ok false) : v.refusals = 0 := by
  rcases h.nothing_or with same | ⟨patient, state, refused⟩
  · exact same.trans fresh
  · exact absurd refused (never patient state)

/-- Every finished wait has its account. -/
theorem Finished.account (steady : Steady a) (fresh : w.refusals = 0)
    (h : Finished true a w result v' deeds) :
    w.Account result v'.refusals (answers deeds) (events deeds) := by
  cases h with
  | last before round =>
    rename_i v deeds more
    have pending := before.pending fresh
    cases round with
    | stopped waited seconds =>
      refine account_of_last v'.refusals none ?_ (by simp) nofun nofun nofun ?_
      · simp [pending.answers_eq]
      · rw [events_append, pending.resource_eq]
        exact pending.told (.cancelled waited seconds)
    | failed state fault answer =>
      obtain ⟨⟨text, rfl⟩, always⟩ := steady state fault answer
      have first : v'.refusals = 0 := by
        refine before.first fresh fun _ other => ?_
        rw [always other]
        nofun
      have silent : events (deeds ++ [.asked state (.error (.invalidArgument text))]) = [] := by
        simp [pending.events_nil first]
      refine account_of_last 0 (some (.error (.invalidArgument text))) ?_ (by simp) nofun ?_ ?_ ?_
      · simp [pending.answers_eq, first]
      · rintro fault ⟨⟩
        exact ⟨rfl, rfl⟩
      · rintro text ⟨⟩
        exact ⟨rfl, silent⟩
      · rw [silent, first]
        exact .wrongArguments text
    | granted state waited answer =>
      refine account_of_last v'.refusals (some (.ok true)) ?_ (by simp) nofun nofun
        nofun ?_
      · simp [pending.answers_eq]
      · rw [events_append, pending.resource_eq]
        exact pending.told (.acquired waited)
    | refusedOnce state single answer =>
      have first : v'.refusals = 0 := by
        refine before.first fresh fun patient => ?_
        rw [single] at patient
        cases patient
      refine account_of_last v'.refusals (some (.ok false)) ?_ (by simp) ?_ nofun
        nofun ?_
      · simp [pending.answers_eq]
      · exact fun _ => pending.single_eq.symm.trans single
      · rw [events_append, pending.events_nil first, first]
        exact .answered
    | left state waited seconds answer =>
      refine account_of_last v'.refusals (some (.ok false)) ?_ (by simp) nofun nofun
        nofun ?_
      · simp [pending.answers_eq]
      · rw [events_append, pending.resource_eq]
        exact pending.told (.cancelled waited seconds)
    | refused state patient answer ended =>
      cases ended with
      | timedOut waited seconds =>
        obtain ⟨retries, numbered, begun⟩ := pending.events_begun
        refine account_of_last v.refusals (some (.ok false)) ?_ (by simp) nofun nofun
          nofun ?_
        · simp [pending.answers_eq]
        · rw [events_append, events_asked, events_append, ← List.append_assoc, begun,
            resource_refused, pending.resource_eq]
          exact .waited numbered (.timedOut waited seconds _ _)

/-- What a round has put on record as an answer is one. -/
theorem Rounded.answered {reply : Round × Wait} {state : ε} {answer : Except Fault Bool}
    (round : w.Rounded heard a reply deeds) (h : .asked state answer ∈ deeds) :
    (a.attempt state).1 = answer := by
  have only : ∀ {state' : ε} {answer' : Except Fault Bool} {told : List (WaitDeed ε)},
      (a.attempt state').1 = answer' → .asked state answer ∉ told →
        .asked state answer ∈ .asked state' answer' :: told → (a.attempt state).1 = answer := by
    intro state' answer' told answered silent h
    rcases List.mem_cons.mp h with same | h
    · cases same
      exact answered
    · exact absurd h silent
  have untold := asked_notMem_telling state answer heard
  cases round with
  | stopped waited seconds => exact absurd h (untold _)
  | failed state' fault answered => exact only answered List.not_mem_nil h
  | granted state' waited answered => exact only answered (untold _) h
  | refusedOnce state' single answered => exact only answered List.not_mem_nil h
  | left state' waited seconds answered => exact only answered (untold _) h
  | refused state' patient answered ended =>
    refine only answered ?_ h
    intro h
    rcases List.mem_append.mp h with h | h
    · exact asked_notMem_beganDeeds state answer heard _ h
    · cases ended <;> exact absurd h (untold _)

theorem Retried.answered {state : ε} {answer : Except Fault Bool} (h : Retried heard a w v deeds)
    (asked : .asked state answer ∈ deeds) : (a.attempt state).1 = answer := by
  induction h with
  | start => cases asked
  | again before round ih =>
    rcases List.mem_append.mp asked with asked | asked
    · exact ih asked
    · exact round.answered asked

theorem Finished.answered {state : ε} {answer : Except Fault Bool}
    (h : Finished heard a w result v' deeds) (asked : .asked state answer ∈ deeds) :
    (a.attempt state).1 = answer := by
  cases h with
  | last before round =>
    rcases List.mem_append.mp asked with asked | asked
    · exact before.answered asked
    · exact round.answered asked

end Wait

/-! ## Waits for a manager -/

namespace Manager

variable [Journal ε]

/-- Wrong arguments are wrong in every state, and the only fault. -/
theorem steady_asking (resource owner : String) (hold : UInt64) :
    Wait.Steady (asking resource owner hold : Asking (Manager ε)) := by
  intro m fault answer
  have attempt : (asking resource owner hold : Asking (Manager ε)).attempt =
      ask (.lock resource owner hold) := rfl
  rw [attempt] at answer ⊢
  cases hfault : (Query.lock resource owner hold).fault? with
  | some f =>
    have always : ∀ m : Manager ε, (ask (.lock resource owner hold) m).1 =
        .error (.invalidArgument f.message) := by
      intro m
      rw [ask, hfault]
      rfl
    rw [always m] at answer
    cases answer
    exact ⟨⟨_, rfl⟩, always⟩
  | none =>
    rw [ask_eq m hfault] at answer
    split at answer <;> cases answer

/-- A wait for a manager's lock that has come to a result has its account, whatever the features
answer, whenever it is stopped and however time passes.  To put it on record changes nothing
else. -/
theorem lockWithWait_account {s : Surroundings ε} (observed : s.observe.isSome) (m : Manager ε)
    (owner : String) (hold : UInt64) (rounds : Nat) {w : Wait} (fresh : w.refusals = 0)
    {result : Except Fault Bool}
    (finished : (lockWithWait s owner hold rounds w m).1.1 = some result) :
    ∃ deeds,
      w.run (within s).recorded (asking w.resource owner hold).recorded rounds (m, []) =
        ((lockWithWait s owner hold rounds w m).1,
          ((lockWithWait s owner hold rounds w m).2, deeds)) ∧
      w.Account result (lockWithWait s owner hold rounds w m).1.2.refusals (Wait.answers deeds)
        (Wait.events deeds) ∧
      ∀ fault, (Query.lock w.resource owner hold).fault? = some fault →
        Wait.answers deeds = [] ∨ result = .error (.invalidArgument fault.message) := by
  have heard : (within s).observe.isSome = true := by rwa [within, Option.isSome_map]
  obtain ⟨deeds, law, equal⟩ := Wait.records_run (within s) rounds
    (Wait.Retried.start : Wait.Retried _ (asking w.resource owner hold) w w []) m []
  have ended := law result finished
  rw [heard] at ended
  have account := ended.account (steady_asking w.resource owner hold) fresh
  refine ⟨deeds, equal, account, fun fault hfault => ?_⟩
  cases hanswers : Wait.answers deeds with
  | nil => exact .inl rfl
  | cons answer rest =>
    have member : answer ∈ Wait.answers deeds := by rw [hanswers]; exact List.mem_cons_self
    obtain ⟨deed, hdeed, heq⟩ := List.mem_filterMap.mp member
    cases deed with
    | told event => cases heq
    | asked state given =>
      cases heq
      have answered := ended.answered hdeed
      rw [show (asking w.resource owner hold : Asking (Manager ε)).attempt =
        ask (.lock w.resource owner hold) from rfl, ask, hfault] at answered
      cases answered
      exact .inr (account.faulty _ member).2

/-- A feature that grants every lock from an uptime on. -/
def gate (uptime : Nat) : Feature (List LogRecord × Nat) :=
  { Feature.passive _ "gate" with
    before := fun _ => do return .answer (.ofBool (uptime ≤ (← get).2)) }

/-- Surroundings in which time passes in pauses only. -/
def hourglass : Surroundings (List LogRecord × Nat) where
  now := do return (← get).2
  stopped := return false
  observe := some fun _ => return ()
  sleep length := modify fun s => (s.1, s.2 + length.nanos)

/-- Sixty milliseconds in front of a gate that opens after thirty. -/
def gateWait : Wait :=
  Wait.new 0 "door" (.finite (Span.ofMillis 60)) .commandLine RetrySchedule.standard

/-- A manager behind the gate. -/
def gateManager : Manager (List LogRecord × Nat) := ⟨[gate 30000000], Holders.empty, [], 0⟩

/-- Two attempts are refused, and the third, at the very end of the time, is granted. -/
theorem lockWithWait_account_gate :
    (lockWithWait hourglass "ann" 0 3 gateWait gateManager).1.1 = some (.ok true) ∧
      (lockWithWait hourglass "ann" 0 3 gateWait gateManager).1.2.refusals = 2 ∧
      gateWait.refusals = 0 ∧
      ∃ deeds,
        gateWait.run (within hourglass).recorded (asking gateWait.resource "ann" 0).recorded 3
            (gateManager, []) =
          ((lockWithWait hourglass "ann" 0 3 gateWait gateManager).1,
            ((lockWithWait hourglass "ann" 0 3 gateWait gateManager).2, deeds)) ∧
        gateWait.Account (.ok true) 2 (Wait.answers deeds) (Wait.events deeds) := by
  have granted : (lockWithWait hourglass "ann" 0 3 gateWait gateManager).1.1.bind
      Except.toOption = some true := by decide +kernel
  have finished : (lockWithWait hourglass "ann" 0 3 gateWait gateManager).1.1 =
      some (.ok true) := by
    obtain ⟨result, hresult, hgranted⟩ := Option.bind_eq_some_iff.mp granted
    cases result with
    | error fault => cases hgranted
    | ok b => cases hgranted; exact hresult
  have refusals : (lockWithWait hourglass "ann" 0 3 gateWait gateManager).1.2.refusals = 2 := by
    decide +kernel
  obtain ⟨deeds, equal, account, -⟩ :=
    lockWithWait_account rfl gateManager "ann" 0 3 rfl finished
  rw [refusals] at account
  exact ⟨finished, refusals, rfl, deeds, equal, account⟩

end Manager

end Leasehold
