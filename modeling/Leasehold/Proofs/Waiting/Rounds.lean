import Leasehold.Policy.Manager
import Leasehold.Proofs.World.Programs

/-!
# What a wait does until it ends

The attempts of a wait and the events that its observer is told of cannot be seen in its
result.  A wait on record (`Surroundings.recorded`, `Asking.recorded`) is the same wait in a
world with a list beside it, to which each attempt and each event is added.  `Records` says
of a program that the record changes nothing else, with a law for what is added; such laws are
put together as programs are (`Records.bind`).

A round has seven ends (`Wait.Rounded`), of which one is a pause.  What it adds to the record
depends on whether anybody hears of its events.
-/

namespace Leasehold

/-- Something that a wait does and that others see. -/
inductive WaitDeed (ε : Type) where
  /-- It asks for the lock in a state, and gets an answer. -/
  | asked (state : ε) (answer : Except Fault Bool)
  /-- It tells its observer of an event. -/
  | told (event : WaitEvent)

namespace WaitDeed

variable {ε : Type}

/-- The answer to an attempt. -/
def answer? : WaitDeed ε → Option (Except Fault Bool)
  | asked _ answer => some answer
  | told _ => none

/-- The event that was told. -/
def event? : WaitDeed ε → Option WaitEvent
  | asked _ _ => none
  | told event => some event

end WaitDeed

/-! ## Programs on record -/

variable {ε : Type}

/-- A state with the deeds so far. -/
abbrev OnRecord (ε : Type) := ε × List (WaitDeed ε)

/-- A program that leaves the record alone. -/
def offRecord {α : Type} (step : StateM ε α) : StateM (OnRecord ε) α :=
  Feature.part Prod.fst (fun state r => (state, r.2)) step

/-- The same surroundings with all events on record. -/
def Surroundings.recorded (s : Surroundings ε) : Surroundings (OnRecord ε) where
  now := offRecord s.now
  stopped := offRecord s.stopped
  observe := s.observe.map fun observe event r =>
    ((), ((observe event r.1).2, r.2 ++ [.told event]))
  sleep length := offRecord (s.sleep length)

/-- The same asking with all attempts on record. -/
def Asking.recorded (a : Asking ε) : Asking (OnRecord ε) where
  attempt r :=
    let reply := a.attempt r.1
    (reply.1, (reply.2, r.2 ++ [.asked r.1 reply.1]))
  granted refusals waited := offRecord (a.granted refusals waited)

/-- A program on record does what the plain one does, and adds deeds to the record of which a law
holds. -/
def Records {α : Type} (plain : StateM ε α) (recorded : StateM (OnRecord ε) α)
    (law : α → List (WaitDeed ε) → Prop) : Prop :=
  ∀ state earlier, ∃ deeds, law (plain state).1 deeds ∧
    recorded (state, earlier) = ((plain state).1, ((plain state).2, earlier ++ deeds))

namespace Records

variable {α β : Type} {plain : StateM ε α} {recorded : StateM (OnRecord ε) α}
  {law law' : α → List (WaitDeed ε) → Prop}

theorem imp (weaker : ∀ a deeds, law a deeds → law' a deeds) (h : Records plain recorded law) :
    Records plain recorded law' := by
  intro state earlier
  obtain ⟨deeds, holds, equal⟩ := h state earlier
  exact ⟨deeds, weaker _ _ holds, equal⟩

theorem pure (a : α) (holds : law a []) :
    Records (Pure.pure a : StateM ε α) (Pure.pure a) law := by
  intro state earlier
  exact ⟨[], holds, by rw [List.append_nil]; rfl⟩

/-- What is left off the record adds nothing to it. -/
theorem off (plain : StateM ε α) :
    Records plain (offRecord plain) fun _ deeds => deeds = [] := by
  intro state earlier
  exact ⟨[], rfl, by rw [List.append_nil]; rfl⟩

/-- One program after another adds the deeds of both. -/
theorem bind {next : α → StateM ε β} {next' : α → StateM (OnRecord ε) β}
    {after : β → List (WaitDeed ε) → Prop} (h : Records plain recorded law)
    (h' : ∀ a deeds, law a deeds →
      Records (next a) (next' a) fun b more => after b (deeds ++ more)) :
    Records (plain >>= next) (recorded >>= next') after := by
  intro state earlier
  obtain ⟨deeds, holds, equal⟩ := h state earlier
  obtain ⟨more, holds', equal'⟩ := h' _ deeds holds (plain state).2 (earlier ++ deeds)
  refine ⟨deeds ++ more, holds', ?_⟩
  rw [Program.bind_at, Program.bind_at, equal, equal', List.append_assoc]

end Records

namespace Wait

/-! ## The parts of a round -/

/-- Tells the observer of the first refusal that the wait begins. -/
def tellBegan (s : Surroundings ε) (w : Wait) : StateM ε Unit :=
  match s.observe with
  | some observe => if w.refusals = 0 then observe (.began w.resource w.bound) else pure ()
  | none => pure ()

/-- Ends a wait that has used up its time, or says how long it pauses; `w` is the wait after the
refusal. -/
def goOn (s : Surroundings ε) (pause : Span) (w : Wait) : StateM ε (Round × Wait) := do
  match w.deadline with
  | none =>
    w.tell s fun waited => .retrying w.resource w.refusals waited none
    return (.pause pause, w)
  | some deadline =>
    let left := Span.saturate (deadline - (← s.now))
    if left = Span.zero then
      return (.finished (.error (← w.timedOut s)), w)
    w.tell s fun waited => .retrying w.resource w.refusals waited (some left)
    return (.pause (pause.shorter left), w)

theorem afterRefusal_eq (s : Surroundings ε) (w : Wait) :
    w.afterRefusal s =
      (if w.single then pure (.finished (.ok false), w)
      else do
        match ← w.checkStop s with
        | some fault => return (.finished (.error fault), w)
        | none =>
          w.tellBegan s
          w.refused.goOn s w.schedule.next) := by
  unfold afterRefusal tellBegan
  split
  · rfl
  · congr 1
    funext fault?
    cases fault? with
    | some fault => rfl
    | none =>
      by_cases first : w.refusals = 0
      · simp only [first, if_true]
        cases s.observe <;> rfl
      · simp only [first, if_false]
        cases s.observe <;> rfl

/-- What an event adds to the record, if somebody hears of it. -/
def telling (heard : Bool) (event : WaitEvent) : List (WaitDeed ε) :=
  if heard then [.told event] else []

/-- What is added for the first refusal. -/
def beganDeeds (heard : Bool) (w : Wait) : List (WaitDeed ε) :=
  if w.refusals = 0 then telling heard (.began w.resource w.bound) else []

/-- The end of a check whether the wait shall stop. -/
inductive Checked (heard : Bool) (w : Wait) : Option Fault → List (WaitDeed ε) → Prop where
  | goesOn : Checked heard w none []
  | stopped (waited : Span) (seconds : Binary64) :
    Checked heard w (some (.cancelled w.resource seconds))
      (telling heard (.cancelled w.resource waited))

/-- The end of a round that was refused, for the wait after the refusal. -/
inductive WentOn (heard : Bool) (w : Wait) : Round × Wait → List (WaitDeed ε) → Prop where
  | timedOut (waited : Span) (seconds : Binary64) :
    WentOn heard w (.finished (.error (.timedOut w.resource seconds w.bound w.source)), w)
      (telling heard (.timedOut w.resource waited))
  | pauses (length : Span) (elapsed : Span) (remaining : Option Span) :
    WentOn heard w (.pause length, w)
      (telling heard (.retrying w.resource w.refusals elapsed remaining))

/-- The ends of a round. -/
inductive Rounded (heard : Bool) (a : Asking ε) (w : Wait) :
    Round × Wait → List (WaitDeed ε) → Prop where
  /-- It was stopped before its attempt. -/
  | stopped (waited : Span) (seconds : Binary64) :
    Rounded heard a w (.finished (.error (.cancelled w.resource seconds)), w)
      (telling heard (.cancelled w.resource waited))
  | failed (state : ε) (fault : Fault) (answer : (a.attempt state).1 = .error fault) :
    Rounded heard a w (.finished (.error fault), w) [.asked state (.error fault)]
  | granted (state : ε) (waited : Span) (answer : (a.attempt state).1 = .ok true) :
    Rounded heard a w (.finished (.ok true), w)
      (.asked state (.ok true) :: telling heard (.acquired w.resource waited))
  | refusedOnce (state : ε) (single : w.single = true) (answer : (a.attempt state).1 = .ok false) :
    Rounded heard a w (.finished (.ok false), w) [.asked state (.ok false)]
  /-- It was stopped after its attempt. -/
  | left (state : ε) (waited : Span) (seconds : Binary64)
    (answer : (a.attempt state).1 = .ok false) :
    Rounded heard a w (.finished (.error (.cancelled w.resource seconds)), w)
      (.asked state (.ok false) :: telling heard (.cancelled w.resource waited))
  | refused (state : ε) {reply : Round × Wait} {deeds : List (WaitDeed ε)}
    (patient : w.single = false) (answer : (a.attempt state).1 = .ok false)
    (ended : WentOn heard w.refused reply deeds) :
    Rounded heard a w reply (.asked state (.ok false) :: (w.beganDeeds heard ++ deeds))

/-! ## Rounds on record -/

variable (s : Surroundings ε) (w : Wait)

theorem records_waited :
    Records (w.waited s) (w.waited s.recorded) fun _ deeds => deeds = [] := by
  refine .bind (.off s.now) ?_
  rintro now deeds rfl
  exact .pure _ rfl

theorem records_tell (event : Span → WaitEvent) :
    Records (w.tell s event) (w.tell s.recorded event) fun _ deeds =>
      ∃ waited, deeds = telling s.observe.isSome (event waited) := by
  cases observed : s.observe with
  | none =>
    simp only [tell, Surroundings.recorded, observed, Option.map_none]
    exact .pure _ ⟨Span.zero, rfl⟩
  | some observe =>
    simp only [tell, Surroundings.recorded, observed, Option.map_some]
    refine .bind (records_waited s w) ?_
    rintro waited deeds rfl
    exact fun state earlier => ⟨_, ⟨waited, rfl⟩, rfl⟩

theorem records_checkStop :
    Records (w.checkStop s) (w.checkStop s.recorded) (w.Checked s.observe.isSome) := by
  refine .bind (.off s.stopped) ?_
  rintro stopped deeds rfl
  cases stopped with
  | false => exact .pure _ .goesOn
  | true =>
    refine .bind (records_tell s w _) ?_
    rintro ⟨⟩ deeds ⟨waited, rfl⟩
    refine .bind (records_waited s w) ?_
    rintro later more rfl
    refine .pure _ ?_
    rw [List.nil_append, List.append_nil, List.append_nil]
    exact .stopped waited later.toBinary64

theorem records_timedOut :
    Records (w.timedOut s) (w.timedOut s.recorded) fun fault deeds => ∃ waited seconds,
      fault = .timedOut w.resource seconds w.bound w.source ∧
        deeds = telling s.observe.isSome (.timedOut w.resource waited) := by
  refine .bind (records_tell s w _) ?_
  rintro ⟨⟩ deeds ⟨waited, rfl⟩
  refine .bind (records_waited s w) ?_
  rintro later more rfl
  refine .pure _ ⟨waited, later.toBinary64, rfl, ?_⟩
  rw [List.append_nil, List.append_nil]

theorem records_tellBegan :
    Records (w.tellBegan s) (w.tellBegan s.recorded) fun _ deeds =>
      deeds = w.beganDeeds s.observe.isSome := by
  unfold tellBegan beganDeeds
  cases observed : s.observe with
  | none =>
    simp only [Surroundings.recorded, observed, Option.map_none]
    exact .pure _ (by split <;> rfl)
  | some observe =>
    simp only [Surroundings.recorded, observed, Option.map_some]
    by_cases first : w.refusals = 0
    · simp only [first, if_true]
      exact fun state earlier => ⟨_, rfl, rfl⟩
    · simp only [first, if_false]
      exact .pure _ rfl

theorem records_goOn (pause : Span) :
    Records (w.goOn s pause) (w.goOn s.recorded pause) (w.WentOn s.observe.isSome) := by
  unfold goOn
  cases w.deadline with
  | none =>
    refine .bind (records_tell s w _) ?_
    rintro ⟨⟩ deeds ⟨waited, rfl⟩
    refine .pure _ ?_
    rw [List.append_nil]
    exact .pauses pause waited none
  | some deadline =>
    refine .bind (.off s.now) ?_
    rintro now deeds rfl
    dsimp only
    split
    · refine .bind (records_timedOut s w) ?_
      rintro fault deeds ⟨waited, seconds, rfl, rfl⟩
      refine .pure _ ?_
      rw [List.nil_append, List.append_nil]
      exact .timedOut waited seconds
    · refine .bind (records_tell s w _) ?_
      rintro ⟨⟩ deeds ⟨waited, rfl⟩
      refine .pure _ ?_
      rw [List.nil_append, List.append_nil]
      exact .pauses _ waited _

theorem records_attempt (a : Asking ε) :
    Records a.attempt a.recorded.attempt fun answer deeds =>
      ∃ state, (a.attempt state).1 = answer ∧ deeds = [.asked state answer] :=
  fun state _ => ⟨_, ⟨state, rfl, rfl⟩, rfl⟩

/-- A refusal on record ends the round, or begins a pause. -/
theorem records_afterRefusal (a : Asking ε) (state : ε)
    (answered : (a.attempt state).1 = .ok false) :
    Records (w.afterRefusal s) (w.afterRefusal s.recorded) fun reply deeds =>
      w.Rounded s.observe.isSome a reply (.asked state (.ok false) :: deeds) := by
  rw [afterRefusal_eq, afterRefusal_eq]
  by_cases single : w.single = true
  · rw [if_pos single, if_pos single]
    exact .pure _ (.refusedOnce state single answered)
  · rw [if_neg single, if_neg single]
    refine .bind (records_checkStop s w) ?_
    rintro fault? deeds (_ | ⟨waited, seconds⟩)
    · refine .bind (records_tellBegan s w) ?_
      rintro ⟨⟩ deeds rfl
      exact (records_goOn s w.refused w.schedule.next).imp fun reply deeds ended =>
        .refused state (eq_false_of_ne_true single) answered ended
    · refine .pure _ ?_
      rw [List.append_nil]
      exact .left state waited seconds answered

/-- A round on record has one of the ends. -/
theorem records_round (a : Asking ε) :
    Records (w.round s a) (w.round s.recorded a.recorded) (w.Rounded s.observe.isSome a) := by
  refine .bind (records_checkStop s w) ?_
  rintro fault? deeds (_ | ⟨waited, seconds⟩)
  · refine .bind (records_attempt a) ?_
    rintro answer deeds ⟨state, answered, rfl⟩
    cases answer with
    | error fault => exact .pure _ (.failed state fault answered)
    | ok granted =>
      cases granted with
      | true =>
        refine .bind (records_waited s w) ?_
        rintro waited deeds rfl
        refine .bind (.off _) ?_
        rintro ⟨⟩ deeds rfl
        refine .bind (records_tell s w _) ?_
        rintro ⟨⟩ deeds ⟨later, rfl⟩
        refine .pure _ ?_
        simp only [List.nil_append, List.append_nil, List.cons_append]
        exact .granted state later answered
      | false => exact records_afterRefusal s w a state answered
  · refine .pure _ ?_
    rw [List.append_nil]
    exact .stopped waited seconds

end Wait

end Leasehold
