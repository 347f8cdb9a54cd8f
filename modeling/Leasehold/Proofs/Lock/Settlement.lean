import Leasehold.Lock.Future

/-!
# How an attempt in the background comes to its end

A worker and its waiter act on one slot in any order.  The worker settles the slot
once its work has an answer, and gives back what it acquired if it finds its waiter
gone.  The waiter looks at the slot as often as it likes, and then takes its leave
in one of three ways: with the answer, without it, or without a word.

`Meeting` is an attempt with the two who meet in it.  `Meeting.Course` lists what
the events of a run can be, with the state that goes with them: seven courses, by
what has happened to the slot and in which order.  Each step leads from one of them
to another (`Fits.step`), and what holds of all runs is read off the courses.  That looks show
the answer from the settlement on (`LooksTell`) is read off them, too.
-/

namespace Leasehold

/-- How far a worker is. -/
inductive WorkerStage where
  /-- Its slot is not settled yet. -/
  | working
  /-- It has found its waiter gone, and has something to give back. -/
  | givingBack
  | finished
  deriving DecidableEq

/-- An attempt in the background, and the two who meet in it. -/
structure Meeting (ε : Type) where
  outer : ε
  /-- What the work comes to. -/
  result : WorkResult
  future : LockFuture
  worker : WorkerStage
  /-- The waiter has not taken its leave yet. -/
  waiting : Bool

namespace Meeting

/-- What can happen next. -/
inductive Move where
  /-- The worker takes its next step. -/
  | work
  /-- The waiter looks at the answer. -/
  | poll
  /-- The waiter waits to the end: to the answer or to the bound. -/
  | wait (bound : WaitBound)
  /-- The waiter goes away without a word. -/
  | drop
  deriving DecidableEq

/-- What has happened. -/
inductive Event where
  | settled
  | gaveBack
  | polled (answer : Option Bool)
  | waited (answer : Bool)
  | dropped
  deriving DecidableEq

namespace Event

/-- The waiter takes its leave. -/
def isDeparture : Event → Bool
  | waited _ | dropped => true
  | settled | gaveBack | polled _ => false

/-- What a look at the answer has shown. -/
def poll? : Event → Option (Option Bool)
  | polled answer => some answer
  | settled | gaveBack | waited _ | dropped => none

/-- The waiter takes its leave, and if it waited it has this answer. -/
inductive Leaves (answer : Bool) : Event → Prop where
  | waited : Leaves answer (.waited answer)
  | dropped : Leaves answer .dropped

end Event

variable {ε : Type}

/-- An attempt that has just begun. -/
def begun (resource : String) (result : WorkResult) (outer : ε) : Meeting ε :=
  { outer, result, future := .spawn resource, worker := .working, waiting := true }

variable [Journal ε]

/-- What happens in a move, if anything, and the meeting after it.  A wait without a bound goes
on while there is no answer, and at its end the future is thrown away. -/
def step (m : Meeting ε) : Move → Option Event × Meeting ε
  | .work =>
    match m.worker with
    | .working =>
      let ((giveBack, future), outer) := m.future.settle m.result m.outer
      (some .settled,
        { m with outer, future, worker := if giveBack then .givingBack else .finished })
    | .givingBack => (some .gaveBack, { m with worker := .finished })
    | .finished => (none, m)
  | .poll => if m.waiting then (some (.polled m.future.slot.poll), m) else (none, m)
  | .wait bound =>
    if m.waiting && !(m.future.slot = .pending && bound.isInfinite) then
      let ((answer, future), outer) := m.future.wait bound m.outer
      (some (.waited answer), { m with outer, future := future.abandon, waiting := false })
    else (none, m)
  | .drop =>
    if m.waiting then
      (some .dropped, { m with future := m.future.abandon, waiting := false })
    else (none, m)

/-- The events of a run, and the meeting after it. -/
def run (m : Meeting ε) : List Move → List Event × Meeting ε
  | [] => ([], m)
  | move :: moves =>
    let (event?, m) := m.step move
    let (events, m) := m.run moves
    (event?.toList ++ events, m)

@[simp] theorem run_cons (m : Meeting ε) (move : Move) (moves : List Move) :
    m.run (move :: moves) =
      ((m.step move).1.toList ++ ((m.step move).2.run moves).1, ((m.step move).2.run moves).2) :=
  rfl

/-! ## What a step does to the slot -/

theorem settle_fst (f : LockFuture) (result : WorkResult) (outer : ε) :
    (f.settle result outer).1 =
      ((f.slot.settle result.granted).2, { f with slot := (f.slot.settle result.granted).1 }) := by
  obtain ⟨resource, slot⟩ := f
  cases result with
  | crashed => cases slot <;> rfl
  | answered granted =>
    cases slot with
    | pending => rfl
    | abandoned => cases granted <;> rfl
    | answered known => rfl

theorem wait_fst (f : LockFuture) (bound : WaitBound) (outer : ε) :
    (f.wait bound outer).1 = (f.slot.leave.1, { f with slot := f.slot.leave.2 }) := by
  obtain ⟨resource, slot⟩ := f
  cases slot <;> rfl

/-- Once the waiter has taken its leave, throwing the future away changes nothing more. -/
@[simp] theorem leave_leave (slot : Slot) : slot.leave.2.leave.2 = slot.leave.2 := by
  cases slot <;> rfl

theorem step_working {m : Meeting ε} (h : m.worker = .working) :
    (m.step .work).1 = some .settled ∧
      (m.step .work).2.future.slot = (m.future.slot.settle m.result.granted).1 ∧
      (m.step .work).2.worker =
        (if (m.future.slot.settle m.result.granted).2 then .givingBack else .finished) ∧
      (m.step .work).2.waiting = m.waiting := by
  have answer := settle_fst m.future m.result m.outer
  simp only [step, h]
  generalize m.future.settle m.result m.outer = reply at answer
  obtain ⟨⟨giveBack, future⟩, outer⟩ := reply
  cases answer
  exact ⟨rfl, rfl, rfl, rfl⟩

theorem step_wait {m : Meeting ε} {bound : WaitBound} (h : m.waiting = true)
    (ended : m.future.slot = .pending → bound.isInfinite = false) :
    (m.step (.wait bound)).1 = some (.waited m.future.slot.leave.1) ∧
      (m.step (.wait bound)).2.future.slot = m.future.slot.leave.2 ∧
      (m.step (.wait bound)).2.worker = m.worker ∧
      (m.step (.wait bound)).2.waiting = false := by
  have answer := wait_fst m.future bound m.outer
  have ends : (m.waiting && !(m.future.slot = .pending && bound.isInfinite)) = true := by
    by_cases pending : m.future.slot = .pending
    · simp [h, ended pending]
    · simp [h, pending]
  simp only [step, ends, if_true]
  generalize m.future.wait bound m.outer = reply at answer
  obtain ⟨⟨given, future⟩, outer⟩ := reply
  cases answer
  exact ⟨rfl, leave_leave _, rfl, rfl⟩

theorem step_wait_pending {m : Meeting ε} {bound : WaitBound} (pending : m.future.slot = .pending)
    (endless : bound.isInfinite = true) : m.step (.wait bound) = (none, m) := by
  simp [step, pending, endless]

@[simp] theorem result_step (m : Meeting ε) (move : Move) : (m.step move).2.result = m.result := by
  cases move with
  | work => simp only [step]; split <;> rfl
  | poll => simp only [step]; split <;> rfl
  | wait bound => simp only [step]; split <;> rfl
  | drop => simp only [step]; split <;> rfl

@[simp] theorem result_run (m : Meeting ε) (moves : List Move) :
    (m.run moves).2.result = m.result := by
  induction moves generalizing m with
  | nil => rfl
  | cons move moves ih => exact (ih _).trans (result_step m move)

/-- A worker is done two steps on at the latest, as the waiter cannot hold it up. -/
theorem worker_run_work (m : Meeting ε) : (m.run [.work, .work]).2.worker = .finished := by
  show ((m.step .work).2.step .work).2.worker = .finished
  have done : ∀ m : Meeting ε, m.worker ≠ .working → (m.step .work).2.worker = .finished := by
    intro m hm
    cases hw : m.worker with
    | working => exact absurd hw hm
    | givingBack => simp [step, hw]
    | finished => simp [step, hw]
  refine done _ ?_
  cases hw : m.worker with
  | working =>
    rw [(step_working hw).2.2.1]
    split <;> nofun
  | givingBack => rw [done m (by simp [hw])]; nofun
  | finished => rw [done m (by simp [hw])]; nofun

/-! ## The courses of a run -/

/-- The events of a run with the slot, the stage of the worker and whether the waiter is there,
where the work comes to `granted`. -/
inductive Course (granted : Bool) : List Event → Slot → WorkerStage → Bool → Prop where
  | open (looks : Nat) :
      Course granted (List.replicate looks (.polled none)) .pending .working true
  | left (looks : Nat) (leave : Event) (leaves : leave.Leaves false) :
      Course granted (List.replicate looks (.polled none) ++ [leave]) .abandoned .working false
  | answered (looks known : Nat) :
      Course granted (List.replicate looks (.polled none) ++
        .settled :: List.replicate known (.polled (some granted)))
        (.answered granted) .finished true
  | taken (looks known : Nat) (leave : Event) (leaves : leave.Leaves granted) :
      Course granted (List.replicate looks (.polled none) ++
        .settled :: List.replicate known (.polled (some granted)) ++ [leave])
        (.answered granted) .finished false
  | vain (looks : Nat) (leave : Event) (leaves : leave.Leaves false) (refused : granted = false) :
      Course granted (List.replicate looks (.polled none) ++ [leave, .settled])
        .abandoned .finished false
  | owing (looks : Nat) (leave : Event) (leaves : leave.Leaves false) (acquired : granted = true) :
      Course granted (List.replicate looks (.polled none) ++ [leave, .settled])
        .abandoned .givingBack false
  | returned (looks : Nat) (leave : Event) (leaves : leave.Leaves false)
      (acquired : granted = true) :
      Course granted (List.replicate looks (.polled none) ++ [leave, .settled, .gaveBack])
        .abandoned .finished false

/-- The events of a run so far go with the meeting. -/
def Fits (past : List Event) (m : Meeting ε) : Prop :=
  Course m.result.granted past m.future.slot m.worker m.waiting

variable {m : Meeting ε} {past : List Event}

theorem Fits.work (h : m.Fits past) :
    (m.step .work).2.Fits (past ++ (m.step .work).1.toList) := by
  unfold Fits at h ⊢
  rw [result_step]
  cases hw : m.worker with
  | working =>
    obtain ⟨event, slot, worker, waiting⟩ := step_working hw
    rw [event, slot, worker, waiting]
    rw [hw] at h
    generalize m.future.slot = slot, m.waiting = waiting, m.result.granted = granted at h ⊢
    cases h with
    | «open» looks => exact .answered looks 0
    | left looks leave leaves =>
      rw [List.append_assoc]
      cases granted with
      | false => exact .vain looks leave leaves rfl
      | true => exact .owing looks leave leaves rfl
  | givingBack =>
    simp only [step, hw]
    rw [hw] at h
    generalize m.future.slot = slot, m.waiting = waiting, m.result.granted = granted at h ⊢
    cases h with
    | owing looks leave leaves acquired =>
      simpa using Course.returned looks leave leaves acquired
  | finished => simpa [step, hw] using h

theorem Fits.poll (h : m.Fits past) :
    (m.step .poll).2.Fits (past ++ (m.step .poll).1.toList) := by
  cases hw : m.waiting with
  | false => simpa [step, hw] using h
  | true =>
    simp only [step, hw, if_true, Option.toList_some]
    unfold Fits at h ⊢
    rw [hw] at h
    rw [hw]
    generalize m.future.slot = slot, m.worker = worker, m.result.granted = granted at h ⊢
    cases h with
    | «open» looks =>
      show Course granted (List.replicate looks (.polled none) ++ [.polled none]) _ _ _
      rw [← List.replicate_succ']
      exact .open (looks + 1)
    | answered looks known =>
      rw [List.append_assoc, List.cons_append]
      show Course granted (_ ++ .settled :: (List.replicate known (.polled (some granted)) ++
        [.polled (some granted)])) _ _ _
      rw [← List.replicate_succ']
      exact .answered looks (known + 1)

/-- The waiter takes its leave with the answer that the slot gives, or without a word. -/
theorem Course.leave {granted : Bool} {slot : Slot} {worker : WorkerStage}
    (h : Course granted past slot worker true) {leave : Event}
    (leaves : leave.Leaves slot.leave.1) :
    Course granted (past ++ [leave]) slot.leave.2 worker false := by
  cases h with
  | «open» looks => exact .left looks leave leaves
  | answered looks known => exact .taken looks known leave leaves

theorem Fits.wait (h : m.Fits past) (bound : WaitBound) :
    (m.step (.wait bound)).2.Fits (past ++ (m.step (.wait bound)).1.toList) := by
  cases hw : m.waiting with
  | false => simpa [step, hw] using h
  | true =>
    by_cases endless : m.future.slot = .pending ∧ bound.isInfinite = true
    · rw [step_wait_pending endless.1 endless.2]
      simpa using h
    · have ended : m.future.slot = .pending → bound.isInfinite = false :=
        fun pending => Bool.eq_false_iff.mpr fun infinite => endless ⟨pending, infinite⟩
      obtain ⟨event, slot, worker, waiting⟩ := step_wait hw ended
      unfold Fits at h ⊢
      rw [result_step, event, slot, worker, waiting]
      rw [hw] at h
      exact h.leave .waited

theorem Fits.drop (h : m.Fits past) :
    (m.step .drop).2.Fits (past ++ (m.step .drop).1.toList) := by
  cases hw : m.waiting with
  | false => simpa [step, hw] using h
  | true =>
    simp only [step, hw, if_true, Option.toList_some]
    unfold Fits at h ⊢
    rw [hw] at h
    exact h.leave .dropped

/-- What one step preserves, whoever takes it. -/
theorem Fits.step (h : m.Fits past) (move : Move) :
    (m.step move).2.Fits (past ++ (m.step move).1.toList) := by
  cases move with
  | work => exact h.work
  | poll => exact h.poll
  | wait bound => exact h.wait bound
  | drop => exact h.drop

theorem Fits.run (h : m.Fits past) (moves : List Move) :
    (m.run moves).2.Fits (past ++ (m.run moves).1) := by
  induction moves generalizing m past with
  | nil => simpa [Meeting.run] using h
  | cons move moves ih =>
    have next := ih (h.step move)
    rw [List.append_assoc] at next
    exact next

/-- A slot that is no longer pending stays as it is. -/
theorem Fits.slot_step (h : m.Fits past) (ended : m.future.slot ≠ .pending) (move : Move) :
    (m.step move).2.future.slot = m.future.slot := by
  have kept : ∀ slot : Slot, slot ≠ .pending → slot.leave.2 = slot := by
    intro slot hslot
    cases slot with
    | pending => exact absurd rfl hslot
    | abandoned => rfl
    | answered granted => rfl
  cases move with
  | work =>
    cases hw : m.worker with
    | working =>
      rw [(step_working hw).2.1]
      unfold Fits at h
      rw [hw] at h
      generalize m.future.slot = slot, m.waiting = waiting at h ended ⊢
      cases h with
      | «open» looks => exact absurd rfl ended
      | left looks leave leaves => rfl
    | givingBack => simp [Meeting.step, hw]
    | finished => simp [Meeting.step, hw]
  | poll => simp only [Meeting.step]; split <;> rfl
  | wait bound =>
    cases hw : m.waiting with
    | false => simp [Meeting.step, hw]
    | true =>
      rw [(step_wait hw fun pending => absurd pending ended).2.1]
      exact kept _ ended
  | drop =>
    simp only [Meeting.step]
    split
    · exact kept _ ended
    · rfl

theorem Fits.slot_run (h : m.Fits past) (ended : m.future.slot ≠ .pending) (moves : List Move) :
    (m.run moves).2.future.slot = m.future.slot := by
  induction moves generalizing m past with
  | nil => rfl
  | cons move moves ih =>
    have same := h.slot_step ended move
    exact (ih (h.step move) (same ▸ ended)).trans same

/-! ## Who learns how the work ended -/

/-- Two meetings that differ at most in what was noted down and in how a refusal came about. -/
structure Alike (m m' : Meeting ε) : Prop where
  granted : m'.result.granted = m.result.granted
  slot : m'.future.slot = m.future.slot
  worker : m'.worker = m.worker
  waiting : m'.waiting = m.waiting

theorem Alike.step {m' : Meeting ε} (h : m.Alike m') (move : Move) :
    (m'.step move).1 = (m.step move).1 ∧ (m.step move).2.Alike (m'.step move).2 := by
  cases move with
  | work =>
    cases hw : m.worker with
    | working =>
      obtain ⟨event, slot, worker, waiting⟩ := step_working hw
      obtain ⟨event', slot', worker', waiting'⟩ := step_working (h.worker.trans hw)
      refine ⟨event'.trans event.symm, by simpa using h.granted, ?_, ?_, ?_⟩
      · rw [slot', slot, h.slot, h.granted]
      · rw [worker', worker, h.slot, h.granted]
      · rw [waiting', waiting, h.waiting]
    | givingBack =>
      simp only [Meeting.step, hw, h.worker]
      exact ⟨trivial, h.granted, h.slot, rfl, h.waiting⟩
    | finished =>
      simp only [Meeting.step, hw, h.worker]
      exact ⟨trivial, h⟩
  | poll =>
    simp only [Meeting.step, h.waiting, h.slot]
    split
    · exact ⟨rfl, h⟩
    · exact ⟨rfl, h⟩
  | wait bound =>
    cases hw : m.waiting with
    | false =>
      simp only [Meeting.step, hw, h.waiting, Bool.false_and, Bool.false_eq_true, if_false]
      exact ⟨trivial, h⟩
    | true =>
      by_cases endless : m.future.slot = .pending ∧ bound.isInfinite = true
      · rw [step_wait_pending endless.1 endless.2,
          step_wait_pending (h.slot.trans endless.1) endless.2]
        exact ⟨rfl, h⟩
      · have ended : m.future.slot = .pending → bound.isInfinite = false :=
          fun pending => Bool.eq_false_iff.mpr fun infinite => endless ⟨pending, infinite⟩
        obtain ⟨event, slot, worker, waiting⟩ := step_wait hw ended
        obtain ⟨event', slot', worker', waiting'⟩ :=
          step_wait (h.waiting.trans hw) (h.slot ▸ ended)
        refine ⟨?_, by simpa using h.granted, ?_, ?_, waiting'.trans waiting.symm⟩
        · rw [event', event, h.slot]
        · rw [slot', slot, h.slot]
        · rw [worker', worker, h.worker]
  | drop =>
    simp only [Meeting.step, h.waiting]
    split
    · refine ⟨rfl, h.granted, ?_, h.worker, rfl⟩
      simp [LockFuture.abandon, h.slot]
    · exact ⟨rfl, h⟩

theorem Alike.run {m' : Meeting ε} (h : m.Alike m') (moves : List Move) :
    (m'.run moves).1 = (m.run moves).1 ∧ (m.run moves).2.Alike (m'.run moves).2 := by
  induction moves generalizing m m' with
  | nil => exact ⟨rfl, h⟩
  | cons move moves ih =>
    obtain ⟨event, next⟩ := h.step move
    obtain ⟨events, last⟩ := ih next
    rw [run_cons, run_cons, event, events]
    exact ⟨rfl, last⟩

/-! ## What the looks show -/

/-- A look shows nothing as long as the worker has not settled, and the answer from then on. -/
def LooksTell (granted : Bool) (events : List Event) : Prop :=
  ∀ before shown after, events = before ++ .polled shown :: after →
    shown = if .settled ∈ before then some granted else none

namespace LooksTell

variable {granted : Bool}

theorem concat {event : Event} (h : LooksTell granted past)
    (tells : ∀ shown, event = .polled shown →
      shown = if .settled ∈ past then some granted else none) :
    LooksTell granted (past ++ [event]) := by
  intro before shown after split
  rcases List.eq_nil_or_concat after with rfl | ⟨rest, last, rfl⟩
  · obtain ⟨rfl, same⟩ := List.append_inj' split rfl
    exact tells shown (List.singleton_inj.mp same)
  · rw [List.concat_eq_append, ← List.cons_append, ← List.append_assoc] at split
    obtain ⟨rfl, -⟩ := List.append_inj' split rfl
    exact h before shown rest rfl

theorem leave (h : LooksTell granted past) {event : Event} {answer : Bool}
    (leaves : event.Leaves answer) : LooksTell granted (past ++ [event]) :=
  h.concat fun _ look => by subst look; cases leaves

theorem settled (h : LooksTell granted past) : LooksTell granted (past ++ [.settled]) :=
  h.concat nofun

theorem gaveBack (h : LooksTell granted past) : LooksTell granted (past ++ [.gaveBack]) :=
  h.concat nofun

/-- Looks that show what looks at this moment show. -/
theorem looks (h : LooksTell granted past) (looks : Nat) {shown : Option Bool}
    (tells : shown = if .settled ∈ past then some granted else none) :
    LooksTell granted (past ++ List.replicate looks (.polled shown)) := by
  induction looks with
  | zero => simpa using h
  | succ looks ih =>
    rw [List.replicate_succ', ← List.append_assoc]
    refine ih.concat fun other same => ?_
    have settled : .settled ∈ past ++ List.replicate looks (.polled shown) ↔
        Event.settled ∈ past := by simp
    rw [← Event.polled.inj same]
    simpa only [settled] using tells

theorem nothing (granted : Bool) (looks : Nat) :
    LooksTell granted (List.replicate looks (.polled none)) := by
  have start : LooksTell granted [] := fun before shown after split => by simp at split
  exact start.looks looks rfl

end LooksTell

/-- Looks after the settlement. -/
theorem LooksTell.known {granted : Bool} (looks known : Nat) :
    LooksTell granted (List.replicate looks (.polled none) ++
      .settled :: List.replicate known (.polled (some granted))) := by
  have told : LooksTell granted (List.replicate looks (.polled none) ++ [.settled] ++
      List.replicate known (.polled (some granted))) :=
    (LooksTell.nothing granted looks).settled.looks known (by simp)
  rwa [List.append_assoc] at told

theorem Course.looksTell {granted : Bool} {slot : Slot} {worker : WorkerStage} {waiting : Bool}
    (h : Course granted past slot worker waiting) : LooksTell granted past := by
  cases h with
  | «open» looks => exact .nothing granted looks
  | left looks leave leaves => exact (LooksTell.nothing granted looks).leave leaves
  | answered looks known => exact .known looks known
  | taken looks known leave leaves => exact (LooksTell.known looks known).leave leaves
  | vain looks leave leaves refused =>
    simpa using ((LooksTell.nothing granted looks).leave leaves).settled
  | owing looks leave leaves acquired =>
    simpa using ((LooksTell.nothing granted looks).leave leaves).settled
  | returned looks leave leaves acquired =>
    simpa using ((LooksTell.nothing granted looks).leave leaves).settled.gaveBack

/-! ## What holds of every run -/

/-- The first time that the worker settles or the waiter takes its leave. -/
def decisive? (events : List Event) : Option Event :=
  events.find? fun e => e.isDeparture || e = .settled

/-- The waiter has taken its leave before the worker settled. -/
def LeftFirst (events : List Event) : Prop := (decisive? events).any Event.isDeparture = true

/-- The worker has settled before the waiter took its leave. -/
def SettledFirst (events : List Event) : Prop := decisive? events = some .settled

/-- What a worker and its waiter can rely on, whatever the order of their steps. -/
structure Orderly (granted : Bool) (events : List Event) (m : Meeting ε) : Prop where
  /-- A slot that is no longer pending stays as it is. -/
  slot : ∀ later, m.future.slot ≠ .pending → (m.run later).2.future.slot = m.future.slot
  /-- Nothing is given back twice. -/
  once : events.count .gaveBack ≤ 1
  /-- What is given back was acquired, for a waiter that had left first. -/
  due : .gaveBack ∈ events → granted = true ∧ LeftFirst events
  /-- What was acquired for a waiter that had left first is given back. -/
  done : m.worker = .finished → granted = true → LeftFirst events → .gaveBack ∈ events
  /-- Who waits is told of the lock exactly if it was granted before the end of the wait. -/
  waited : ∀ answer, .waited answer ∈ events →
    (answer = true ↔ granted = true ∧ SettledFirst events)
  /-- Looks show nothing at first and the answer from some moment on, and who has seen the answer
  is told the same at the end of a wait. -/
  polled : ∃ looks known, events.filterMap Event.poll? =
      List.replicate looks none ++ List.replicate known (some granted) ∧
    (known ≠ 0 → ∀ answer, .waited answer ∈ events → answer = granted)
  /-- The moment is that at which the worker settles. -/
  told : LooksTell granted events
  /-- No lock that the waiter knows of is given back. -/
  shown : .gaveBack ∈ events → .waited true ∉ events ∧ .polled (some true) ∉ events
  /-- No lock that the waiter does not know of is kept. -/
  unshown : m.worker = .finished → granted = true → .waited false ∈ events → .gaveBack ∈ events

/-- Looks decide nothing. -/
@[simp] theorem decisive?_looks (looks : Nat) (answer : Option Bool) (rest : List Event) :
    decisive? (List.replicate looks (.polled answer) ++ rest) = decisive? rest := by
  induction looks with
  | zero => rfl
  | succ looks ih => exact ih

@[simp] theorem decisive?_settled (rest : List Event) :
    decisive? (.settled :: rest) = some .settled := rfl

theorem decisive?_leave {leave : Event} {answer : Bool} (leaves : leave.Leaves answer)
    (rest : List Event) : decisive? (leave :: rest) = some leave := by
  cases leaves <;> rfl

@[simp] theorem polls_looks (looks : Nat) (answer : Option Bool) :
    (List.replicate looks (.polled answer)).filterMap Event.poll? =
      List.replicate looks answer := by
  induction looks with
  | zero => rfl
  | succ looks ih => exact congrArg (answer :: ·) ih

@[simp] theorem count_looks (looks : Nat) (answer : Option Bool) :
    (List.replicate looks (.polled answer)).count Event.gaveBack = 0 := by
  simp [List.count_replicate]

theorem Fits.orderly (h : m.Fits past) : m.Orderly m.result.granted past := by
  have slot := fun later ended => h.slot_run ended later
  unfold Fits at h
  have told := h.looksTell
  generalize m.future.slot = s, hw : m.worker = worker, m.waiting = waiting,
    m.result.granted = granted at h told
  cases h with
  | «open» looks =>
    refine ⟨slot, ?_, ?_, ?_, ?_, ⟨looks, 0, ?_, ?_⟩, told, ?_, ?_⟩
    all_goals simp [hw]
  | left looks leave leaves =>
    have first := decisive?_leave leaves []
    cases leaves <;> refine ⟨slot, ?_, ?_, ?_, ?_, ⟨looks, 0, ?_, ?_⟩, told, ?_, ?_⟩
    all_goals simp [hw, first, List.filterMap_cons, Event.poll?, SettledFirst]
  | answered looks known =>
    refine ⟨slot, ?_, ?_, ?_, ?_, ⟨looks, known, ?_, ?_⟩, told, ?_, ?_⟩
    all_goals simp [List.filterMap_cons, Event.poll?, SettledFirst, LeftFirst, Event.isDeparture]
  | taken looks known leave leaves =>
    cases leaves <;> refine ⟨slot, ?_, ?_, ?_, ?_, ⟨looks, known, ?_, ?_⟩, told, ?_, ?_⟩
    all_goals simp [List.filterMap_cons, Event.poll?, SettledFirst, LeftFirst, Event.isDeparture]
  | vain looks leave leaves refused =>
    have first := decisive?_leave leaves [.settled]
    cases leaves <;> refine ⟨slot, ?_, ?_, ?_, ?_, ⟨looks, 0, ?_, ?_⟩, told, ?_, ?_⟩
    all_goals simp [refused, first, List.filterMap_cons, Event.poll?, SettledFirst]
  | owing looks leave leaves acquired =>
    have first := decisive?_leave leaves [.settled]
    cases leaves <;> refine ⟨slot, ?_, ?_, ?_, ?_, ⟨looks, 0, ?_, ?_⟩, told, ?_, ?_⟩
    all_goals simp [hw, first, List.filterMap_cons, Event.poll?, SettledFirst]
  | returned looks leave leaves acquired =>
    have first := decisive?_leave leaves [.settled, .gaveBack]
    cases leaves <;> refine ⟨slot, ?_, ?_, ?_, ?_, ⟨looks, 0, ?_, ?_⟩, told, ?_, ?_⟩
    all_goals simp [acquired, first, List.filterMap_cons, Event.poll?, SettledFirst, LeftFirst,
      Event.isDeparture]

/-- Whatever the work comes to and whoever moves when, a worker and its waiter can rely on each
other, the worker gets to its end, and a crash passes for a refusal in everything but the log. -/
theorem settlement (resource : String) (result : WorkResult) (outer : ε) (moves : List Move) :
    (((begun resource result outer).run moves).2.Orderly result.granted
      ((begun resource result outer).run moves).1) ∧
    (((begun resource result outer).run moves).2.run [.work, .work]).2.worker = .finished ∧
    ((begun resource .crashed outer).run moves).1 =
      ((begun resource (.answered false) outer).run moves).1 ∧
    ((begun resource .crashed outer).run moves).2.future.slot =
      ((begun resource (.answered false) outer).run moves).2.future.slot := by
  have start : (begun resource result outer).Fits [] := Course.open 0
  have fits := start.run moves
  have orderly := fits.orderly
  rw [result_run] at orderly
  have alike : (begun resource (.answered false) outer).Alike (begun resource .crashed outer) :=
    ⟨rfl, rfl, rfl, rfl⟩
  obtain ⟨events, last⟩ := alike.run moves
  exact ⟨orderly, worker_run_work _, events, last.slot⟩

end Meeting

end Leasehold
