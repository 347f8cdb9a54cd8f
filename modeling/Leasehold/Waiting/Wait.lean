import Leasehold.Fault.Basic
import Leasehold.Log
import Leasehold.Time.Clock
import Leasehold.Waiting.Event
import Leasehold.Waiting.Retry

/-!
# Waiting for a contended resource

A `Wait` says how long and how often a caller is ready to ask for a lock.  One
`round` asks once: it looks whether somebody wants the wait to stop, makes the
attempt, and after a refusal either ends the wait or says how long to pause.  The
pause never reaches beyond the end of the wait, so that the last attempt falls on
that end; only a refusal leads to another attempt.

A round knows the world by what it asks of it: the clock, the request to stop and
the observer (`Surroundings`), and the attempt itself (`Asking`).  Reading is an
action too, so that anything may happen between any two of them.  `run` repeats rounds and
pauses until an answer is there; its first argument bounds the number of rounds.
-/

namespace Leasehold

/-- One caller's readiness to wait for a resource. -/
structure Wait where
  resource : String
  bound : WaitBound
  source : BoundSource
  /-- The uptime at which the wait began. -/
  began : Nat
  /-- The uptime at which it ends, if it does. -/
  deadline : Option Nat
  schedule : RetrySchedule
  /-- A refusal is an answer and not a reason to wait. -/
  single : Bool
  /-- The number of refusals so far. -/
  refusals : Nat
  deriving DecidableEq

/-- What a wait asks of the world around it. -/
structure Surroundings (ε : Type) where
  /-- Reads the uptime. -/
  now : StateM ε Nat
  /-- Reads whether the wait shall stop. -/
  stopped : StateM ε Bool
  /-- Tells the observer, if there is one. -/
  observe : Option (WaitEvent → StateM ε Unit)
  /-- Lets time pass. -/
  sleep : Span → StateM ε Unit

/-- What a wait is for. -/
structure Asking (ε : Type) where
  /-- Asks for the lock. -/
  attempt : StateM ε (Except Fault Bool)
  /-- Notes that the lock was granted, after so many refusals and so much time. -/
  granted : Nat → Span → StateM ε Unit

/-- What a round leads to. -/
inductive Round where
  | finished (result : Except Fault Bool)
  | pause (length : Span)

namespace Wait

/-- A wait that begins at that uptime. -/
def new (began : Nat) (resource : String) (bound : WaitBound) (source : BoundSource)
    (schedule : RetrySchedule) : Wait :=
  { resource, bound, source, began
    deadline := bound.limit?.bind (waitEnd? began)
    schedule, single := false, refusals := 0 }

/-- A wait that asks once and takes a refusal for an answer. -/
def once (began : Nat) (resource : String) : Wait :=
  { new began resource (WaitBound.ofSeconds 0) .standard RetrySchedule.standard with
    single := true }

variable {ε : Type}

/-- The time since the wait began. -/
def waited (s : Surroundings ε) (w : Wait) : StateM ε Span := do
  return Span.saturate ((← s.now) - w.began)

/-- Tells the observer of an event that carries the time waited. -/
def tell (s : Surroundings ε) (w : Wait) (event : Span → WaitEvent) : StateM ε Unit :=
  match s.observe with
  | some observe => do observe (event (← w.waited s))
  | none => pure ()

/-- The fault of a wait that shall stop, if it shall. -/
def checkStop (s : Surroundings ε) (w : Wait) : StateM ε (Option Fault) := do
  if ← s.stopped then
    w.tell s (.cancelled w.resource)
    return some (.cancelled w.resource (← w.waited s).toBinary64)
  else
    return none

/-- The fault of a wait that has reached its end. -/
def timedOut (s : Surroundings ε) (w : Wait) : StateM ε Fault := do
  w.tell s (.timedOut w.resource)
  return .timedOut w.resource (← w.waited s).toBinary64 w.bound w.source

/-- The wait after one more refusal, which uses up a pause of its schedule. -/
def refused (w : Wait) : Wait :=
  { w with refusals := w.refusals + 1, schedule := w.schedule.rest }

/-- Ends the wait or picks the pause before the next attempt; `w` is the wait before the
refusal. -/
def afterRefusal (s : Surroundings ε) (w : Wait) : StateM ε (Round × Wait) := do
  if w.single then return (.finished (.ok false), w)
  if let some fault ← w.checkStop s then return (.finished (.error fault), w)
  if w.refusals = 0 then
    if let some observe := s.observe then observe (.began w.resource w.bound)
  let pause := w.schedule.next
  let w := w.refused
  match w.deadline with
  | none =>
    w.tell s fun waited => .retrying w.resource w.refusals waited none
    return (.pause pause, w)
  | some deadline =>
    let left := Span.saturate (deadline - (← s.now))
    if left = Span.zero then
      return (.finished (.error (← w.timedOut s)), w)
    w.tell s fun waited => .retrying w.resource w.refusals waited (some left)
    return (.pause (pause.shorter left), w)

/-- Asks once. -/
def round (s : Surroundings ε) (a : Asking ε) (w : Wait) : StateM ε (Round × Wait) := do
  if let some fault ← w.checkStop s then return (.finished (.error fault), w)
  match ← a.attempt with
  | .error fault => return (.finished (.error fault), w)
  | .ok true =>
    a.granted w.refusals (← w.waited s)
    w.tell s (.acquired w.resource)
    return (.finished (.ok true), w)
  | .ok false => w.afterRefusal s

/-- Asks again and again, at most so many times; `none` if no answer is there by then. -/
def run (s : Surroundings ε) (a : Asking ε) :
    Nat → Wait → StateM ε (Option (Except Fault Bool) × Wait)
  | 0, w => return (none, w)
  | rounds + 1, w => do
    match ← w.round s a with
    | (.finished result, w) => return (some result, w)
    | (.pause length, w) =>
      s.sleep length
      run s a rounds w

@[simp] theorem resource_refused (w : Wait) : w.refused.resource = w.resource := rfl

@[simp] theorem refusals_refused (w : Wait) : w.refused.refusals = w.refusals + 1 := rfl

end Wait

end Leasehold
