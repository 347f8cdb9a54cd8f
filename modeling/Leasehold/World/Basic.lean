import Leasehold.Fault.Outcome
import Leasehold.Log
import Leasehold.Time.Calendar
import Leasehold.Waiting.Stop
import Leasehold.World.Disk

/-!
# The machine a process runs on

Clocks, disk, environment and output of one process, with what it was told by
signals.  Programs are state transitions on a `World`; nothing else can be read
or changed by them.  Time moves only when a program sleeps.
-/

namespace Leasehold

/-- Something a process gives out. -/
inductive Output where
  /-- A log record. -/
  | record (record : LogRecord)
  /-- A line for the user beside the result. -/
  | progress (line : String)
  /-- A part of the result. -/
  | result (text : String)
  deriving DecidableEq

/-- A signal on its way. -/
structure PendingSignal where
  number : Int
  /-- It arrives in the sleep that brings the time slept to this many nanoseconds. -/
  after : Nat
  deriving DecidableEq

/-- What a process sees of its machine. -/
structure World where
  clock : Clock
  disk : Disk
  /-- The database that lives and ends with the process. -/
  memory : Database
  environment : List (String × String)
  /-- The name of the machine, if it can be found out. -/
  hostName : Option String
  /-- A text that no other process has. -/
  identity : String
  /-- What was given out, the newest first. -/
  output : List Output
  stop : Option StopReason
  /-- Signals are attended to. -/
  attentive : Bool
  pending : Option PendingSignal
  /-- All sleeps so far, the newest first. -/
  sleeps : List Span
  deriving Inhabited

instance : Journal World := ⟨fun r w => { w with output := .record r :: w.output }⟩

namespace World

/-- A machine with an empty disk at a moment. -/
def new (clock : Clock) : World :=
  { clock, disk := Disk.empty, memory := Database.empty, environment := [], hostName := none,
    identity := "", output := [], stop := none, attentive := false, pending := none, sleeps := [] }

/-- Whole milliseconds since the epoch, if the clock can be read. -/
def now? : StateM World (Option Int) := do return (← get).clock.reading?

/-- Does something with one reading of the clock; nothing is done if it cannot be read. -/
def atNow {α : Type} (act : Int → StateM World α) : StateM World (Option α) := fun w =>
  match w.clock.reading? with
  | some now =>
    let (a, w) := act now w
    (some a, w)
  | none => (none, w)

theorem atNow_of_some {α : Type} {act : Int → StateM World α} {w : World} {t : Int}
    (h : w.clock.reading? = some t) : atNow act w = (some (act t w).1, (act t w).2) := by
  simp only [atNow, h]
  rfl

theorem atNow_of_none {α : Type} {act : Int → StateM World α} {w : World}
    (h : w.clock.reading? = none) : atNow act w = (none, w) := by
  simp only [atNow, h]

/-- Nanoseconds of the clock that never goes back. -/
def uptime : StateM World Nat := do return (← get).clock.uptime

/-- Gives something out. -/
def give (o : Output) : StateM World Unit := modify fun w => { w with output := o :: w.output }

/-- Writes a line of the result. -/
def printLine (s : String) : StateM World Unit := give (.result (s ++ "\n"))

/-- The nanoseconds slept so far. -/
def slept (w : World) : Nat := w.sleeps.foldl (fun n s => n + s.nanos) 0

/-- The world after a signal that is attended to. -/
def deliver (w : World) : World :=
  match w.pending with
  | some p =>
    if w.attentive && p.after ≤ w.slept then
      { w with stop := StopReason.fire w.stop (.signal p.number), pending := none }
    else w
  | none => w

/-- Lets time pass; a signal that falls into it is seen at its end. -/
def sleep (s : Span) : StateM World Unit :=
  modify fun w => { w with clock := w.clock.advance s, sleeps := s :: w.sleeps }.deliver

/-- The value of an environment variable. -/
def environmentValue (name : String) (w : World) : Option String :=
  (w.environment.find? (·.1 = name)).map (·.2)

/-- Begins to attend to signals, once in the life of a process. -/
def attendSignals : StateM World Unit := do
  unless (← get).attentive do
    modify ({ · with attentive := true })
    for n in StopReason.attended do
      Journal.debug .stop ("Stop handler installed for signal " ++ toString n)

end World

end Leasehold
