import Leasehold.Command.Basic
import Leasehold.CommandLine.Arguments
import Leasehold.Fault.Report
import Leasehold.Log.Filter
import Leasehold.Settings.File

/-!
# The command line

Which command a list of arguments asks for, and what its process does from the
reading of the settings to the status with which it ends.  What is asked for at
both levels of a command line counts as the second level says.
-/

namespace Leasehold

/-- The commands by their names. -/
inductive Verb where
  | lock
  | refresh
  | unlock
  | status
  | list
  | hold
  | purge
  deriving DecidableEq

namespace Verb

/-- The command of that name. -/
def ofName? : String → Option Verb
  | "lock" => some lock
  | "refresh" => some refresh
  | "unlock" | "release" => some unlock
  | "status" => some status
  | "list" | "ls" => some list
  | "hold" => some hold
  | "purge" => some purge
  | _ => none

/-- What may follow a command. -/
def grammar : Verb → Grammar
  | lock => ⟨[("hold-secs", .number), ("wait", .word)], some 2⟩
  | refresh => ⟨[("hold-secs", .number)], some 2⟩
  | unlock => ⟨[], some 2⟩
  | status => ⟨[("owner", .word), ("json", .mark)], some 1⟩
  | list => ⟨[("json", .mark)], some 0⟩
  | hold => ⟨[("hold-secs", .number)], some 2⟩
  | purge => ⟨[("grace-secs", .number)], some 0⟩

/-- The command, if no word is missing. -/
def command? (v : Verb) (g : Given) : Option Command :=
  match v, g.words with
  | lock, [r, o] => some (.task (.lock r o (g.number? "hold-secs") (g.value? "wait")))
  | refresh, [r, o] => some (.task (.refresh r o (g.number? "hold-secs")))
  | unlock, [r, o] => some (.task (.unlock r o))
  | status, [r] => some (.task (.status r (g.value? "owner") (g.marked "json")))
  | list, [] => some (.task (.list (g.marked "json")))
  | hold, [r] => some (.task (.keep r none (g.number? "hold-secs")))
  | hold, [r, o] => some (.task (.keep r (some o) (g.number? "hold-secs")))
  | purge, [] => some (.purge (g.number? "grace-secs"))
  | _, _ => none

end Verb

/-- What a process was asked to do. -/
structure Invocation where
  verbosity : Nat
  /-- A bound on waiting for the store. -/
  bound : Option String
  command : Command
  deriving DecidableEq

namespace Invocation

/-- The first level of a command line. -/
def outermost : Grammar := ⟨[], none⟩

/-- What the word for help asks for. -/
def helpOn : List String → Halt
  | [] => .help
  | [name] => if name = "help" ∨ (Verb.ofName? name).isSome then .help else .usage
  | _ => .usage

/-- Reads a command line. -/
def ofArguments (args : List String) : Except Halt Invocation := do
  match ← Given.read outermost args .nothing with
  | (_, none) => .error .usage
  | (outer, some (name, rest)) =>
    match Verb.ofName? name with
    | none => .error (if name = "help" then helpOn rest else .usage)
    | some verb =>
      let (inner, _) ← Given.read verb.grammar rest .nothing
      match verb.command? inner with
      | none => .error .usage
      | some command =>
        return {
          verbosity := (inner.verbosity.or outer.verbosity).getD 0
          bound := (inner.value? "lock-timeout").or (outer.value? "lock-timeout")
          command }

/-- The status of a process whose code crashed. -/
def crashStatus : Nat := 101

/-- The report of a fault, for a terminal or for a file. -/
def reportOf (onTerminal : Bool) (f : Fault) : String :=
  if onTerminal then (Report.ofFault f).terminal Report.coloured else f.report

/-- The status of an outcome, after the report of a fault. -/
def conclude (onTerminal : Bool) : Outcome Unit → StateM World Nat
  | .answer () => return 0
  | .fault f => do
    World.give (.progress (reportOf onTerminal f))
    return f.exitCode
  | .crash => return crashStatus

/-- The settings of a process. -/
def settings : StateM World (Except Fault Settings) := do
  match findHome (← get) with
  | .error f => return .error f
  | .ok home => Settings.load home

/-- Runs a process to its status; `none` if the pauses do not suffice. -/
def run (i : Invocation) (pauses : Nat) : StateM World (Option Nat) := do
  match ← settings with
  | .error f => some <$> conclude false (.fault f)
  | .ok s =>
    match ← i.command.run s i.bound pauses with
    | none => return none
    | some outcome => some <$> conclude false outcome

end Invocation

/-- The name and number of the program. -/
def versionLine : String := "distlock 0.1.0"

namespace Output

/-- What a result is made of. -/
def resultText : Output → String
  | result t => t
  | record _ | progress _ => ""

/-- What is shown beside the result. -/
def sideText (f : LogFilter) : Output → String
  | record r => if f.shows r then r.line ++ "\n" else ""
  | progress l => l ++ "\n"
  | result _ => ""

end Output

/-- The lines about what is wrong with a filter. -/
def filterWarnings (l : List String) : String :=
  String.join (l.map fun e => "warning: " ++ e ++ ", ignoring it\n")

example : (Invocation.ofArguments ["-v", "ls", "--json"]).toOption =
    some ⟨1, none, .task (.list true)⟩ := by decide +kernel
example : (Invocation.ofArguments ["lock", "r", "--", "-o"]).toOption =
    some ⟨0, none, .task (.lock "r" "-o" none none)⟩ := by decide +kernel
example : Invocation.ofArguments ["list", "-V"] = .error .usage := by rfl
example : Invocation.ofArguments ["-V", "bogus"] = .error .version := by rfl

end Leasehold
