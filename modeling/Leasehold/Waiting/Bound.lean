import Leasehold.Text.Blank
import Leasehold.Text.Digits
import Leasehold.Time.Span

/-!
# Bounds on waiting

How long a caller is ready to wait: a span, or without end.  A bound is read
from a whole number of seconds or the word `infinite`; where several sources
give one, the command line wins over the environment, and the environment over
the settings (`WaitBound.resolve`).  A text of a source that does not win is
never looked at.
-/

namespace Leasehold

/-- How long a caller waits at most. -/
inductive WaitBound where
  | finite (limit : Span)
  | infinite
  deriving DecidableEq, Inhabited

/-- Where the bound in force comes from. -/
inductive BoundSource where
  | standard
  | settings
  | environment
  | commandLine
  deriving DecidableEq, Inhabited

/-- A bound and its source. -/
structure ResolvedBound where
  bound : WaitBound
  source : BoundSource
  deriving DecidableEq

/-- A trimmed text that is no bound. -/
structure UnreadableBound where
  text : String
  deriving DecidableEq

namespace WaitBound

/-- A whole number of seconds. -/
def ofSeconds (n : UInt64) : WaitBound := .finite (Span.ofSeconds n)

/-- Thirty seconds, where nothing else is said. -/
def standard : WaitBound := ofSeconds 30

/-- The span of a bound that ends. -/
def limit? : WaitBound → Option Span
  | finite s => some s
  | infinite => none

/-- The bound has no end. -/
def isInfinite : WaitBound → Bool
  | finite _ => false
  | infinite => true

/-- Whole seconds, unless there are milliseconds beyond them. -/
def text : WaitBound → String
  | infinite => "infinite"
  | finite s => if s.subsecMillis = 0 then toString s.seconds ++ "s" else toString s.millis ++ "ms"

/-- The bound without its part of a second, as settings keep it. -/
def wholeSeconds : WaitBound → WaitBound
  | infinite => infinite
  | finite s => ofSeconds s.seconds64

/-- Reads a number of seconds or the word `infinite`, in any case and between blanks. -/
def parse (s : String) : Except UnreadableBound WaitBound :=
  let trimmed := Text.trimString s
  if trimmed.toList.map Char.toLower = "infinite".toList then .ok infinite
  else
    match Text.Digits.unsigned? trimmed with
    | some n => .ok (ofSeconds n)
    | none => .error ⟨trimmed⟩

/-- The bound in force, from the texts of the command line and of the environment and the
value of the settings. -/
def resolve (commandLine environment : Option String) (settings fallback : WaitBound) :
    Except UnreadableBound ResolvedBound :=
  match commandLine, environment with
  | some t, _ => (parse t).map fun b => ⟨b, .commandLine⟩
  | none, some t => (parse t).map fun b => ⟨b, .environment⟩
  | none, none => .ok (if settings = fallback then ⟨fallback, .standard⟩ else ⟨settings, .settings⟩)

end WaitBound

/-- The name of a source in messages. -/
def BoundSource.text : BoundSource → String
  | standard => "built-in default"
  | settings => "configuration file"
  | environment => "environment variable"
  | commandLine => "CLI flag"

/-- What is said of a text that is no bound. -/
def UnreadableBound.message (e : UnreadableBound) : String :=
  "Lock timeout value '" ++ e.text ++
    "' is invalid. Use an integer number of seconds or the word 'infinite'."

namespace WaitBound

example : (parse " 42 ").toOption = some (ofSeconds 42) := by decide +kernel
example : (parse "InFiNiTe\u00a0").toOption = some infinite := by decide +kernel
example : (parse " 1.5 ").toOption = none ∧ (parse "-0").toOption = none := by decide +kernel
example : (ofSeconds 3).text = "3s" ∧ (finite (Span.ofMillis 250)).text = "250ms" := by
  decide +kernel

end WaitBound

end Leasehold
