import Leasehold.Fault.Basic
import Leasehold.Text.Blank
import Leasehold.Text.Lines

/-!
# Reports of faults

A fault with details and a suggestion for the user, and its three texts: a plain
paragraph form, and a terminal form with or without colours.  The coloured form
differs from the other by escape sequences only.
-/

namespace Leasehold

/-- A fault, what is known beside it, and what the user may try. -/
structure Report where
  fault : Fault
  details : Option String
  suggestion : Option String
  deriving DecidableEq

namespace Report

/-- What is known of a fault beside its message. -/
def detailsOf : Fault → Option String
  | .invalidArgument t | .configuration t | .invalidSettings t => some t
  | .notHeld r => some ("Lock request for '" ++ r ++ "' was not granted.")
  | .storage t => some ("Store operation failed: " ++ t)
  | .database t => some ("SQLite reported: " ++ t)
  | .featureStart _ d => some d
  | .timedOut _ _ _ _ | .cancelled _ _ | .system _ | .inputOutput _ | .json _ => none

/-- What the user may try. -/
def suggestionOf : Fault → Option String
  | .invalidArgument _ => some "Both the resource id and the owner must be non-empty strings."
  | .notHeld _ =>
    some ("Another owner may hold the resource, or the lock store may be unreachable.\n" ++
      "Run 'distlock status <resource>' to inspect the current lock row.")
  | .storage _ =>
    some ("Check that the lock database is reachable and writable, or set " ++
      "DISTLOCK_LOCKING__DATABASE to another location.")
  | .database _ => some "Check that the lock database is reachable and writable."
  | .featureStart f _ =>
    some ("The '" ++ f ++ "' feature could not start; verify the [locking] section of config.toml.")
  | .configuration _ | .invalidSettings _ =>
    some "Review $DISTLOCK_HOME/config.toml and any DISTLOCK_* environment variables."
  | .timedOut r _ _ _ =>
    some ("Another owner still holds '" ++ r ++ "'. Retry later, increase --wait, or use " ++
      "--wait infinite.")
  | .cancelled _ _ => some "The wait was interrupted; re-run the command to retry."
  | .system _ | .inputOutput _ | .json _ => none

/-- The report of a fault. -/
def ofFault (f : Fault) : Report := ⟨f, detailsOf f, suggestionOf f⟩

/-- A part of a text that is there only with a value. -/
def part (value : Option String) (write : String → String) : String := (value.map write).getD ""

/-- Message, details and suggestion as paragraphs. -/
def text (r : Report) : String :=
  "Error: " ++ r.fault.message ++ part r.details ("\n\nDetails: " ++ ·) ++
    part r.suggestion ("\n\nSuggestion: " ++ ·)

/-- The escape sequences of the terminal form. -/
structure Palette where
  red : String
  yellow : String
  cyan : String
  bold : String
  reset : String

/-- No escape sequences. -/
def plain : Palette := ⟨"", "", "", "", ""⟩

/-- The usual escape sequences. -/
def coloured : Palette := ⟨"\x1b[31m", "\x1b[33m", "\x1b[36m", "\x1b[1m", "\x1b[0m"⟩

/-- One bullet for each line that is not blank. -/
def bullets (p : Palette) (suggestion : String) : String :=
  String.join (((Text.lines suggestion).filter (!Text.isBlankString ·)).map fun l =>
    p.cyan ++ "• " ++ l ++ p.reset ++ "\n")

/-- The form for a terminal. -/
def terminal (p : Palette) (r : Report) : String :=
  p.red ++ p.bold ++ "Error:" ++ p.reset ++ " " ++ r.fault.message ++ "\n" ++
    part r.details (fun d => "\n" ++ d ++ "\n") ++
    part r.suggestion (fun s =>
      "\n" ++ p.yellow ++ p.bold ++ "Suggestions:" ++ p.reset ++ "\n" ++ bullets p s) ++
    p.reset

end Report

/-- The paragraphs of a fault's report. -/
def Fault.report (f : Fault) : String := (Report.ofFault f).text

example : (Fault.system "boom").report = "Error: System error: boom" := by decide +kernel

end Leasehold
