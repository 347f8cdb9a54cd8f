import Leasehold.Log
import Leasehold.Regex.Meaning
import Leasehold.Text.Blank
import Leasehold.Text.Lines

/-!
# Choosing log records

Which records are shown.  A filter is a list of directives, each a start of topic
paths and the least important level shown for them; the longest start that fits a
topic decides, and of equal ones the last.  A filter may also ask for a pattern
that the text must contain.
-/

namespace Leasehold

/-- The levels that are shown for the topics whose paths start in some way. -/
structure LogDirective where
  start : String
  /-- The least important level that is shown, if any is. -/
  level : Option LogLevel
  deriving DecidableEq

/-- What is shown of a log. -/
structure LogFilter where
  directives : List LogDirective
  /-- What the texts of shown records match, if that matters. -/
  pattern : Option Regex.Expression
  deriving DecidableEq

namespace LogFilter

/-- Everything that went wrong and nothing else. -/
def errorsOnly : LogFilter := ⟨[⟨"", some .error⟩], none⟩

/-- The level of that name, or the word for none. -/
def level? (s : String) : Option (Option LogLevel) :=
  if s.toList.map Char.toUpper = "OFF".toList then some none else (LogLevel.ofText? s).map some

/-- The directive of a part of a filter's text; what is wrong with it otherwise. -/
def directive? (part : String) : Except String LogDirective :=
  let wrong (s : String) : Except String LogDirective :=
    .error ("invalid logging spec '" ++ s ++ "'")
  match (Text.splitAt '=' part.toList).map String.ofList with
  | [name] =>
    match level? name with
    | some level => .ok ⟨"", level⟩
    | none => .ok ⟨name, some .trace⟩
  | [name, level] =>
    let level := Text.trimString level
    if level.isEmpty then .ok ⟨name, some .trace⟩
    else
      match level? level with
      | some level => .ok ⟨name, level⟩
      | none => wrong level
  | _ => wrong part

/-- The parts of a filter's text that are not blank. -/
def parts (s : List Char) : List String :=
  ((Text.splitAt ',' s).map fun p => Text.trimString (String.ofList p)).filter (!·.isEmpty)

/-- Errors are shown if nothing else is said. -/
def orErrors (l : List LogDirective) : List LogDirective :=
  if l.isEmpty then errorsOnly.directives else l

/-- Reads directives, passing over what is wrong with them. -/
def readDirectives (cs : List Char) : List LogDirective × List String :=
  let read := (parts cs).map directive?
  (orErrors (read.filterMap fun d => d.toOption), read.filterMap fun
    | .error e => some e
    | .ok _ => none)

/-- Reads a filter, passing over what is wrong with it. -/
def parse (s : String) : LogFilter × List String :=
  match Text.splitAt '/' s.toList with
  | [] => (errorsOnly, [])
  | [directives] =>
    let (l, wrong) := readDirectives directives
    (⟨l, none⟩, wrong)
  | [directives, pattern] =>
    let (l, wrong) := readDirectives directives
    match Regex.ofPattern? (String.ofList pattern) with
    | .ok e => (⟨l, some e⟩, wrong)
    | .error m => (⟨l, none⟩, wrong ++ ["invalid regex filter - " ++ m])
  | _ => (errorsOnly, ["invalid logging spec '" ++ s ++ "' (too many '/'s)"])

/-- The filter of a number of requests to say more. -/
def ofVerbosity (n : Nat) : LogFilter :=
  let level : LogLevel := match n with
    | 0 => .warn
    | 1 => .info
    | 2 => .debug
    | _ => .trace
  ⟨[⟨"distlock", some level⟩], none⟩

/-- The directive that decides about a path. -/
def deciding (path : String) (l : List LogDirective) : Option LogDirective :=
  (l.filter fun d => d.start.toList.isPrefixOf path.toList).foldl (fun best d =>
    match best with
    | none => some d
    | some b => if b.start.utf8ByteSize ≤ d.start.utf8ByteSize then some d else some b) none

/-- The record is shown. -/
def shows (f : LogFilter) (r : LogRecord) : Bool :=
  ((deciding r.topic.path f.directives).any fun d => d.level.any fun l => r.level.rank ≤ l.rank) &&
    f.pattern.all (·.isFoundIn r.text)

/-- The variable that replaces what the command line says. -/
def variableName : String := "RUST_LOG"

/-- The filter in force, and what is wrong with its text. -/
def inForce (asked : Option String) (verbosity : Nat) : LogFilter × List String :=
  match asked with
  | some s => parse s
  | none => (ofVerbosity verbosity, [])

end LogFilter

/-- A record on a line of its own; further lines are indented. -/
def LogRecord.line (r : LogRecord) : String :=
  "[" ++ r.level.text ++ "".pushn ' ' (5 - r.level.text.length) ++ "] " ++
    Text.joinWith "\n    " (Text.splitLines r.text)

example : (LogFilter.parse "info,distlock::locking=off").1.shows ⟨.info, .session, "x"⟩ = true := by
  decide +kernel
example : (LogFilter.parse "info,distlock::locking=off").1.shows ⟨.warn, .store, "x"⟩ = false := by
  decide +kernel
example : LogFilter.parse "distlock=loud" = (.errorsOnly, ["invalid logging spec 'loud'"]) := by
  decide +kernel
example : (LogRecord.line ⟨.info, .store, "a\nb"⟩) = "[INFO ] a\n    b" := by decide +kernel

end Leasehold
