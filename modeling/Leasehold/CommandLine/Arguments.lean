import Leasehold.Text.Digits

/-!
# Arguments of a command line

Options and words of one level of a command line.  Long options are marks or take
a value, behind an equals sign or as the next argument; a cluster of letters
behind one dash is a sequence of short options; everything behind two dashes is a
word.  Arguments are taken one after another, and the first that is not allowed
ends the reading (`Given.read`).
-/

namespace Leasehold

/-- Why the reading of a command line ends early. -/
inductive Halt where
  /-- An argument is not allowed, or one is missing. -/
  | usage
  | help
  | version
  deriving DecidableEq

/-- What stands behind an option. -/
inductive OptionKind where
  /-- Nothing: the option is there or not. -/
  | mark
  | word
  | number
  deriving DecidableEq

/-- What one level of a command line may hold. -/
structure Grammar where
  options : List (String × OptionKind)
  /-- The most words; at the first level a word ends the level instead. -/
  words : Option Nat

/-- What one level of a command line holds. -/
structure Given where
  words : List String
  values : List (String × String)
  marks : List String
  /-- How often more output was asked for, if it was. -/
  verbosity : Option Nat

/-- An argument by its form. -/
inductive Argument where
  /-- Two dashes: only words follow. -/
  | escape
  | long (name : String) (value : Option String)
  | short (letters : List Char)
  | word (text : String)
  deriving DecidableEq

/-- The form of an argument. -/
def Argument.ofText (s : String) : Argument :=
  match s.toList with
  | ['-', '-'] => .escape
  | '-' :: '-' :: cs =>
    .long (String.ofList (cs.takeWhile (· ≠ '='))) (match cs.dropWhile (· ≠ '=') with
      | [] => none
      | _ :: value => some (String.ofList value))
  | '-' :: c :: cs => .short (c :: cs)
  | _ => .word s

namespace Grammar

/-- The options of every level. -/
def everywhere : List (String × OptionKind) := [("lock-timeout", .word)]

/-- The kind of an option. -/
def kind? (g : Grammar) (name : String) : Option OptionKind :=
  ((g.options ++ everywhere).find? (·.1 = name)).map (·.2)

end Grammar

namespace Given

/-- Nothing at all. -/
def nothing : Given := ⟨[], [], [], none⟩

/-- The value of an option. -/
def value? (g : Given) (name : String) : Option String :=
  (g.values.find? (·.1 = name)).map (·.2)

/-- The number behind an option. -/
def number? (g : Given) (name : String) : Option UInt64 :=
  (g.value? name).bind Text.Digits.unsigned?

/-- The mark is there. -/
def marked (g : Given) (name : String) : Bool := g.marks.contains name

/-- One more request for more output. -/
def louder (g : Given) : Given := { g with verbosity := some (g.verbosity.getD 0 + 1) }

/-- Takes an option with its value, which may be given once. -/
def takeValue (kind : OptionKind) (name value : String) (g : Given) : Except Halt Given :=
  if (g.value? name).isSome then .error .usage
  else if kind = .number && (Text.Digits.unsigned? value).isNone then .error .usage
  else .ok { g with values := g.values ++ [(name, value)] }

/-- Takes an option without a value. -/
def takeMark (grammar : Grammar) (name : String) (g : Given) : Except Halt Given :=
  if name = "verbose" then .ok g.louder
  else if name = "help" then .error .help
  else if name = "version" && grammar.words.isNone then .error .version
  else if grammar.kind? name = some .mark && !g.marked name then
    .ok { g with marks := name :: g.marks }
  else .error .usage

/-- Takes the letters of short options. -/
def takeLetters (grammar : Grammar) : List Char → Given → Except Halt Given
  | [], g => .ok g
  | c :: cs, g =>
    if c = 'v' then takeLetters grammar cs g.louder
    else if c = 'h' then .error .help
    else if c = 'V' && grammar.words.isNone then .error .version
    else .error .usage

/-- Takes a word. -/
def takeWord (grammar : Grammar) (word : String) (g : Given) : Except Halt Given :=
  if g.words.length < grammar.words.getD 0 then .ok { g with words := g.words ++ [word] }
  else .error .usage

/-- The argument may stand behind an option as its value. -/
def mayBeValue (s : String) : Bool :=
  match Argument.ofText s with
  | .word _ => true
  | _ => false

/-- Reads one level.  At the first level a word ends it, and the word and what follows are
handed on. -/
def read (grammar : Grammar) :
    List String → Given → Except Halt (Given × Option (String × List String))
  | [], g => .ok (g, none)
  | arg :: rest, g =>
    match Argument.ofText arg with
    | .escape => (rest.foldlM (fun g w => takeWord grammar w g) g).map fun g => (g, none)
    | .short letters => do read grammar rest (← takeLetters grammar letters g)
    | .word w =>
      match grammar.words with
      | none => .ok (g, some (w, rest))
      | some _ => do read grammar rest (← takeWord grammar w g)
    | .long name (some value) =>
      match grammar.kind? name with
      | some .word => do read grammar rest (← takeValue .word name value g)
      | some .number => do read grammar rest (← takeValue .number name value g)
      | _ => .error .usage
    | .long name none =>
      let kind := grammar.kind? name
      if kind = some .word ∨ kind = some .number then
        match rest with
        | value :: rest =>
          if mayBeValue value then do read grammar rest (← takeValue (kind.getD .word) name value g)
          else .error .usage
        | [] => .error .usage
      else do read grammar rest (← takeMark grammar name g)

end Given

end Leasehold
