/-!
# Requests to stop

Why a long wait or a hold was asked to end.  The state of a stop request is the
reason that came first, if one came; `fire_of_some` says that later ones change
nothing.
-/

namespace Leasehold

/-- Why something was asked to stop. -/
inductive StopReason where
  /-- The program itself asked. -/
  | requested
  /-- A signal of that number arrived. -/
  | signal (number : Int)
  deriving DecidableEq, Inhabited

namespace StopReason

/-- The signals that ask a process to end, in the order in which they are attended to. -/
def attended : List Int := [2, 15]

/-- The name of a reason in messages. -/
def text : StopReason → String
  | requested => "stop requested"
  | signal 2 => "SIGINT"
  | signal 15 => "SIGTERM"
  | signal n => "signal " ++ toString n

/-- The state after one more request. -/
def fire (state : Option StopReason) (reason : StopReason) : Option StopReason :=
  state.or (some reason)

@[simp] theorem fire_of_some (first later : StopReason) :
    fire (some first) later = some first := rfl

example : (signal 15).text = "SIGTERM" ∧ (signal (-1)).text = "signal -1" := by decide +kernel

end StopReason

end Leasehold
