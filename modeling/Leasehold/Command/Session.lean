import Leasehold.Policy.Manager
import Leasehold.Settings.Basic

/-!
# Sessions

A session is what a command works in: a manager whose one feature is the lock
service of the settings.  The service is started before it is registered, so that
a database that cannot be opened ends the command and is not passed over.
Closing a session leaves its locks to run out.
-/

namespace Leasehold

/-- A manager with the lock service at work. -/
abbrev Session := Manager Site

namespace Session

/-- The machine of a session. -/
def world (s : Session) : World := s.outer.world

/-- The same session on another state of its machine. -/
def withWorld (s : Session) (w : World) : Session := { s with outer := { s.outer with world := w } }

/-- A step of the machine. -/
def inWorld {α : Type} (step : StateM World α) : StateM Session α :=
  Feature.part world (fun w s => s.withWorld w) step

/-- The settings of the service. -/
def settings (s : Session) : ServiceSettings := s.outer.service.settings

/-- The service holds a lock for an owner. -/
def holds (resource owner : String) (s : Session) : Bool :=
  s.outer.service.held.any fun l => l.resource = resource && l.owner = owner

/-- A step of the client; a substitute if the service is not started. -/
def withClient {α : Type} (otherwise : α) (step : Client → StateM World α) : StateM Session α := do
  match (← get).outer.service.client? with
  | some c => inWorld (step c)
  | none => return otherwise

/-- Registers the started service. -/
def enrol : StateM Session Unit := do
  Manager.register Service.feature
  Manager.start

/-- Opens a session; the second argument is the bound on waiting for the store that the
command line gives. -/
def openFor (s : Settings) (bound : Option String) : StateM World (Outcome Session) := do
  match s.locking.waitFor bound (← get) with
  | .error f => return .fault f
  | .ok r =>
    Journal.debug .session
      ("Store round trips wait up to " ++ r.bound.text ++ " (" ++ r.source.text ++ ")")
    let w ← get
    let (started, site) := Service.start ⟨w, Service.new (s.service w.hostName r.bound)⟩
    set site.world
    match started with
    | .crash => return .crash
    | .fault f => return .fault f
    | .answer () =>
      let session := (enrol (Manager.new site)).2
      set session.world
      return .answer session

/-- Closes a session. -/
def close : StateM Session Unit := Manager.shutdown

end Session

end Leasehold
