import Leasehold.Proofs.Lock.Passes
import Leasehold.Proofs.Service.Dealings

/-!
# Which locks a service renews

The calls of a service come in any order, and whatever others do before and during each of them
(`ServiceStep`), a service is at work exactly from a start that succeeds to the next stop
(`Working`), and then it renews exactly the locks that were taken in and that nothing has ended
since (`Renewed`, `ServiceDeed.Ends`).  The account of that is `Accounted`, and every course keeps
it (`Accounted.course`).

What one call does to the service is `Service.Follows`: it knows what was seen of the call and
nothing of the store.  Each call is proved to follow (`Dealings.perform_follows`), and each step
that follows keeps the account (`Accounted.step`).
-/

namespace Leasehold

open Program

/-! ## Calls and what is seen of them -/

/-- A call of a service. -/
inductive ServiceCall where
  | start
  | stop
  | ask (q : Query)
  /-- A renewal pass in the background. -/
  | renew

/-- A call, with what others do before it and what comes of its requests. -/
structure ServiceStep where
  others : World → World
  dealings : Dealings
  call : ServiceCall

/-- What is seen of a call. -/
inductive ServiceDeed where
  | started (outcome : Outcome Unit)
  | stopped
  | asked (q : Query) (outcome : Outcome Verdict)
  /-- The locks of a pass, with the answers to their statements. -/
  | renewed (answers : List (HeldLock × Except StoreFault Bool))

/-- The locks of the next renewal pass, with the answers to their statements. -/
def Dealings.answers (d : Dealings) (site : Site) : List (HeldLock × Except StoreFault Bool) :=
  match site.service.active with
  | none => []
  | some h =>
    if !h.running || h.broken then []
    else
      match site.world.clock.reading? with
      | none => []
      | some now => h.held.zip (d.extendAll h.client now h.held site.world).1

/-- Makes a call. -/
def Dealings.perform (d : Dealings) : ServiceCall → StateM Site ServiceDeed
  | .start => .started <$> d.start
  | .stop => do
    Service.stop
    return .stopped
  | .ask q => .asked q <$> d.before q
  | .renew => fun site => (.renewed (d.answers site), (d.beat site).2)

/-- With plain dealings the calls are those of the service itself. -/
theorem Dealings.perform_plain (call : ServiceCall) :
    plain.perform call =
      match call with
      | .start => .started <$> Service.start
      | .stop => do
        Service.stop
        return .stopped
      | .ask q => .asked q <$> Service.before q
      | .renew => fun site => (.renewed (plain.answers site), (Service.beat site).2) := by
  cases call with
  | start => rfl
  | stop => rfl
  | ask q => rw [perform, plain_before]
  | renew => rw [perform, plain_beat]

/-- Makes calls one after another. -/
def Service.course : List ServiceStep → StateM Site (List ServiceDeed)
  | [] => return []
  | step :: rest => do
    modify fun site => { site with world := step.others site.world }
    let deed ← step.dealings.perform step.call
    return deed :: (← course rest)

/-! ## The account of a service -/

namespace ServiceDeed

/-- The lock that is taken in to be renewed: that of a lock or a refresh which was accepted. -/
def taken? (settings : ServiceSettings) : ServiceDeed → Option HeldLock
  | asked (.lock r o hold) (.answer .accepted) => some ⟨r, o, settings.dueLease hold⟩
  | asked (.refresh r o hold) (.answer .accepted) => some ⟨r, o, settings.dueLease hold⟩
  | _ => none

/-- A lock is no longer renewed after the deed. -/
inductive Ends (settings : ServiceSettings) (lock : HeldLock) : ServiceDeed → Prop where
  /-- The resource was locked or refreshed once more. -/
  | replaced {deed : ServiceDeed} {other : HeldLock} (taken : deed.taken? settings = some other)
    (same : other.resource = lock.resource) : Ends settings lock deed
  /-- The owner has unlocked the resource, whatever the answer. -/
  | unlocked (outcome : Outcome Verdict) :
    Ends settings lock (.asked (.unlock lock.resource lock.owner) outcome)
  /-- A pass could not renew it. -/
  | notRenewed {answers : List (HeldLock × Except StoreFault Bool)} {other : HeldLock}
    {answer : Except StoreFault Bool} (extended : (other, answer) ∈ answers)
    (same : other.resource = lock.resource) (failed : answer ≠ .ok true) :
    Ends settings lock (.renewed answers)
  | stopped : Ends settings lock .stopped

end ServiceDeed

/-- A deed of one kind was done, and none of another kind since. -/
def Since (opens ends : ServiceDeed → Prop) (deeds : List ServiceDeed) : Prop :=
  ∃ before deed after, deeds = before ++ deed :: after ∧ opens deed ∧ ∀ later ∈ after, ¬ ends later

/-- A start has succeeded, and the service was not stopped since. -/
def Working : List ServiceDeed → Prop := Since (· = .started (.answer ())) (· = .stopped)

/-- A lock was taken in, and nothing has ended it since. -/
def Renewed (settings : ServiceSettings) (deeds : List ServiceDeed) (lock : HeldLock) : Prop :=
  Since (fun deed => deed.taken? settings = some lock) (ServiceDeed.Ends settings lock) deeds

/-- What is held after a request of a service at work. -/
def Held.afterRequest (settings : ServiceSettings) (q : Query) (outcome : Outcome Verdict)
    (held : Held) : Held :=
  match ServiceDeed.taken? settings (.asked q outcome), q with
  | some lock, _ => held.track lock
  | none, .unlock r o => (held.untrack r o).2
  | none, _ => held

/-- What a call does to a service, by what is seen of the call. -/
inductive Service.Follows (s : Service) : ServiceDeed → Service → Prop where
  | began {h : Heartbeat} (idle : s.active = none) (empty : h.held = []) :
    Follows s (.started (.answer ())) { s with active := some h }
  | failed {outcome : Outcome Unit} (idle : s.active = none) (other : outcome ≠ .answer ()) :
    Follows s (.started outcome) s
  | startedAgain {h : Heartbeat} (busy : s.active = some h) : Follows s (.started (.answer ())) s
  | stopped : Follows s .stopped { s with active := none }
  | unhandled (q : Query) (idle : s.active = none) : Follows s (.asked q (.answer .unhandled)) s
  | asleep (idle : s.active = none) : Follows s (.renewed []) s
  | asked {q : Query} {outcome : Outcome Verdict} {h h' : Heartbeat} (busy : s.active = some h)
    (handled : outcome ≠ .answer .unhandled)
    (held : h'.held = h.held.afterRequest s.settings q outcome) :
    Follows s (.asked q outcome) { s with active := some h' }
  | renewed {answers : List (HeldLock × Except StoreFault Bool)} {h h' : Heartbeat}
    (busy : s.active = some h) (known : ∀ pair ∈ answers, pair.1 ∈ h.held)
    (held : h'.held = (h.held.concludeAll answers).2) :
    Follows s (.renewed answers) { s with active := some h' }

/-! ## What each call does -/

theorem Site.whileActive_idle {α : Type} {site : Site} (idle : site.service.active = none)
    (otherwise : α) (step : Heartbeat → StateM World (α × Heartbeat)) :
    Site.whileActive otherwise step site = (otherwise, site) := by
  rw [Site.whileActive, bind_at, get_at]
  dsimp only
  rw [idle]
  rfl

theorem Site.whileActive_busy {α : Type} {site : Site} {h : Heartbeat}
    (busy : site.service.active = some h) (otherwise : α)
    (step : Heartbeat → StateM World (α × Heartbeat)) :
    Site.whileActive otherwise step site =
      ((step h site.world).1.1, ⟨(step h site.world).2,
        { site.service with active := some (step h site.world).1.2 }⟩) := by
  rw [Site.whileActive, bind_at, get_at]
  dsimp only
  rw [busy]
  rfl

namespace Service.Follows

variable {s : Service} {h : Heartbeat}

/-- A request that leaves the service as it is. -/
theorem unmoved {q : Query} {outcome : Outcome Verdict} (busy : s.active = some h)
    (handled : outcome ≠ .answer .unhandled)
    (held : h.held.afterRequest s.settings q outcome = h.held) :
    s.Follows (.asked q outcome) s := by
  have same : { s with active := some h } = s := by
    rw [← busy]
  have follows : s.Follows (.asked q outcome) { s with active := some h } :=
    .asked busy handled held.symm
  rwa [same] at follows

end Service.Follows

theorem Verdict.handled (b : Bool) : Outcome.answer (ofBool b) ≠ .answer .unhandled := by
  cases b <;> nofun

namespace Dealings

variable (d : Dealings) {site : Site} {h : Heartbeat}

/-- The background leaves the service as it is, and has its answer unless it crashes. -/
theorem beginLock_service (busy : site.service.active = some h) (r o : String) (hold : UInt64) :
    (d.beginLock r o hold site).2.service = site.service ∧
      ((d.beginLock r o hold site).1 = .crash ∨
        ∃ granted, (d.beginLock r o hold site).1 = .answer ⟨r, .answered granted⟩) := by
  rw [beginLock, bind_at, get_at]
  dsimp only
  rw [show site.service.client? = some h.client by rw [Service.client?, busy]; rfl]
  dsimp only
  split
  · exact ⟨rfl, .inl rfl⟩
  · rw [bind_at, Site.inWorld_at]
    generalize d.acquire h.client r o (site.service.settings.leaseFor hold) site.world = reply
    obtain ⟨work, w⟩ := reply
    cases work with
    | none => exact ⟨rfl, .inr ⟨false, rfl⟩⟩
    | some granted => exact ⟨rfl, .inr ⟨granted, rfl⟩⟩

theorem lock_follows (r o : String) (hold : UInt64) :
    site.service.Follows (.asked (.lock r o hold) (d.lock r o hold site).1)
      (d.lock r o hold site).2.service := by
  cases active : site.service.active with
  | none =>
    have idle : site.service.isStarted = false := by rw [Service.isStarted, active]; rfl
    rw [lock, bind_at, get_at]
    dsimp only
    rw [idle, Bool.not_false, if_pos rfl]
    exact .unhandled _ active
  | some h =>
    have busy : site.service.isStarted = true := by rw [Service.isStarted, active]; rfl
    obtain ⟨same, answer⟩ := d.beginLock_service active r o hold
    rw [lock, bind_at, get_at]
    dsimp only
    rw [busy, Bool.not_true, if_neg Bool.false_ne_true, bind_at]
    generalize d.beginLock r o hold site = reply at same answer ⊢
    obtain ⟨begun, site'⟩ := reply
    dsimp only at same answer
    rcases answer with rfl | ⟨granted, rfl⟩
    · rw [← same]
      exact .unmoved (same ▸ active) nofun rfl
    · cases granted with
      | false =>
        rw [← same]
        exact .unmoved (same ▸ active) nofun rfl
      | true =>
        have active' : site'.service.active = some h := same ▸ active
        obtain ⟨taken, -⟩ := h.track_spec r o (site.service.settings.leaseFor hold) site'.world
        have waited : LockFuture.wait (⟨r, .answered true⟩ : LockFuture)
            site.service.settings.waitBound site' = ((true, ⟨r, .answered true⟩), site') := rfl
        dsimp only
        rw [bind_at, waited, if_pos rfl, bind_at, Site.whileActive_busy active', bind_at, taken,
          pure_at, pure_at, ← same]
        exact .asked active' nofun rfl

theorem refresh_follows (r o : String) (hold : UInt64) :
    site.service.Follows (.asked (.refresh r o hold) (d.refreshLock r o hold site).1)
      (d.refreshLock r o hold site).2.service := by
  rw [refreshLock, bind_at, get_at]
  dsimp only
  cases active : site.service.active with
  | none =>
    rw [Site.whileActive_idle active]
    exact .unhandled _ active
  | some h =>
    rw [Site.whileActive_busy active, bind_at]
    generalize d.refresh h.client r o (site.service.settings.leaseFor hold) site.world = reply
    obtain ⟨answer, w⟩ := reply
    cases answer with
    | none => exact .asked active nofun rfl
    | some granted =>
      cases granted with
      | false => exact .asked active nofun rfl
      | true =>
        obtain ⟨taken, -⟩ := h.track_spec r o (site.service.settings.leaseFor hold) w
        dsimp only
        rw [bind_at, taken]
        exact .asked active nofun rfl

theorem unlock_follows (r o : String) :
    site.service.Follows (.asked (.unlock r o) (.answer (d.unlock r o site).1))
      (d.unlock r o site).2.service := by
  rw [unlock]
  cases active : site.service.active with
  | none =>
    rw [Site.whileActive_idle active]
    exact .unhandled _ active
  | some h =>
    rw [Site.whileActive_busy active]
    exact .asked active (Verdict.handled _) rfl

theorem isLocked_follows (r : String) :
    site.service.Follows (.asked (.isLocked r) (.answer (Service.isLocked r site).1))
      (Service.isLocked r site).2.service := by
  rw [Service.isLocked]
  cases active : site.service.active with
  | none =>
    rw [Site.whileActive_idle active]
    exact .unhandled _ active
  | some h =>
    rw [Site.whileActive_busy active, bind_at]
    exact .asked active (Verdict.handled (h.client.isLocked r site.world).1) rfl

theorem isLockedBy_follows (r o : String) :
    site.service.Follows (.asked (.isLockedBy r o) (d.isLockedBy r o site).1)
      (d.isLockedBy r o site).2.service := by
  rw [isLockedBy]
  cases active : site.service.active with
  | none =>
    rw [Site.whileActive_idle active]
    exact .unhandled _ active
  | some h =>
    rw [Site.whileActive_busy active, bind_at]
    generalize d.isActive h.client r o site.world = reply
    obtain ⟨answer, w⟩ := reply
    cases answer with
    | none => exact .asked active nofun rfl
    | some b => exact .asked active (Verdict.handled b) rfl

theorem before_follows (q : Query) :
    site.service.Follows (.asked q (d.before q site).1) (d.before q site).2.service := by
  cases q with
  | lock r o hold => exact d.lock_follows r o hold
  | refresh r o hold => exact d.refresh_follows r o hold
  | unlock r o => exact d.unlock_follows r o
  | isLocked r => exact isLocked_follows r
  | isLockedBy r o => exact d.isLockedBy_follows r o

/-- A heartbeat that begins holds nothing. -/
theorem activate_held (s : Service) (w : World) {h : Heartbeat}
    (began : (d.activate s w).1 = .answer h) : h.held = [] := by
  rw [activate, bind_at] at began
  generalize d.openStore s w = reply at began
  obtain ⟨opened, w₁⟩ := reply
  cases opened with
  | crash => cases began
  | fault f => cases began
  | answer store =>
    dsimp only at began
    rw [bind_at] at began
    generalize d.ensureSchema store w₁ = reply at began
    obtain ⟨schema, w₂⟩ := reply
    cases schema with
    | error f => cases began
    | ok _ =>
      dsimp only at began
      split at began
      · rw [bind_at] at began
        generalize d.sweep store s.settings.sweepGrace w₂ = reply at began
        obtain ⟨swept, w₃⟩ := reply
        cases swept with
        | none => cases began
        | some swept =>
          cases began
          rfl
      · cases began
        rfl

theorem start_follows :
    site.service.Follows (.started (d.start site).1) (d.start site).2.service := by
  rw [start, bind_at, get_at]
  dsimp only
  cases active : site.service.active with
  | some h =>
    rw [show site.service.isStarted = true by rw [Service.isStarted, active]; rfl, if_pos rfl]
    exact .startedAgain active
  | none =>
    rw [show site.service.isStarted = false by rw [Service.isStarted, active]; rfl,
      if_neg Bool.false_ne_true, bind_at, Site.inWorld_at]
    have empty := fun h => d.activate_held site.service site.world (h := h)
    generalize d.activate site.service site.world = reply at empty ⊢
    obtain ⟨begun, w⟩ := reply
    cases begun with
    | crash => exact .failed active nofun
    | fault f => exact .failed active nofun
    | answer h => exact .began active (empty h rfl)

/-- A start that comes second is only noted. -/
theorem start_again (busy : site.service.active ≠ none) :
    (d.start site).1 = .answer () ∧ site.Alike (d.start site).2 := by
  have started : site.service.isStarted = true := Option.isSome_iff_ne_none.mpr busy
  rw [start, bind_at, get_at]
  dsimp only
  rw [started, if_pos rfl]
  exact ⟨rfl, rfl, World.alike_note _ _⟩

theorem stop_follows : site.service.Follows .stopped (Service.stop site).2.service := by
  rw [Service.stop, bind_at, get_at]
  dsimp only
  cases active : site.service.active with
  | none =>
    have same : { site.service with active := none } = site.service := by rw [← active]
    have follows := Service.Follows.stopped (s := site.service)
    rwa [same] at follows
  | some h => exact .stopped

theorem renew_follows :
    site.service.Follows (.renewed (d.answers site)) (d.beat site).2.service := by
  rw [beat, answers]
  cases active : site.service.active with
  | none =>
    rw [Site.whileActive_idle active]
    exact .asleep active
  | some h =>
    rw [Site.whileActive_busy active]
    dsimp only
    by_cases resting : (!h.running || h.broken) = true
    · rw [if_pos resting, if_pos resting]
      exact .renewed active nofun rfl
    · rw [if_neg resting, if_neg resting, bind_at, tick]
      by_cases empty : h.held = []
      · have silent : h.held.isEmpty = true := List.isEmpty_iff.mpr empty
        have none_asked : (match site.world.clock.reading? with
            | none => []
            | some now => h.held.zip (d.extendAll h.client now h.held site.world).1) = [] := by
          rw [empty]
          split <;> rfl
        rw [none_asked, silent, if_pos rfl]
        exact .renewed active nofun rfl
      · have some_held : h.held.isEmpty = false :=
          Bool.eq_false_iff.mpr (mt List.isEmpty_iff.mp empty)
        rw [some_held, if_neg Bool.false_ne_true, bind_at]
        cases reading : site.world.clock.reading? with
        | none =>
          rw [World.atNow_of_none reading]
          exact .renewed active nofun rfl
        | some now =>
          rw [World.atNow_of_some reading]
          refine .renewed active (fun pair asked => ?_) rfl
          exact (List.of_mem_zip asked).1

theorem perform_follows (call : ServiceCall) :
    site.service.Follows (d.perform call site).1 (d.perform call site).2.service := by
  cases call with
  | start => exact d.start_follows
  | stop => exact stop_follows
  | ask q => exact d.before_follows q
  | renew => exact d.renew_follows

end Dealings

/-! ## What is held after each call -/

/-- The last deed is the one that counts, or it has ended nothing. -/
theorem since_concat (opens ends : ServiceDeed → Prop) (deeds : List ServiceDeed)
    (deed : ServiceDeed) :
    Since opens ends (deeds ++ [deed]) ↔ opens deed ∨ Since opens ends deeds ∧ ¬ ends deed := by
  constructor
  · rintro ⟨before, first, after, equal, opened, kept⟩
    rcases List.eq_nil_or_concat after with rfl | ⟨after, last, rfl⟩
    · obtain ⟨-, same⟩ := List.append_inj' equal rfl
      cases same
      exact .inl opened
    · rw [List.concat_eq_append] at equal kept
      rw [← List.cons_append, ← List.append_assoc] at equal
      obtain ⟨rfl, same⟩ := List.append_inj' equal rfl
      cases same
      refine .inr ⟨⟨before, first, after, rfl, opened, fun later h => ?_⟩, ?_⟩
      · exact kept later (List.mem_append_left _ h)
      · exact kept deed (List.mem_append_right _ List.mem_cons_self)
  · rintro (opened | ⟨⟨before, first, after, rfl, opened, kept⟩, last⟩)
    · exact ⟨deeds, deed, [], rfl, opened, nofun⟩
    · refine ⟨before, first, after ++ [deed], by simp, opened, fun later h => ?_⟩
      rcases List.mem_append.mp h with h | h
      · exact kept later h
      · rw [List.mem_singleton.mp h]
        exact last

namespace Held

variable {held : Held} {lock l : HeldLock} {settings : ServiceSettings}

theorem WellFormed.afterRequest (h : held.WellFormed) (settings : ServiceSettings) (q : Query)
    (outcome : Outcome Verdict) : (held.afterRequest settings q outcome).WellFormed := by
  unfold Held.afterRequest
  split
  · exact h.track
  · exact h.untrack
  · exact h

/-- A request takes its lock in, or leaves what it does not end. -/
theorem WellFormed.mem_afterRequest_iff (h : held.WellFormed) (q : Query)
    (outcome : Outcome Verdict) :
    l ∈ held.afterRequest settings q outcome ↔
      ServiceDeed.taken? settings (.asked q outcome) = some l ∨
        l ∈ held ∧ ¬ ServiceDeed.Ends settings l (.asked q outcome) := by
  unfold Held.afterRequest
  cases taken : ServiceDeed.taken? settings (.asked q outcome) with
  | some other =>
    refine h.mem_track_iff.trans (or_congr ?_ (and_congr_right fun _ => not_congr ?_))
    · exact ⟨fun same => congrArg some same.symm, fun same => (Option.some.inj same).symm⟩
    · constructor
      · exact fun same => .replaced taken same.symm
      · intro ends
        cases ends with
        | replaced taken' same =>
          rw [taken] at taken'
          cases taken'
          exact same.symm
        | unlocked => cases taken
  | none =>
    have unreplaced : ∀ {other}, ServiceDeed.taken? settings (.asked q outcome) ≠ some other := by
      rw [taken]
      nofun
    cases q with
    | unlock r o =>
      refine h.mem_untrack_iff.trans ?_
      constructor
      · rintro ⟨hl, other⟩
        refine .inr ⟨hl, fun ends => ?_⟩
        cases ends with
        | replaced taken' => exact unreplaced taken'
        | unlocked => exact other ⟨rfl, rfl⟩
      · rintro (taken' | ⟨hl, unended⟩)
        · cases taken'
        · refine ⟨hl, ?_⟩
          rintro ⟨rfl, rfl⟩
          exact unended (.unlocked outcome)
    | lock r o hold | refresh r o hold | isLocked r | isLockedBy r o =>
      refine ⟨fun hl => .inr ⟨hl, fun ends => ?_⟩, ?_⟩
      · cases ends with
        | replaced taken' => exact unreplaced taken'
      · rintro (taken' | ⟨hl, -⟩)
        · cases taken'
        · exact hl

end Held

/-! ## The account -/

/-- What is true of a service after such deeds. -/
structure Accounted (settings : ServiceSettings) (deeds : List ServiceDeed) (s : Service) :
    Prop where
  settings_eq : s.settings = settings
  working : Working deeds ↔ s.active ≠ none
  ascending : s.held.WellFormed
  held_iff : ∀ lock, lock ∈ s.held ↔ Renewed settings deeds lock

namespace Accounted

variable {settings : ServiceSettings} {deeds : List ServiceDeed} {deed : ServiceDeed}
  {s s' : Service} {h : Heartbeat}

theorem held_of_busy (busy : s.active = some h) : s.held = h.held := by
  rw [Service.held, busy]
  rfl

theorem held_of_idle (idle : s.active = none) : s.held = [] := by
  rw [Service.held, idle]
  rfl

/-- Nothing is renewed by a service that is not at work. -/
theorem not_renewed (account : Accounted settings deeds s) (idle : s.active = none)
    (lock : HeldLock) : ¬ Renewed settings deeds lock := by
  rw [← account.held_iff, held_of_idle idle]
  exact List.not_mem_nil

/-- A deed that takes nothing in and ends nothing. -/
theorem unmoved (account : Accounted settings deeds s) (untaken : deed.taken? settings = none)
    (working : Working (deeds ++ [deed]) ↔ s.active ≠ none)
    (ends : ∀ lock ∈ s.held, ¬ deed.Ends settings lock) :
    Accounted settings (deeds ++ [deed]) s := by
  refine ⟨account.settings_eq, working, account.ascending, fun lock => ?_⟩
  rw [Renewed, since_concat, untaken]
  constructor
  · exact fun held => .inr ⟨(account.held_iff lock).mp held, ends lock held⟩
  · rintro (taken | ⟨renewed, -⟩)
    · cases taken
    · exact (account.held_iff lock).mpr renewed

/-- Only starts and stops decide whether a service is at work. -/
theorem working_concat (account : Accounted settings deeds s)
    (other : deed ≠ .started (.answer ())) (other' : deed ≠ .stopped) :
    Working (deeds ++ [deed]) ↔ s.active ≠ none := by
  rw [Working, since_concat, ← account.working]
  exact ⟨fun h => (h.resolve_left other).1, fun h => .inr ⟨h, other'⟩⟩

/-- A deed of a service at work that changes what is held as it should. -/
theorem moved {h' : Heartbeat} (account : Accounted settings deeds s) (busy : s.active = some h)
    (other : deed ≠ .started (.answer ())) (other' : deed ≠ .stopped)
    (ordered : h'.held.WellFormed)
    (held : ∀ lock, lock ∈ h'.held ↔ deed.taken? settings = some lock ∨
      lock ∈ h.held ∧ ¬ deed.Ends settings lock) :
    Accounted settings (deeds ++ [deed]) { s with active := some h' } := by
  refine ⟨account.settings_eq, ?_, ordered, fun lock => ?_⟩
  · refine (account.working_concat other other').trans ?_
    rw [busy]
    exact ⟨fun _ => nofun, fun _ => nofun⟩
  · rw [held_of_busy (s := { s with active := some h' }) rfl, held lock, ← held_of_busy busy,
      account.held_iff, Renewed, Renewed, since_concat]

theorem not_ends_started (outcome : Outcome Unit) (lock : HeldLock) :
    ¬ ServiceDeed.Ends settings lock (.started outcome) := by
  rintro ⟨taken, -⟩
  cases taken

/-- A start that succeeds, with nothing held so far. -/
theorem began (account : Accounted settings deeds s) (idle : s.active = none)
    (empty : h.held = []) :
    Accounted settings (deeds ++ [.started (.answer ())]) { s with active := some h } := by
  have none_held : Service.held { s with active := some h } = [] :=
    (held_of_busy rfl).trans empty
  refine ⟨account.settings_eq, ?_, none_held ▸ Held.wellFormed_nil, fun lock => ?_⟩
  · rw [Working, since_concat]
    exact ⟨fun _ => nofun, fun _ => .inl rfl⟩
  · rw [none_held, Renewed, since_concat]
    constructor
    · intro held
      cases held
    · rintro (taken | ⟨renewed, -⟩)
      · cases taken
      · exact absurd renewed (account.not_renewed idle lock)

/-- A stop ends everything. -/
theorem stopped (account : Accounted settings deeds s) :
    Accounted settings (deeds ++ [.stopped]) { s with active := none } := by
  refine ⟨account.settings_eq, ?_, Held.wellFormed_nil, fun lock => ?_⟩
  · rw [Working, since_concat]
    constructor
    · rintro (started | ⟨-, running⟩)
      · cases started
      · exact absurd rfl running
    · exact fun busy => absurd rfl busy
  · rw [Renewed, since_concat]
    constructor
    · intro held
      cases held
    · rintro (taken | ⟨-, unended⟩)
      · cases taken
      · exact absurd .stopped unended

/-- A pass keeps what it could extend, and all it did not go through. -/
theorem mem_concludeAll_iff_not_ends {held : Held} (ordered : held.WellFormed)
    {answers : List (HeldLock × Except StoreFault Bool)} (known : ∀ pair ∈ answers, pair.1 ∈ held)
    (lock : HeldLock) :
    lock ∈ (held.concludeAll answers).2 ↔
      lock ∈ held ∧ ¬ ServiceDeed.Ends settings lock (.renewed answers) := by
  rw [(Held.concludeAll_concluded ordered answers).mem_iff]
  refine and_congr_right fun here => ⟨fun renewed ends => ?_, fun unended answer extended => ?_⟩
  · cases ends with
    | replaced taken => cases taken
    | notRenewed extended same failed =>
      -- the pass went through what was held, and nothing else is held on the resource
      obtain rfl := ordered.eq_of_mem (known _ extended) here same
      exact failed (renewed _ extended)
  · by_contra failed
    exact unended (.notRenewed extended rfl failed)

/-- Each call keeps the account. -/
theorem step (account : Accounted settings deeds s) (follows : s.Follows deed s') :
    Accounted settings (deeds ++ [deed]) s' := by
  cases follows with
  | began idle empty => exact account.began idle empty
  | failed idle other =>
    refine account.unmoved rfl ?_ fun lock _ => not_ends_started _ lock
    exact account.working_concat (by simpa using other) nofun
  | startedAgain busy =>
    refine account.unmoved rfl ?_ fun lock _ => not_ends_started _ lock
    rw [Working, since_concat, busy]
    exact ⟨fun _ => nofun, fun _ => .inl rfl⟩
  | stopped => exact account.stopped
  | unhandled q idle =>
    refine account.unmoved (by cases q <;> rfl) (account.working_concat nofun nofun) ?_
    rw [held_of_idle idle]
    nofun
  | asleep idle =>
    refine account.unmoved rfl (account.working_concat nofun nofun) ?_
    rw [held_of_idle idle]
    nofun
  | @asked q outcome h h' busy handled held =>
    have ordered : h.held.WellFormed := held_of_busy busy ▸ account.ascending
    rw [account.settings_eq] at held
    refine account.moved busy nofun nofun ?_ fun lock => ?_
    · rw [held]
      exact ordered.afterRequest settings q outcome
    · rw [held]
      exact ordered.mem_afterRequest_iff q outcome
  | @renewed answers h h' busy known held =>
    have ordered : h.held.WellFormed := held_of_busy busy ▸ account.ascending
    refine account.moved busy nofun nofun ?_ fun lock => ?_
    · rw [held]
      exact ordered.concludeAll answers
    · rw [held, mem_concludeAll_iff_not_ends ordered known]
      exact ⟨.inr, fun h => h.resolve_left nofun⟩

/-- A course of calls keeps the account. -/
theorem course (account : Accounted settings deeds s) (steps : List ServiceStep) (world : World) :
    Accounted settings (deeds ++ (Service.course steps ⟨world, s⟩).1)
      (Service.course steps ⟨world, s⟩).2.service := by
  induction steps generalizing deeds s world with
  | nil =>
    rw [Service.course, pure_at, List.append_nil]
    exact account
  | cons step rest ih =>
    have follows : Service.Follows s _ _ :=
      @Dealings.perform_follows step.dealings ⟨step.others world, s⟩ step.call
    rw [Service.course, bind_at, modify_at, bind_at]
    generalize step.dealings.perform step.call ⟨step.others world, s⟩ = reply at follows ⊢
    obtain ⟨deed, world', s'⟩ := reply
    have after := ih (account.step follows) world'
    rw [List.append_assoc, List.singleton_append] at after
    exact after

end Accounted

/-- A lock goes on being renewed when somebody else wants to unlock it. -/
example :
    let steps := [.start, .ask (.lock "door" "ann" 5), .ask (.lock "gate" "ann" 7),
      .ask (.unlock "gate" "ann"), .ask (.unlock "door" "bob"), .renew].map
        fun call => ServiceStep.mk id .plain call
    (Service.course steps ⟨World.new ⟨0, 0⟩, Service.onStore default .memory⟩).2.service.held =
      [⟨"door", "ann", Span.ofSeconds 5⟩] := by
  decide +kernel

end Leasehold
