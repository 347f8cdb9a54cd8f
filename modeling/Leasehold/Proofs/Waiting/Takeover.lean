import Leasehold.Proofs.Command.Process
import Leasehold.Proofs.Waiting.Calm
import Leasehold.Proofs.Waiting.Trace

/-!
# Waiting for a lock that was left behind

Nobody renews the row of a holder that is gone, and from its deadline on anybody may take it over.
A wait for it is granted the lock if and only if the clock is past the deadline when the time of
the wait is over, since the last attempt falls on that end.  It is granted by the first attempt
after the deadline, and attempts are never further apart than the ceiling of the schedule.

The service decides each attempt by the row and the reading of the clock alone
(`Query.effect_lock_of_row`), so that the wait is calm in the sense of `Wait.Calm`; which attempts
there were is seen in its record.

This rests on a worker that is named after the resource.  Where there can be none the service
crashes, the manager takes that for no decision, and its own policy grants at once what somebody
else has in the table (`takeover_jumped`).
-/

namespace Leasehold

open Program

/-! ## Time -/

namespace Clock

/-- Both clocks after so many nanoseconds. -/
def after (c : Clock) (nanos : Nat) : Clock := ⟨c.epoch + nanos, c.uptime + nanos⟩

@[simp] theorem after_zero (c : Clock) : c.after 0 = c := by
  simp [after]

theorem advance_after (c : Clock) (nanos : Nat) (s : Span) :
    (c.after nanos).advance s = c.after (nanos + s.nanos) := by
  simp only [after, advance, Int.natCast_add, Int.add_assoc, Nat.add_assoc]

theorem millis_after_mono (c : Clock) {n m : Nat} (h : n ≤ m) :
    (c.after n).millis ≤ (c.after m).millis := by
  unfold millis after
  rw [Int.fdiv_eq_ediv_of_nonneg _ (by decide), Int.fdiv_eq_ediv_of_nonneg _ (by decide)]
  dsimp only
  omega

end Clock

/-! ## Attempts on a row -/

namespace Attempt

variable {t : Table} {e : Entry} {row : LockRow}

/-- A row with a number for its deadline is taken over from then on, and respected before. -/
theorem perform_of_row (claim : Claim) (single : t.Single claim.row.resource)
    (found : t.entryOf? claim.row.resource = some e) (readable : e.row = .ok row)
    (numbered : e.deadline = .integer row.deadline) :
    perform claim ⟨some t⟩ =
      if row.deadline < claim.now then
        (.tookOver row, ⟨some (t.stealIfStale claim.row claim.now).2⟩)
      else (.held row, ⟨some t⟩) := by
  have occupied : t.insertIfAbsent claim.row = (false, t) := by
    simp [Table.insertIfAbsent, found]
  have first : step claim insert ⟨some t⟩ = (read, ⟨some t⟩) := by
    rw [step_insert, occupied]
    rfl
  by_cases stale : row.deadline < claim.now
  · have second : step claim read ⟨some t⟩ = (steal row, ⟨some t⟩) := by
      rw [step_read_of_row found readable, if_pos ((row.isStaleAt_iff claim.now).mpr stale)]
    have stolen : (t.stealIfStale claim.row claim.now).1 = true := by
      rw [single.stealIfStale_fst, found, Option.any_some, numbered, Cell.below_integer]
      exact decide_eq_true stale
    have third : step claim (steal row) ⟨some t⟩ =
        (done (.tookOver row), ⟨some (t.stealIfStale claim.row claim.now).2⟩) := by
      rw [step_steal, if_pos stolen]
    simp only [perform, first, second, third, if_pos stale]
  · have second : step claim read ⟨some t⟩ = (done (.held row), ⟨some t⟩) := by
      rw [step_read_of_row found readable, if_neg (mt (row.isStaleAt_iff claim.now).mp stale)]
    simp only [perform, first, second, step_done, if_neg stale]

end Attempt

/-- The service grants a lock for which there is a row if and only if the row is past its deadline,
and only then it changes anything. -/
theorem Query.effect_lock_of_row (resource owner host : String) (hold : UInt64)
    (lease : UInt64 → Span) (now : Int) {db : Database} {e : Entry} {row : LockRow}
    (single : db.Has (Table.Single resource)) (found : db.entryOf? resource = some e)
    (readable : e.row = .ok row) (numbered : e.deadline = .integer row.deadline) :
    ((Query.lock resource owner hold).effect host lease now db).1 = decide (row.deadline < now) ∧
      (¬ row.deadline < now →
        ((Query.lock resource owner hold).effect host lease now db).2 = db) ∧
      (row.deadline < now →
        ((Query.lock resource owner hold).effect host lease now db).2.entryOf? resource =
          some (Entry.ofRow (Claim.new now resource host owner (lease hold)).row)) := by
  obtain ⟨t, rfl, single⟩ := single
  have found : t.entryOf? resource = some e := found
  obtain ⟨claim, hclaim⟩ : ∃ claim, claim = Claim.new now resource host owner (lease hold) :=
    ⟨_, rfl⟩
  have named : claim.row.resource = resource := by rw [hclaim]; rfl
  have reading : claim.now = now := by rw [hclaim]; rfl
  have performed := Attempt.perform_of_row claim (named ▸ single) (named ▸ found) readable
    numbered
  rw [Query.effect, ← hclaim, performed, reading]
  by_cases stale : row.deadline < now
  · have stolen : (t.stealIfStale claim.row now).1 = true := by
      rw [Table.Single.stealIfStale_fst (named ▸ single), named, found, Option.any_some, numbered,
        Cell.below_integer]
      exact decide_eq_true stale
    rw [if_pos stale]
    refine ⟨(decide_eq_true stale).symm, fun fresh => absurd stale fresh, fun _ => ?_⟩
    dsimp only
    rw [Database.entryOf?_some, single.entryOf?_stealIfStale, if_pos ⟨stolen, named.symm⟩]
  · rw [if_neg stale]
    exact ⟨(decide_eq_false stale).symm, fun _ => rfl, fun past => absurd past stale⟩

/-! ## A site that nobody disturbs -/

/-- The site after some time. -/
def Site.later (length : Span) (site : Site) : Site :=
  { site with world := { site.world with clock := site.world.clock.advance length } }

/-- Surroundings of a site in which time passes in pauses only, and nobody asks to stop.  The
observer may look at everything, but he only gives something out. -/
structure Surroundings.Undisturbed (s : Surroundings Site) : Prop where
  now : ∀ site : Site, (s.now site).1 = site.world.clock.uptime ∧ site.Alike (s.now site).2
  stopped : ∀ site : Site, (s.stopped site).1 = false ∧ site.Alike (s.stopped site).2
  observe : ∀ observe, s.observe = some observe →
    ∀ event (site : Site), site.Alike (observe event site).2
  sleep : ∀ length (site : Site), (site.later length).Alike (s.sleep length site).2

section Sites

variable {c : Client} {settings : ServiceSettings} {clock : Clock} {db : Database} {site : Site}

/-- Time passes and leaves everything as it is. -/
theorem Site.Serves.later (h : site.Serves c settings clock db) (length : Span) :
    (site.later length).Serves c settings (clock.advance length) db := by
  obtain ⟨isOpen, time, found⟩ := h.holds
  refine ⟨h.settings_eq, h.client_eq, ?_, ?_, ?_⟩
  · cases hstore : c.store with
    | memory => trivial
    | file path =>
      rw [hstore] at isOpen
      exact isOpen
  · rw [← time]
    rfl
  · rw [← found]
    cases c.store <;> rfl

end Sites

/-! ## The wait -/

/-- The states in which attempts were made, in their order. -/
def Wait.attempts {ε : Type} (deeds : List (WaitDeed ε)) : List ε :=
  deeds.filterMap fun
    | .asked state _ => some state
    | .told _ => none

theorem Wait.attempts_append {ε : Type} (deeds more : List (WaitDeed ε)) :
    attempts (deeds ++ more) = attempts deeds ++ attempts more := List.filterMap_append

namespace Session

variable {c : Client} {settings : ServiceSettings} {clock : Clock} {db : Database} {s : Session}
  {resource owner : String} {hold : UInt64} {deadline : Int}

theorem Ready.of_alike {s' : Session} (h : s.Ready c settings clock db)
    (same : s'.features = s.features) (alike : s.outer.Alike s'.outer) :
    s'.Ready c settings clock db :=
  ⟨same.trans h.features_eq, h.serves.of_alike alike⟩

/-- The lock was refused so far, each time by the deadline, and nothing has changed but the time. -/
structure Refused (c : Client) (settings : ServiceSettings) (clock : Clock) (db : Database)
    (deadline : Int) (s : Session) (deeds : List (WaitDeed Session)) : Prop where
  ready : s.Ready c settings clock db
  early : ∀ attempt ∈ Wait.attempts deeds, attempt.world.clock.millis ≤ deadline

/-- The lock was granted by the first attempt past the deadline, and the row is the claim of that
moment. -/
structure TakenOver (c : Client) (settings : ServiceSettings) (clock : Clock)
    (resource owner : String) (hold : UInt64) (deadline : Int) (s : Session)
    (deeds : List (WaitDeed Session)) : Prop where
  claimed : ∃ db, s.Ready c settings clock db ∧ db.entryOf? resource = some (Entry.ofRow
    ⟨resource, c.host, owner, deadlineAfter clock.millis (settings.dueLease hold)⟩)
  first : ∃ earlier last, Wait.attempts deeds = earlier ++ [last] ∧
    (∀ attempt ∈ earlier, attempt.world.clock.millis ≤ deadline) ∧
    last.world.clock = clock ∧ deadline < clock.millis

/-- What is known of a wait on record for a row after so many nanoseconds. -/
def Known (c : Client) (settings : ServiceSettings) (clock : Clock) (db : Database)
    (resource owner : String) (hold : UInt64) (deadline : Int) (limit : Nat) :
    Bool → Nat → OnRecord Session → Prop
  | false, elapsed, (s, deeds) =>
    elapsed ≤ limit ∧ Refused c settings (clock.after elapsed) db deadline s deeds
  | true, elapsed, (s, deeds) =>
    TakenOver c settings (clock.after elapsed) resource owner hold deadline s deeds

/-- What is known of a wait on record that the manager's own policy decides, where `holders` were
there at its beginning. -/
def Strayed (c : Client) (settings : ServiceSettings) (clock : Clock) (db : Database)
    (resource : String) (holders : Holders) : Bool → Nat → OnRecord Session → Prop
  | false, elapsed, (s, deeds) =>
    s.Ready c settings (clock.after elapsed) db ∧ s.holders = holders ∧
      (holders.holder? resource = none → Wait.attempts deeds = [])
  | true, elapsed, (s, deeds) =>
    s.Ready c settings (clock.after elapsed) db ∧ (Wait.attempts deeds).length = 1

/-! ## Waits that nothing but time goes by -/

/-- What is known of a wait that began at `clock` stays known where nothing happens, and while time
passes up to the end. -/
structure Lasting (clock : Clock) (limit : Nat) (known : Bool → Nat → OnRecord Session → Prop) :
    Prop where
  clock_eq : ∀ {had elapsed s deeds}, known had elapsed (s, deeds) →
    s.outer.world.clock = clock.after elapsed
  of_alike : ∀ {had elapsed s deeds}, known had elapsed (s, deeds) → ∀ s' more,
    s'.features = s.features → s'.holders = s.holders → s.outer.Alike s'.outer →
      Wait.attempts more = [] → known had elapsed (s', deeds ++ more)
  later : ∀ {length : Span} {elapsed s deeds}, elapsed + length.nanos ≤ limit →
    known false elapsed (s, deeds) →
      known false (elapsed + length.nanos) ({ s with outer := s.outer.later length }, deeds)

/-- Undisturbed surroundings make a calm wait of any attempts that go by what lasts. -/
theorem Lasting.calm {around : Surroundings Site} (undisturbed : around.Undisturbed) {limit : Nat}
    {known : Bool → Nat → OnRecord Session → Prop} (lasting : Lasting clock limit known)
    {opens : Nat → Bool}
    (attempt : ∀ {elapsed state}, known false elapsed state →
      let asking : Asking Session := Manager.asking resource owner hold
      (asking.recorded.attempt state).1 = .ok (opens elapsed) ∧
        known (opens elapsed) elapsed (asking.recorded.attempt state).2) :
    Wait.Calm (Manager.within around).recorded
      (Manager.asking resource owner hold : Asking Session).recorded clock.uptime limit
      opens known where
  now := by
    rintro had elapsed ⟨s, deeds⟩ h
    obtain ⟨now, alike⟩ := undisturbed.now s.outer
    refine ⟨?_, ?_⟩
    · show (around.now s.outer).1 = _
      rw [now]
      exact congrArg Clock.uptime (lasting.clock_eq h)
    · have after := lasting.of_alike h (Manager.outside around.now s).2 [] rfl rfl alike rfl
      rwa [List.append_nil] at after
  stopped := by
    rintro elapsed ⟨s, deeds⟩ h
    obtain ⟨running, alike⟩ := undisturbed.stopped s.outer
    refine ⟨running, ?_⟩
    have after := lasting.of_alike h (Manager.outside around.stopped s).2 [] rfl rfl alike rfl
    rwa [List.append_nil] at after
  observe := by
    rintro observe observed event had elapsed ⟨s, deeds⟩ h
    cases hobserve : around.observe with
    | none => simp [Surroundings.recorded, Manager.within, hobserve] at observed
    | some told =>
      simp only [Surroundings.recorded, Manager.within, hobserve, Option.map_some,
        Option.some.injEq] at observed
      subst observed
      exact lasting.of_alike h (Manager.outside (told event) s).2 _ rfl rfl
        (undisturbed.observe told hobserve event s.outer) rfl
  sleep := by
    rintro length elapsed ⟨s, deeds⟩ inTime h
    have after := lasting.of_alike (lasting.later inTime h)
      (Manager.outside (around.sleep length) s).2 [] rfl rfl
      (undisturbed.sleep length s.outer) rfl
    rwa [List.append_nil] at after
  attempt := attempt
  granted := by
    rintro refusals waited elapsed ⟨s, deeds⟩ h
    have after := lasting.of_alike h ((Manager.asking resource owner hold : Asking Session).granted
      refusals waited s).2 [] rfl rfl ⟨rfl, World.alike_note _ _⟩ rfl
    rwa [List.append_nil] at after

theorem attempts_of_silent (deeds : List (WaitDeed Session)) {more : List (WaitDeed Session)}
    (silent : Wait.attempts more = []) : Wait.attempts (deeds ++ more) = Wait.attempts deeds := by
  rw [Wait.attempts_append, silent, List.append_nil]

/-- Time passes and the session stays ready. -/
theorem Ready.later (h : s.Ready c settings clock db) (length : Span) :
    Ready c settings (clock.advance length) db { s with outer := s.outer.later length } :=
  ⟨h.features_eq, h.serves.later length⟩

/-! ## A wait for a row -/

theorem lasting_known (c : Client) (settings : ServiceSettings) {limit : Nat} :
    Lasting clock limit (Known c settings clock db resource owner hold deadline limit) where
  clock_eq := by
    intro had elapsed s deeds h
    cases had with
    | false => exact h.2.ready.serves.holds.clock_eq
    | true =>
      obtain ⟨⟨db, ready, -⟩, -⟩ := h
      exact ready.serves.holds.clock_eq
  of_alike := by
    intro had elapsed s deeds h s' more same _ alike silent
    cases had with
    | false =>
      obtain ⟨inTime, ready, early⟩ := h
      exact ⟨inTime, ready.of_alike same alike, by rwa [attempts_of_silent deeds silent]⟩
    | true =>
      obtain ⟨⟨db, ready, claimed⟩, first⟩ := h
      exact ⟨⟨db, ready.of_alike same alike, claimed⟩, by rwa [attempts_of_silent deeds silent]⟩
  later := by
    rintro length elapsed s deeds inTime ⟨-, ready, early⟩
    rw [Known, ← Clock.advance_after]
    exact ⟨inTime, ready.later length, early⟩

/-- An attempt in the course of the wait. -/
theorem Known.attempt {limit : Nat} {e : Entry} {row : LockRow} {elapsed : Nat}
    {state : OnRecord Session} (single : db.Has (Table.Single resource))
    (found : db.entryOf? resource = some e) (readable : e.row = .ok row)
    (numbered : e.deadline = .integer row.deadline)
    (accepted : (Query.lock resource owner hold).fault? = none)
    (nameable : LockFuture.unnameable resource = false) (since : 0 ≤ clock.millis)
    (inRange : (clock.after limit).millis ≤ Calendar.last)
    (h : Known c settings clock db resource owner hold row.deadline limit false elapsed state) :
    let opens := decide (row.deadline < (clock.after elapsed).millis)
    let asking : Asking Session := Manager.asking resource owner hold
    (asking.recorded.attempt state).1 = .ok opens ∧
      Known c settings clock db resource owner hold row.deadline limit opens elapsed
        (asking.recorded.attempt state).2 := by
  obtain ⟨s, deeds⟩ := state
  obtain ⟨inTime, ready, early⟩ := h
  have passed : clock.millis ≤ (clock.after elapsed).millis := by
    have start := clock.millis_after_mono (Nat.zero_le elapsed)
    rwa [Clock.after_zero] at start
  have reading : (clock.after elapsed).reading? = some (clock.after elapsed).millis :=
    Clock.reading?_eq_some_iff.mpr ⟨rfl, Int.le_trans since passed,
      Int.le_trans (clock.millis_after_mono inTime) inRange⟩
  obtain ⟨answer, left⟩ := ask_spec ready reading accepted nameable
  rw [settings.leaseFor_eq] at answer left
  obtain ⟨granted, unchanged, claimed⟩ := Query.effect_lock_of_row resource owner c.host hold
    settings.dueLease (clock.after elapsed).millis single found readable numbered
  have time : s.world.clock = clock.after elapsed := ready.serves.holds.clock_eq
  rw [granted] at answer
  refine ⟨answer, ?_⟩
  have asked : Wait.attempts (deeds ++ [.asked s (.ok (decide (row.deadline <
      (clock.after elapsed).millis)))]) = Wait.attempts deeds ++ [s] := Wait.attempts_append _ _
  have next : ((Manager.asking resource owner hold : Asking Session).recorded.attempt (s, deeds)).2
      = ((Manager.ask (.lock resource owner hold) s).2,
        deeds ++ [.asked s (Manager.ask (.lock resource owner hold) s).1]) := rfl
  rw [next, answer]
  by_cases past : row.deadline < (clock.after elapsed).millis
  · rw [decide_eq_true past] at asked ⊢
    exact ⟨⟨_, left, claimed past⟩, _, s, asked, early, time, past⟩
  · rw [decide_eq_false past] at asked ⊢
    rw [unchanged past] at left
    refine ⟨inTime, left, fun attempt h => ?_⟩
    rw [asked] at h
    rcases List.mem_append.mp h with h | h
    · exact early attempt h
    · rw [List.mem_singleton.mp h, time]
      exact Int.not_lt.mp past

/-- What the end of a wait for a row says. -/
theorem ended_known {w : Wait} {limit : Span} {result : Except Fault Bool}
    {deeds : List (WaitDeed Session)}
    (ended : Wait.Calm.Ended w limit.nanos
      (fun elapsed => decide (deadline < (clock.after elapsed).millis))
      (Known c settings clock db resource owner hold deadline limit.nanos) 0 result (s, deeds)) :
    (result ≠ .ok true → result = .error (w.timeoutAfter limit.nanos) ∧
      Ready c settings (clock.advance limit) db s) ∧
    (result = .ok true ↔ deadline < (clock.advance limit).millis) ∧
    (result = .ok true → ∃ elapsed ≤ limit,
      TakenOver c settings (clock.advance elapsed) resource owner hold deadline s deeds ∧
      ∀ moment : Span, deadline < (clock.advance moment).millis →
        elapsed.nanos ≤ moment.nanos + w.schedule.ceiling.nanos) := by
  cases ended with
  | timedOut closed known =>
    have early : ¬ deadline < (clock.advance limit).millis := of_decide_eq_false closed
    exact ⟨fun _ => ⟨rfl, known.2.ready⟩, ⟨nofun, fun late => absurd late early⟩, nofun⟩
  | @granted last _ opened begun inTime soon known =>
    have past : deadline < (clock.after last).millis := of_decide_eq_true opened
    refine ⟨fun other => absurd rfl other, ⟨fun _ => ?_, fun _ => rfl⟩, fun _ => ?_⟩
    · exact Int.lt_of_lt_of_le past (clock.millis_after_mono inTime)
    · refine ⟨⟨last, Nat.lt_of_le_of_lt inTime limit.nanos_lt⟩, inTime, known, ?_⟩
      intro moment late
      rcases soon with rfl | ⟨earlier, -, refused, soon⟩
      · exact Nat.zero_le _
      · -- the clock was not past the deadline at the attempt before
        have after : earlier ≤ moment.nanos := by
          refine Nat.le_of_not_lt fun before => ?_
          have early := of_decide_eq_false refused
          exact early (Int.lt_of_lt_of_le late (clock.millis_after_mono (Nat.le_of_lt before)))
        exact Nat.le_trans soon (Nat.add_le_add_right after _)

/-! ## A wait that goes past the row -/

theorem lasting_strayed (c : Client) (settings : ServiceSettings) {holders : Holders}
    {limit : Nat} :
    Lasting clock limit (Strayed c settings clock db resource holders) where
  clock_eq := by
    intro had elapsed s deeds h
    cases had with
    | false => exact h.1.serves.holds.clock_eq
    | true => exact h.1.serves.holds.clock_eq
  of_alike := by
    intro had elapsed s deeds h s' more same policy alike silent
    cases had with
    | false =>
      obtain ⟨ready, held, unasked⟩ := h
      exact ⟨ready.of_alike same alike, policy.trans held,
        by rwa [attempts_of_silent deeds silent]⟩
    | true =>
      obtain ⟨ready, once⟩ := h
      exact ⟨ready.of_alike same alike, by rwa [attempts_of_silent deeds silent]⟩
  later := by
    rintro length elapsed s deeds - ⟨ready, held, unasked⟩
    rw [Strayed, ← Clock.advance_after]
    exact ⟨ready.later length, held, unasked⟩

/-- An attempt in the course of a wait that the manager's own policy decides. -/
theorem Strayed.attempt {holders : Holders} {elapsed : Nat} {state : OnRecord Session}
    (accepted : (Query.lock resource owner hold).fault? = none)
    (unnameable : LockFuture.unnameable resource = true)
    (h : Strayed c settings clock db resource holders false elapsed state) :
    let asking : Asking Session := Manager.asking resource owner hold
    (asking.recorded.attempt state).1 = .ok (holders.holder? resource).isNone ∧
      Strayed c settings clock db resource holders (holders.holder? resource).isNone elapsed
        (asking.recorded.attempt state).2 := by
  obtain ⟨s, deeds⟩ := state
  obtain ⟨ready, rfl, unasked⟩ := h
  obtain ⟨answer, policy, left⟩ := ask_unnameable ready accepted unnameable
  have next : ((Manager.asking resource owner hold : Asking Session).recorded.attempt (s, deeds)).2
      = ((Manager.ask (.lock resource owner hold) s).2,
        deeds ++ [.asked s (Manager.ask (.lock resource owner hold) s).1]) := rfl
  dsimp only
  rw [next]
  cases free : s.holders.holder? resource with
  | none =>
    rw [Holders.decide, free] at answer
    refine ⟨answer, left, ?_⟩
    rw [Wait.attempts_append, unasked free]
    rfl
  | some holder =>
    rw [Holders.decide, free] at answer policy
    exact ⟨answer, left, policy, fun none_holds => by rw [free] at none_holds; cases none_holds⟩

/-- What the end of a wait says that the manager's own policy decides. -/
theorem ended_strayed {w : Wait} {limit : Span} {holders : Holders} {result : Except Fault Bool}
    {deeds : List (WaitDeed Session)}
    (ended : Wait.Calm.Ended w limit.nanos (fun _ => (holders.holder? resource).isNone)
      (Strayed c settings clock db resource holders) 0 result (s, deeds)) :
    (result ≠ .ok true → result = .error (w.timeoutAfter limit.nanos) ∧
      Ready c settings (clock.advance limit) db s) ∧
    (result = .ok true ↔ holders.holder? resource = none) ∧
    (result = .ok true → (Wait.attempts deeds).length = 1 ∧ Ready c settings clock db s) := by
  cases ended with
  | timedOut closed known =>
    refine ⟨fun _ => ⟨rfl, known.1⟩, ⟨nofun, fun free => ?_⟩, nofun⟩
    rw [free] at closed
    cases closed
  | @granted last _ opened begun inTime soon known =>
    refine ⟨fun other => absurd rfl other, ⟨fun _ => Option.isNone_iff_eq_none.mp opened,
      fun _ => rfl⟩, fun _ => ⟨known.2, ?_⟩⟩
    -- the first attempt would have been granted
    rcases soon with rfl | ⟨earlier, -, refused, -⟩
    · have ready := known.1
      rwa [Clock.after_zero] at ready
    · rw [opened] at refused
      cases refused

/-! ## To the end of the wait -/

/-- A calm wait of a session comes to its end, and so it does on record. -/
theorem lockWithWait_ends {around : Surroundings Site} {opens : Nat → Bool}
    {known : Bool → Nat → OnRecord Session → Prop} {limit first ceiling : Span}
    (calm : Wait.Calm (Manager.within around).recorded
      (Manager.asking resource owner hold : Asking Session).recorded clock.uptime limit.nanos
      opens known)
    (finite : (waitEnd? clock.uptime limit).isSome) (some_first : Span.zero < first)
    (some_ceiling : Span.zero < ceiling) (source : BoundSource) (start : known false 0 (s, [])) :
    let w := Wait.new clock.uptime resource (.finite limit) source (.new first ceiling)
    ∃ enough, ∀ rounds, enough ≤ rounds → ∃ result deeds,
      (Manager.lockWithWait around owner hold rounds w s).1.1 = some result ∧
      w.run (Manager.within around).recorded (Manager.asking resource owner hold).recorded rounds
          (s, []) =
        ((Manager.lockWithWait around owner hold rounds w s).1,
          ((Manager.lockWithWait around owner hold rounds w s).2, deeds)) ∧
      Wait.Calm.Ended w limit.nanos opens known 0 result
        ((Manager.lockWithWait around owner hold rounds w s).2, deeds) := by
  intro w
  have ends : w.deadline = some (w.began + limit.nanos) := waitEnd?_of_isSome finite
  have next : 0 < w.schedule.next.nanos := by
    show 0 < (first.shorter ceiling).nanos
    rw [Span.nanos_shorter]
    exact Nat.lt_min.mpr ⟨some_first, some_ceiling⟩
  obtain ⟨enough, finishes⟩ := Wait.Calm.run (w := w) calm ends rfl next
    (RetrySchedule.new_next_le_ceiling first ceiling) (Nat.zero_le _) start
  refine ⟨enough, fun rounds some_left => ?_⟩
  obtain ⟨result, v, finished, ended⟩ := finishes rounds some_left
  obtain ⟨deeds, -, equal⟩ := Wait.records_run (Manager.within around) rounds
    (Wait.Retried.start : Wait.Retried _ (Manager.asking resource owner hold) w w []) s []
  rw [List.nil_append] at equal
  have plain : Manager.lockWithWait around owner hold rounds w s =
      w.run (Manager.within around) (Manager.asking resource owner hold) rounds s := rfl
  rw [← plain] at equal
  rw [equal] at finished ended
  exact ⟨result, deeds, congrArg Prod.fst finished, equal, ended⟩

/-- A waiter gets the lock of a holder that is gone if and only if the clock is past the deadline of
the row when the time of the wait is over, and by the first of its attempts past the deadline, at
most a ceiling after the deadline has passed.  Otherwise nothing has changed.

It is otherwise with a resource that no worker can be named after, for which the service is of no
avail: whatever the row says, the first attempt is granted and leaves it alone, unless somebody
holds the resource by the manager's own policy, which then nobody ever gets. -/
theorem takeover {around : Surroundings Site} (undisturbed : around.Undisturbed) {s : Session}
    (ready : s.Ready c settings clock db) {e : Entry} {row : LockRow}
    (single : db.Has (Table.Single resource)) (found : db.entryOf? resource = some e)
    (readable : e.row = .ok row) (numbered : e.deadline = .integer row.deadline)
    (accepted : (Query.lock resource owner hold).fault? = none) (limit first ceiling : Span)
    (finite : (waitEnd? clock.uptime limit).isSome) (some_first : Span.zero < first)
    (some_ceiling : Span.zero < ceiling) (since : 0 ≤ clock.millis)
    (inRange : (clock.advance limit).millis ≤ Calendar.last) (source : BoundSource) :
    let w := Wait.new clock.uptime resource (.finite limit) source (.new first ceiling)
    ∃ enough, ∀ rounds, enough ≤ rounds → ∃ result deeds,
      (Manager.lockWithWait around owner hold rounds w s).1.1 = some result ∧
      w.run (Manager.within around).recorded (Manager.asking resource owner hold).recorded rounds
          (s, []) =
        ((Manager.lockWithWait around owner hold rounds w s).1,
          ((Manager.lockWithWait around owner hold rounds w s).2, deeds)) ∧
      (result ≠ .ok true →
        result = .error (.timedOut resource limit.toBinary64 (.finite limit) source) ∧
        Ready c settings (clock.advance limit) db
          (Manager.lockWithWait around owner hold rounds w s).2) ∧
      ('\x00' ∉ resource.toList →
        (result = .ok true ↔ row.deadline < (clock.advance limit).millis) ∧
        (result = .ok true → ∃ elapsed ≤ limit,
          TakenOver c settings (clock.advance elapsed) resource owner hold row.deadline
            (Manager.lockWithWait around owner hold rounds w s).2 deeds ∧
          ∀ moment : Span, row.deadline < (clock.advance moment).millis →
            elapsed.nanos ≤ moment.nanos + ceiling.nanos)) ∧
      ('\x00' ∈ resource.toList →
        (result = .ok true ↔ s.holders.holder? resource = none) ∧
        (result = .ok true → (Wait.attempts deeds).length = 1 ∧
          Ready c settings clock db (Manager.lockWithWait around owner hold rounds w s).2)) := by
  intro w
  have timeout : w.timeoutAfter limit.nanos =
      .timedOut resource limit.toBinary64 (.finite limit) source := by
    rw [Wait.timeoutAfter, limit.saturate_nanos]
    rfl
  rw [← LockFuture.unnameable_iff, Bool.not_eq_true, ← timeout]
  cases unnameable : LockFuture.unnameable resource with
  | false =>
    have calm := (lasting_known c settings).calm undisturbed (Known.attempt single found readable
      numbered accepted unnameable since inRange)
    have known : Known c settings clock db resource owner hold row.deadline limit.nanos false 0
        (s, []) := by
      refine ⟨Nat.zero_le _, ?_, fun _ h => absurd h List.not_mem_nil⟩
      rwa [Clock.after_zero]
    obtain ⟨enough, finishes⟩ := lockWithWait_ends calm finite some_first some_ceiling source known
    refine ⟨enough, fun rounds some_left => ?_⟩
    obtain ⟨result, deeds, finished, equal, ended⟩ := finishes rounds some_left
    obtain ⟨refused, granted⟩ := ended_known ended
    exact ⟨result, deeds, finished, equal, refused, fun _ => granted, nofun⟩
  | true =>
    have calm : Wait.Calm (Manager.within around).recorded
        (Manager.asking resource owner hold : Asking Session).recorded clock.uptime limit.nanos
        (fun _ => (s.holders.holder? resource).isNone)
        (Strayed c settings clock db resource s.holders) :=
      (lasting_strayed c settings).calm undisturbed (Strayed.attempt accepted unnameable)
    have known : Strayed c settings clock db resource s.holders false 0 (s, []) := by
      refine ⟨?_, rfl, fun _ => rfl⟩
      rwa [Clock.after_zero]
    obtain ⟨enough, finishes⟩ := lockWithWait_ends calm finite some_first some_ceiling source known
    refine ⟨enough, fun rounds some_left => ?_⟩
    obtain ⟨result, deeds, finished, equal, ended⟩ := finishes rounds some_left
    obtain ⟨refused, granted⟩ := ended_strayed ended
    exact ⟨result, deeds, finished, equal, refused, nofun, fun _ => granted⟩

/-- A machine on which time passes in pauses only. -/
def stillSurroundings : Surroundings Site where
  now := Site.inWorld World.uptime
  stopped := return false
  observe := none
  sleep length := modify (Site.later length)

theorem stillSurroundings_undisturbed : stillSurroundings.Undisturbed where
  now _ := ⟨rfl, rfl, World.Alike.refl _⟩
  stopped _ := ⟨rfl, rfl, World.Alike.refl _⟩
  observe := nofun
  sleep _ _ := ⟨rfl, World.Alike.refl _⟩

/-- A row that its holder has left behind. -/
def leftRow : LockRow := ⟨"door", "far", "bob", 20⟩

/-- A row that its holder has left behind, after whose resource no worker can be named. -/
def unnamedRow : LockRow := ⟨"do\x00or", "far", "bob", 20⟩

/-- A table with one row. -/
def tableOf (row : LockRow) : Table := ⟨[Entry.ofRow row], false⟩

/-- A session on a table with one row, at the beginning of time. -/
def sessionOn (row : LockRow) : Session :=
  ⟨[Service.feature], Holders.empty,
    { world := { World.new ⟨0, 0⟩ with memory := ⟨some (tableOf row)⟩ }
      service := { Service.onStore default .memory with
        active := some (Heartbeat.new ⟨.memory, "here"⟩ Span.zero) } }⟩

theorem sessionOn_ready (row : LockRow) :
    (sessionOn row).Ready ⟨.memory, "here"⟩ default ⟨0, 0⟩ ⟨some (tableOf row)⟩ :=
  ⟨rfl, rfl, rfl, trivial, rfl, rfl⟩

/-- Sixty milliseconds are enough for a deadline at twenty. -/
theorem takeover_left :
    stillSurroundings.Undisturbed ∧
    (sessionOn leftRow).Ready ⟨.memory, "here"⟩ default ⟨0, 0⟩ ⟨some (tableOf leftRow)⟩ ∧
    (Query.lock "door" "ann" 5).fault? = none ∧
    let w := Wait.new 0 "door" (.finite (Span.ofMillis 60)) .commandLine
      (.new RetrySchedule.firstRetry RetrySchedule.longestRetry)
    ∃ enough, ∀ rounds, enough ≤ rounds → ∃ deeds,
      (Manager.lockWithWait stillSurroundings "ann" 5 rounds w (sessionOn leftRow)).1.1 =
        some (.ok true) ∧
      ∃ elapsed ≤ Span.ofMillis 60,
        TakenOver ⟨.memory, "here"⟩ default (Clock.advance ⟨0, 0⟩ elapsed) "door" "ann" 5 20
          (Manager.lockWithWait stillSurroundings "ann" 5 rounds w (sessionOn leftRow)).2
          deeds := by
  refine ⟨stillSurroundings_undisturbed, sessionOn_ready leftRow, by decide, ?_⟩
  intro w
  have accepted : (Query.lock "door" "ann" 5).fault? = none := by decide
  have found : (⟨some (tableOf leftRow)⟩ : Database).entryOf? "door" =
      some (Entry.ofRow leftRow) := by decide
  obtain ⟨enough, finishes⟩ := takeover stillSurroundings_undisturbed (sessionOn_ready leftRow)
    ⟨tableOf leftRow, rfl, by unfold Table.Single; decide⟩ found (Entry.row_ofRow leftRow) rfl
    accepted (Span.ofMillis 60) RetrySchedule.firstRetry RetrySchedule.longestRetry (by decide)
    (by decide) (by decide) (by decide) (by decide) .commandLine
  refine ⟨enough, fun rounds some_left => ?_⟩
  obtain ⟨result, deeds, finished, -, -, nameable, -⟩ := finishes rounds some_left
  obtain ⟨granted, how⟩ := nameable (by decide)
  have won : result = .ok true := granted.mpr (by decide)
  obtain ⟨elapsed, inTime, taken, -⟩ := how won
  subst won
  exact ⟨deeds, finished, elapsed, inTime, taken⟩

/-- Ten milliseconds are not enough for a deadline at twenty.  They are for a resource that no
worker can be named after: its first attempt is granted, although somebody else has the row. -/
theorem takeover_jumped :
    stillSurroundings.Undisturbed ∧
    (sessionOn unnamedRow).Ready ⟨.memory, "here"⟩ default ⟨0, 0⟩ ⟨some (tableOf unnamedRow)⟩ ∧
    (Query.lock "do\x00or" "ann" 5).fault? = none ∧
    ¬ unnamedRow.deadline < (Clock.advance ⟨0, 0⟩ (Span.ofMillis 10)).millis ∧
    let w := Wait.new 0 "do\x00or" (.finite (Span.ofMillis 10)) .commandLine
      (.new RetrySchedule.firstRetry RetrySchedule.longestRetry)
    ∀ rounds,
      (Manager.lockWithWait stillSurroundings "ann" 5 (rounds + 1) w (sessionOn unnamedRow)).1.1 =
        some (.ok true) ∧
      (Manager.lockWithWait stillSurroundings "ann" 5 (rounds + 1) w
        (sessionOn unnamedRow)).2.outer.world.memory = ⟨some (tableOf unnamedRow)⟩ := by
  refine ⟨stillSurroundings_undisturbed, sessionOn_ready unnamedRow, by decide, by decide, ?_⟩
  exact fun rounds => ⟨rfl, rfl⟩

end Session

end Leasehold
