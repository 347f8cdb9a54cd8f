import Leasehold.Proofs.Waiting.Calm
import Leasehold.Proofs.Waiting.Trace

/-!
# What a wait spends its time with

Where time passes in pauses only, a wait is a course of attempts with pauses in between
(`Wait.course`), and the pauses are those of its schedule, cut off at the end.  So the schedule
alone says at which times there are attempts; what each of them is answered only says which one is
the last (`Wait.Paced.run`).

Attempts and pauses are noted beside the state (`Surroundings.noted`, `Asking.noted`), which
changes nothing else (`Wait.run_noted`).
-/

namespace Leasehold

open Program

/-- What a wait spends its time with. -/
inductive WaitAct where
  /-- It asks for the lock at an uptime, and gets an answer. -/
  | asked (uptime : Nat) (answer : Except Fault Bool)
  | paused (length : Span)

/-- The act is an attempt. -/
def WaitAct.isAsked : WaitAct → Bool
  | asked _ _ => true
  | paused _ => false

variable {ε : Type}

/-! ## Waits with notes of their acts -/

/-- A state with the acts so far. -/
abbrev WithActs (ε : Type) := ε × List WaitAct

/-- A program that leaves the notes alone. -/
def aside {α : Type} (step : StateM ε α) : StateM (WithActs ε) α :=
  Feature.part Prod.fst (fun state r => (state, r.2)) step

/-- The same surroundings with all pauses noted. -/
def Surroundings.noted (s : Surroundings ε) : Surroundings (WithActs ε) where
  now := aside s.now
  stopped := aside s.stopped
  observe := s.observe.map fun observe event => aside (observe event)
  sleep length r := ((), ((s.sleep length r.1).2, r.2 ++ [.paused length]))

/-- The same asking with all attempts noted. -/
def Asking.noted (uptime : ε → Nat) (a : Asking ε) : Asking (WithActs ε) where
  attempt r :=
    let reply := a.attempt r.1
    (reply.1, (reply.2, r.2 ++ [.asked (uptime r.1) reply.1]))
  granted refusals waited := aside (a.granted refusals waited)

theorem aside_bind {α β : Type} (x : StateM ε α) (f : α → StateM ε β) :
    aside (x >>= f) = aside x >>= fun a => aside (f a) := rfl

namespace Wait

variable (s : Surroundings ε) (a : Asking ε) (uptime : ε → Nat) (w : Wait)

theorem tell_noted (event : Span → WaitEvent) : w.tell s.noted event = aside (w.tell s event) := by
  unfold tell Surroundings.noted
  cases s.observe <;> rfl

theorem checkStop_noted : w.checkStop s.noted = aside (w.checkStop s) := by
  unfold checkStop
  rw [aside_bind]
  congr 1
  funext stopped
  cases stopped with
  | false => rfl
  | true =>
    rw [if_pos rfl, if_pos rfl, aside_bind, tell_noted]
    rfl

theorem timedOut_noted : w.timedOut s.noted = aside (w.timedOut s) := by
  unfold timedOut
  rw [aside_bind, tell_noted]
  rfl

theorem tellBegan_noted : w.tellBegan s.noted = aside (w.tellBegan s) := by
  unfold tellBegan Surroundings.noted
  cases s.observe with
  | none => rfl
  | some observe =>
    dsimp only [Option.map_some]
    split <;> rfl

theorem goOn_noted (pause : Span) : w.goOn s.noted pause = aside (w.goOn s pause) := by
  unfold goOn
  cases w.deadline with
  | none =>
    dsimp only
    rw [aside_bind, tell_noted]
    rfl
  | some deadline =>
    dsimp only
    rw [aside_bind]
    congr 1
    funext now
    split
    · rw [aside_bind, timedOut_noted]
      rfl
    · rw [aside_bind, tell_noted]
      rfl

theorem afterRefusal_noted : w.afterRefusal s.noted = aside (w.afterRefusal s) := by
  rw [afterRefusal_eq, afterRefusal_eq]
  split
  · rfl
  · rw [aside_bind, checkStop_noted]
    congr 1
    funext fault?
    cases fault? with
    | some fault => rfl
    | none =>
      dsimp only
      rw [aside_bind, tellBegan_noted]
      congr 1
      funext _
      exact goOn_noted s _ _

/-- To note the acts of a round changes nothing else. -/
theorem round_noted (r : WithActs ε) :
    ((w.round s.noted (a.noted uptime) r).1, (w.round s.noted (a.noted uptime) r).2.1) =
      w.round s a r.1 := by
  unfold round
  rw [checkStop_noted, bind_at, bind_at]
  have same : (aside (w.checkStop s) r).1 = (w.checkStop s r.1).1 := rfl
  have next : (aside (w.checkStop s) r).2.1 = (w.checkStop s r.1).2 := rfl
  rw [same, ← next]
  generalize (w.checkStop s r.1).1 = fault?, (aside (w.checkStop s) r).2 = r
  cases fault? with
  | some fault => rfl
  | none =>
    dsimp only
    rw [bind_at, bind_at]
    have same : ((a.noted uptime).attempt r).1 = (a.attempt r.1).1 := rfl
    have next : ((a.noted uptime).attempt r).2.1 = (a.attempt r.1).2 := rfl
    rw [same, ← next]
    generalize (a.attempt r.1).1 = answer, ((a.noted uptime).attempt r).2 = r
    rcases answer with fault | _ | _
    · rfl
    · dsimp only
      rw [afterRefusal_noted]
      rfl
    · have told := tell_noted s w (.acquired w.resource)
      dsimp only
      simp only [told]
      rfl

/-- To note the acts of a wait changes nothing else. -/
theorem run_noted (rounds : Nat) (r : WithActs ε) :
    ((w.run s.noted (a.noted uptime) rounds r).1, (w.run s.noted (a.noted uptime) rounds r).2.1) =
      w.run s a rounds r.1 := by
  induction rounds generalizing w r with
  | zero => rfl
  | succ rounds ih =>
    have round := round_noted s a uptime w r
    have reply := congrArg Prod.fst round
    have next := congrArg Prod.snd round
    dsimp only at reply next
    generalize happens : (w.round s a r.1).1 = ended at reply
    obtain ⟨ended, v⟩ := ended
    cases ended with
    | finished result =>
      rw [run_of_finished reply, run_of_finished happens, ← next]
    | pause length =>
      rw [run_of_pause reply, run_of_pause happens, ih, ← next]
      rfl

/-! ## The course of a wait -/

/-- Attempts from an uptime on, with pauses in between: all but the last one are refused. -/
def course (uptime : Nat) : List Span → Except Fault Bool → List WaitAct
  | [], answer => [.asked uptime answer]
  | pause :: pauses, answer =>
    .asked uptime (.ok false) :: .paused pause :: course (uptime + pause.nanos) pauses answer

/-- The last attempt of a course comes when all pauses are over. -/
theorem getLast?_course (uptime : Nat) (pauses : List Span) (answer : Except Fault Bool) :
    (course uptime pauses answer).getLast? =
      some (.asked (uptime + Span.total pauses) answer) := by
  induction pauses generalizing uptime with
  | nil => rfl
  | cons pause pauses ih =>
    rw [course, List.getLast?_cons, List.getLast?_cons, ih, Span.total_cons, Nat.add_assoc]
    rfl

/-- There is one attempt more than pauses. -/
theorem countP_course (uptime : Nat) (pauses : List Span) (answer : Except Fault Bool) :
    (course uptime pauses answer).countP WaitAct.isAsked = pauses.length + 1 := by
  induction pauses generalizing uptime with
  | nil => rfl
  | cons pause pauses ih =>
    rw [course, List.countP_cons_of_pos rfl, List.countP_cons_of_neg Bool.false_ne_true, ih]
    rfl

/-- A wait that began at an uptime goes on in pauses only.  What is known of its state tells the
acts so far and for how long it has lasted. -/
structure Paced (s : Surroundings ε) (a : Asking ε) (began : Nat)
    (known : List WaitAct → Nat → ε → Prop) : Prop where
  quiet : ∀ acts elapsed, Quiet s began elapsed (known acts elapsed)
  attempt : ∀ {acts elapsed state}, known acts elapsed state →
    known (acts ++ [.asked (began + elapsed) (a.attempt state).1]) elapsed (a.attempt state).2
  granted : ∀ refusals waited {acts elapsed state}, known acts elapsed state →
    known acts elapsed (a.granted refusals waited state).2
  sleep : ∀ length {acts elapsed state}, known acts elapsed state →
    known (acts ++ [.paused length]) (elapsed + length.nanos) (s.sleep length state).2

/-- The result of a wait by its last answer. -/
def resultAfter (w : Wait) (limit : Nat) : Except Fault Bool → Except Fault Bool
  | .error fault => .error fault
  | .ok true => .ok true
  | .ok false => .error (w.timeoutAfter limit)

theorem roundAfter_of_last (w : Wait) (limit elapsed : Nat) {answer : Except Fault Bool}
    (last : answer = .ok false → elapsed = limit) :
    ∃ v, w.roundAfter limit elapsed answer = (.finished (w.resultAfter limit answer), v) := by
  rcases answer with fault | _ | _
  · exact ⟨_, rfl⟩
  · obtain rfl := last rfl
    exact ⟨_, if_pos (Nat.le_refl _)⟩
  · exact ⟨_, rfl⟩

section Runs

variable {s : Surroundings ε} {a : Asking ε} {w : Wait} {limit elapsed : Nat} {state : ε}
  {known : List WaitAct → Nat → ε → Prop} {acts : List WaitAct} {pauses : List Span}

theorem Paced.round (paced : Paced s a w.began known)
    (finite : w.deadline = some (w.began + limit)) (patient : w.single = false)
    (h : known acts elapsed state) :
    ∃ answer, (w.round s a state).1 = w.roundAfter limit elapsed answer ∧
      known (acts ++ [.asked (w.began + elapsed) answer]) elapsed (w.round s a state).2 :=
  (paced.quiet acts elapsed).round
    (Q := fun answer => known (acts ++ [.asked (w.began + elapsed) answer]) elapsed)
    paced.attempt (paced.quiet _ _).toTimed (fun n t _ => paced.granted n t)
    (paced.quiet _ _) finite patient h

/-- How a run ends that began after `acts`: it has taken pauses from the front of a list, all of
them if its last attempt was refused. -/
def Spent (w : Wait) (limit elapsed : Nat) (known : List WaitAct → Nat → ε → Prop)
    (acts : List WaitAct) (pauses : List Span)
    (ended : (Option (Except Fault Bool) × Wait) × ε) : Prop :=
  ∃ taken answer, taken <+: pauses ∧ (answer = .ok false → taken = pauses) ∧
    ended.1.1 = some (w.resultAfter limit answer) ∧
    known (acts ++ course (w.began + elapsed) taken answer) (elapsed + Span.total taken) ended.2

theorem Spent.after_pause {pause : Span} {ended : (Option (Except Fault Bool) × Wait) × ε}
    (h : Spent w.refused limit (elapsed + pause.nanos) known
      (acts ++ [.asked (w.began + elapsed) (.ok false)] ++ [.paused pause]) pauses ended) :
    Spent w limit elapsed known acts (pause :: pauses) ended := by
  obtain ⟨taken, answer, first, all, result, left⟩ := h
  refine ⟨pause :: taken, answer, (List.cons_prefix_cons).mpr ⟨rfl, first⟩, fun refused => ?_,
    result, ?_⟩
  · rw [all refused]
  · have later : w.began + elapsed + pause.nanos = w.refused.began + (elapsed + pause.nanos) :=
      Nat.add_assoc _ _ _
    rw [Span.total_cons, ← Nat.add_assoc, course, later]
    simpa using left

/-- The pauses of a wait are those of its schedule, as many as its answers call for: a wait that is
never granted the lock takes all of them. -/
theorem Paced.run (paced : Paced s a w.began known)
    (cut : w.schedule.Cut (limit - elapsed) pauses)
    (finite : w.deadline = some (w.began + limit)) (patient : w.single = false)
    (inTime : elapsed ≤ limit) (h : known acts elapsed state) {rounds : Nat}
    (enough : pauses.length < rounds) :
    Spent w limit elapsed known acts pauses (w.run s a rounds state) := by
  generalize hschedule : w.schedule = schedule at cut
  generalize hleft : limit - elapsed = left at cut
  induction cut generalizing w elapsed acts state rounds with
  | finished =>
    obtain rfl : elapsed = limit := by omega
    obtain ⟨rounds, rfl⟩ := Nat.exists_eq_add_of_lt enough
    obtain ⟨answer, reply, after⟩ := paced.round finite patient h
    obtain ⟨v, finished⟩ := roundAfter_of_last w _ _ (fun (_ : answer = .ok false) => rfl)
    rw [run_of_finished (reply.trans finished)]
    exact ⟨[], answer, List.nil_prefix, fun _ => rfl, rfl, after⟩
  | @pause schedule left pause pauses some_left length rest ih =>
    obtain ⟨rounds, rfl⟩ := Nat.exists_eq_add_of_lt enough
    obtain ⟨answer, reply, after⟩ := paced.round finite patient h
    by_cases refused : answer = .ok false
    · subst refused
      have same : w.pauseAfter limit elapsed = pause := by
        rw [Span.ext_iff, pauseAfter, Span.nanos_shorter_saturate, length, hschedule, hleft]
      rw [roundAfter, if_neg (by omega), same] at reply
      rw [run_of_pause reply]
      refine Spent.after_pause ?_
      refine ih (w := w.refused) paced finite patient (by omega) (paced.sleep pause after) ?_
        (congrArg RetrySchedule.rest hschedule) (by omega)
      rw [List.length_cons] at enough ⊢
      omega
    · obtain ⟨v, finished⟩ := roundAfter_of_last w limit elapsed
        fun h : answer = .ok false => absurd h refused
      rw [run_of_finished (reply.trans finished)]
      exact ⟨[], answer, List.nil_prefix, fun h => absurd h refused, rfl, after⟩

end Runs

end Wait

/-! ## Managers whose features take no time -/

/-- Surroundings in which time passes in pauses only, and nobody asks to stop. -/
structure Surroundings.Still (uptime : ε → Nat) (s : Surroundings ε) : Prop where
  now : ∀ state, (s.now state).1 = uptime state ∧ uptime (s.now state).2 = uptime state
  stopped : ∀ state, (s.stopped state).1 = false ∧ uptime (s.stopped state).2 = uptime state
  observe : ∀ observe, s.observe = some observe →
    ∀ event state, uptime (observe event state).2 = uptime state
  sleep : ∀ length state, uptime (s.sleep length state).2 = uptime state + length.nanos

/-- A feature that answers in no time, whatever it answers. -/
structure Feature.Still (uptime : ε → Nat) (f : Feature ε) : Prop where
  before : ∀ q state, uptime (f.before q state).2 = uptime state
  after : ∀ q decision state, uptime (f.after q decision state).2 = uptime state

namespace Manager

variable [Journal ε] {uptime : ε → Nat} {q : Query}

section Requests

variable (notes : ∀ record state, uptime (Journal.note record state : ε) = uptime state)
include notes

theorem uptime_remarkAsked (name : String) (outcome : Outcome Verdict) (outer : ε) :
    uptime (remarkAsked name q outcome outer) = uptime outer := by
  cases outcome with
  | answer v =>
    simp only [remarkAsked]
    split
    · exact notes _ _
    · rfl
  | fault e => exact notes _ _
  | crash => exact notes _ _

theorem uptime_remarkTold (name : String) (outcome : Outcome Bool) (outer : ε) :
    uptime (remarkTold name q outcome outer) = uptime outer := by
  cases outcome with
  | answer kept => rfl
  | fault e => exact notes _ _
  | crash => exact notes _ _

theorem uptime_offer {fs : List (Feature ε)} (still : ∀ f ∈ fs, f.Still uptime) (outer : ε) :
    uptime (offer q fs outer).2 = uptime outer := by
  induction fs generalizing outer with
  | nil => rfl
  | cons f rest ih =>
    have asked : uptime (remarkAsked f.name q (f.before q outer).1 (f.before q outer).2) =
        uptime outer :=
      (uptime_remarkAsked notes _ _ _).trans ((still f List.mem_cons_self).before q outer)
    rw [offer_cons]
    split
    · exact asked
    · exact (ih (fun g hg => still g (List.mem_cons_of_mem f hg)) _).trans asked

theorem uptime_announce {decision : Bool} {fs : List (Feature ε)}
    (still : ∀ f ∈ fs, f.Still uptime) (outer : ε) :
    uptime (announce q decision fs outer).2 = uptime outer := by
  induction fs generalizing outer with
  | nil => rfl
  | cons f rest ih =>
    have told : uptime (remarkTold f.name q (f.after q decision outer).1
        (f.after q decision outer).2) = uptime outer :=
      (uptime_remarkTold notes _ _ _).trans ((still f List.mem_cons_self).after q decision outer)
    rw [announce_cons]
    split
    · exact told
    · exact (ih (fun g hg => still g (List.mem_cons_of_mem f hg)) _).trans told

theorem uptime_remarkPolicy (decision : Bool) (outer : ε) :
    uptime (remarkPolicy q decision outer) = uptime outer := by
  unfold remarkPolicy
  split
  · exact notes _ _
  · rfl

/-- A request takes no time if the features take none. -/
theorem ask_still (m : Manager ε) (still : ∀ f ∈ m.features, f.Still uptime) (q : Query) :
    uptime (ask q m).2.outer = uptime m.outer ∧ (ask q m).2.features = m.features := by
  cases accepted : q.fault? with
  | some fault =>
    rw [ask, accepted]
    exact ⟨rfl, rfl⟩
  | none =>
    have offered : uptime (offer q m.features m.outer).2 = uptime m.outer :=
      uptime_offer notes still m.outer
    rw [ask_eq m accepted]
    split
    · exact ⟨offered, rfl⟩
    · rw [decideAlone_eq]
      refine ⟨?_, rfl⟩
      dsimp only
      split
      · rw [uptime_announce notes still, uptime_remarkPolicy notes, offered]
      · rw [uptime_remarkPolicy notes, offered]

/-- What is known of a wait for such a manager. -/
def KnownAt (uptime : ε → Nat) (features : List (Feature ε)) (began : Nat) (acts : List WaitAct)
    (elapsed : Nat) (r : WithActs (Manager ε)) : Prop :=
  uptime r.1.outer = began + elapsed ∧ r.1.features = features ∧ r.2 = acts

theorem paced_of_still {around : Surroundings ε} (still : around.Still uptime)
    {features : List (Feature ε)} (timeless : ∀ f ∈ features, f.Still uptime)
    (resource owner : String) (hold : UInt64) (began : Nat) :
    Wait.Paced (within around).noted
      ((asking resource owner hold : Asking (Manager ε)).noted fun m => uptime m.outer) began
      (KnownAt uptime features began) where
  quiet acts elapsed :=
    { now := by
        rintro ⟨m, _⟩ ⟨time, same, rfl⟩
        obtain ⟨reading, after⟩ := still.now m.outer
        exact ⟨reading.trans time, after.trans time, same, rfl⟩
      observe := by
        rintro observe observed event ⟨m, _⟩ ⟨time, same, rfl⟩
        cases hobserve : around.observe with
        | none => simp [Surroundings.noted, within, hobserve] at observed
        | some told =>
          simp only [Surroundings.noted, within, hobserve, Option.map_some,
            Option.some.injEq] at observed
          subst observed
          exact ⟨(still.observe told hobserve event m.outer).trans time, same, rfl⟩
      stopped := by
        rintro ⟨m, _⟩ ⟨time, same, rfl⟩
        obtain ⟨running, after⟩ := still.stopped m.outer
        exact ⟨running, after.trans time, same, rfl⟩ }
  attempt := by
    rintro acts elapsed ⟨m, _⟩ ⟨time, rfl, rfl⟩
    obtain ⟨after, same⟩ := ask_still notes m timeless (.lock resource owner hold)
    refine ⟨after.trans time, same, ?_⟩
    show _ ++ [WaitAct.asked (uptime m.outer) _] = _
    rw [time]
    rfl
  granted := by
    rintro refusals waited acts elapsed ⟨m, _⟩ ⟨time, same, rfl⟩
    exact ⟨(notes _ _).trans time, same, rfl⟩
  sleep := by
    rintro length acts elapsed ⟨m, _⟩ ⟨time, same, rfl⟩
    refine ⟨?_, same, rfl⟩
    rw [← Nat.add_assoc, ← time]
    exact still.sleep length m.outer

end Requests

/-- A wait of a finite length takes the pauses of its schedule, the last one cut off at the end,
until an attempt is not refused, and ends with the timeout if the attempt at the very end is
refused.  It makes one attempt more than it takes pauses. -/
theorem lockWithWait_paced {around : Surroundings ε} (still : around.Still uptime) (m : Manager ε)
    (timeless : ∀ f ∈ m.features, f.Still uptime)
    (notes : ∀ record state, uptime (Journal.note record state : ε) = uptime state)
    (resource owner : String) (hold : UInt64) (source : BoundSource) {limit first ceiling : Span}
    (finite : (waitEnd? (uptime m.outer) limit).isSome) (some_first : Span.zero < first)
    (some_ceiling : Span.zero < ceiling) :
    let began := uptime m.outer
    let w := Wait.new began resource (.finite limit) source (.new first ceiling)
    let delay (i : Nat) := min (first.nanos * twoTo i) ceiling.nanos
    let reach (n : Nat) := ((List.range n).map delay).sum
    ∃ pauses : List Span,
      Span.total pauses = limit.nanos ∧
      limit.nanos ≤ reach pauses.length ∧ (∀ n < pauses.length, reach n < limit.nanos) ∧
      (∀ i (h : i < pauses.length), pauses[i].nanos ≤ delay i ∧
        (i + 1 < pauses.length → pauses[i].nanos = delay i)) ∧
      (limit = Span.zero → pauses = []) ∧
      ∀ rounds, pauses.length < rounds → ∃ taken answer acts,
        let ended := lockWithWait around owner hold rounds w m
        w.run (within around).noted
            ((asking resource owner hold).noted fun m => uptime m.outer) rounds (m, []) =
          (ended.1, (ended.2, acts)) ∧
        acts = Wait.course began taken answer ∧ taken <+: pauses ∧
        acts.countP WaitAct.isAsked = taken.length + 1 ∧
        uptime ended.2.outer = began + Span.total taken ∧
        (answer = .ok false →
          ended.1.1 = some (.error (.timedOut resource limit.toBinary64 (.finite limit) source)) ∧
          taken = pauses ∧
          acts.getLast? = some (.asked (began + limit.nanos) (.ok false))) ∧
        (answer = .ok true → ended.1.1 = some (.ok true)) ∧
        ∀ fault, answer = .error fault → ended.1.1 = some (.error fault) := by
  intro began w delay reach
  obtain ⟨pauses, cut, enough, fewer, each⟩ :=
    RetrySchedule.exists_cut_new some_first some_ceiling limit.nanos
  refine ⟨pauses, cut.total_eq, enough, fewer, each, fun nothing => ?_, fun rounds more => ?_⟩
  · rw [nothing] at cut
    exact Classical.not_not.mp fun pausing => Nat.lt_irrefl 0 (cut.pos_of_ne_nil pausing)
  · have ends : w.deadline = some (w.began + limit.nanos) := waitEnd?_of_isSome finite
    have known : KnownAt uptime m.features began [] 0 (m, []) := ⟨rfl, rfl, rfl⟩
    have whole : w.schedule.Cut (limit.nanos - 0) pauses := cut
    obtain ⟨taken, answer, front, all, result, time, -, spent⟩ :=
      (paced_of_still notes still timeless resource owner hold began).run whole ends rfl
        (Nat.zero_le _) known more
    have plain := Wait.run_noted (within around) (asking resource owner hold)
      (fun m => uptime m.outer) w rounds (m, [])
    change _ = lockWithWait around owner hold rounds w m at plain
    rw [← plain]
    dsimp only
    rw [Nat.zero_add] at time
    rw [List.nil_append] at spent
    refine ⟨taken, answer, _, rfl, spent, front, ?_, time, fun refused => ⟨?_, all refused, ?_⟩,
      fun granted => ?_, fun fault failed => ?_⟩
    · rw [spent, Wait.countP_course]
    · rw [result, refused, Wait.resultAfter, Wait.timeoutAfter, limit.saturate_nanos]
      rfl
    · rw [spent, Wait.getLast?_course, all refused, cut.total_eq, refused]
      rfl
    · rw [result, granted]
      rfl
    · rw [result, failed]
      rfl

/-- The hourglass runs in pauses only. -/
theorem hourglass_still : hourglass.Still Prod.snd where
  now _ := ⟨rfl, rfl⟩
  stopped _ := ⟨rfl, rfl⟩
  observe := by
    rintro observe ⟨⟩ event state
    rfl
  sleep _ _ := rfl

theorem gate_still (uptime : Nat) : (gate uptime).Still Prod.snd where
  before _ _ := rfl
  after _ _ _ := rfl

/-- A manager behind a gate that opens too late. -/
def lateManager : Manager (List LogRecord × Nat) := ⟨[gate 90000000], Holders.empty, [], 0⟩

/-- A wait of sixty milliseconds that begins there. -/
def lateWait : Wait :=
  .new lateManager.outer.2 "door" (.finite (Span.ofMillis 60)) .commandLine
    (.new RetrySchedule.firstRetry RetrySchedule.longestRetry)

/-- Sixty milliseconds are spent in two pauses, the second one cut off, and three attempts. -/
theorem lockWithWait_paced_late :
    hourglass.Still Prod.snd ∧ (∀ f ∈ lateManager.features, f.Still Prod.snd) ∧
    (waitEnd? lateManager.outer.2 (Span.ofMillis 60)).isSome ∧
    Span.zero < RetrySchedule.firstRetry ∧ Span.zero < RetrySchedule.longestRetry ∧
    ∃ pauses acts, pauses.map Span.nanos = [25000000, 35000000] ∧
      lateWait.run (within hourglass).noted
          ((asking "door" "ann" 0).noted fun m => m.outer.2) 3 (lateManager, []) =
        ((lockWithWait hourglass "ann" 0 3 lateWait lateManager).1,
          ((lockWithWait hourglass "ann" 0 3 lateWait lateManager).2, acts)) ∧
      acts = Wait.course 0 pauses (.ok false) ∧
      (lockWithWait hourglass "ann" 0 3 lateWait lateManager).1.1 =
        some (.error (.timedOut "door" (Span.ofMillis 60).toBinary64 (.finite (Span.ofMillis 60))
          .commandLine)) := by
  have timeless : ∀ f ∈ lateManager.features, f.Still Prod.snd := by
    intro f hf
    rw [List.mem_singleton.mp hf]
    exact gate_still _
  have finite : (waitEnd? lateManager.outer.2 (Span.ofMillis 60)).isSome := by decide +kernel
  obtain ⟨pauses, all, reached, fewer, each, -, runs⟩ := lockWithWait_paced hourglass_still
    lateManager timeless (fun _ _ => rfl) "door" "ann" 0 .commandLine finite
    (show Span.zero < RetrySchedule.firstRetry by decide)
    (show Span.zero < RetrySchedule.longestRetry by decide)
  have sixty : (Span.ofMillis 60).nanos = 60000000 := by decide +kernel
  have two : pauses.length = 2 := by
    have few : ¬2 < pauses.length := fun more => absurd (fewer 2 more) (by decide +kernel)
    have some_ : pauses.length ≠ 0 := fun none_ => by
      rw [none_] at reached
      exact absurd reached (by decide +kernel)
    have more : pauses.length ≠ 1 := fun one => by
      rw [one] at reached
      exact absurd reached (by decide +kernel)
    omega
  obtain ⟨p, q, rfl⟩ : ∃ p q, pauses = [p, q] := by
    match pauses, two with
    | [p, q], _ => exact ⟨p, q, rfl⟩
  have whole : p.nanos = 25000000 := ((each 0 (by simp)).2 (by simp)).trans (by decide +kernel)
  have cut : q.nanos = 35000000 := by
    rw [sixty, Span.total_cons, Span.total_cons, Span.total_nil] at all
    omega
  obtain ⟨taken, answer, acts, equal, spent, -, -, -, timeout, -⟩ := runs 3 (by simp)
  have closed : acts.all (fun
      | .asked _ answer => answer.toOption = some false
      | .paused _ => true) = true := by
    have noted := congrArg (fun r => r.2.2) equal
    dsimp only at noted
    rw [← noted]
    decide +kernel
  have refused : answer = .ok false := by
    have last : WaitAct.asked (0 + Span.total taken) answer ∈ acts :=
      List.mem_of_getLast? (spent ▸ Wait.getLast?_course 0 taken answer)
    have no := List.all_eq_true.mp closed _ last
    rcases answer with fault | _ | _
    · cases no
    · rfl
    · cases no
  obtain ⟨result, rfl, -⟩ := timeout refused
  subst refused
  unfold lateWait
  refine ⟨hourglass_still, timeless, finite, by decide, by decide, [p, q], acts, ?_, equal, spent,
    result⟩
  simp only [List.map_cons, List.map_nil, whole, cut]

end Manager

end Leasehold
