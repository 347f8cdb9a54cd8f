import Leasehold.Proofs.Lock.Desk
import Mathlib.Data.List.Induction

/-!
# Which losses a renewal pass reports

A pass recognises the entry of its snapshot by what it says: a lock that was given up and
taken in anew with the same lease is to the pass what it was before.  So a lock that is
held is reported lost in two ways (`Desk.lost_iff`): its extension had failed before it
was taken in, when there was no row, or its row is gone by the time of its extension.
And if no lease runs out, only an unlock of the same owner can have removed that row,
one that was under way when the lock was won or called for after that
(`Desk.exists_removal`).
-/

namespace Leasehold

namespace Desk

/-! ## What happens in a run -/

/-- A desk, and what happens next there. -/
structure Moment where
  desk : Desk
  move : Move
  deriving DecidableEq

namespace Moment

/-- The desk after the move. -/
def next (t : Moment) : Desk := t.desk.step t.move

/-- The call that takes its next step. -/
def visit? (t : Moment) : Option Visit :=
  match t.move with
  | .act index => t.desk.visits[index]?
  | .pass _ | .lock _ _ _ _ | .unlock _ _ | .tick => none

/-- The turn of the statement that is put. -/
def turn? (t : Moment) : Option Turn :=
  match t.move, t.desk.pass with
  | .act index, _ => t.desk.visits[index]?.map fun v => ⟨index, v.job, t.desk.db⟩
  | .tick, .renewing (l :: _) =>
    some ⟨t.desk.visits.length,
      .refresh l.resource l.owner (deadlineAfter t.desk.clock l.lease), t.desk.db⟩
  | _, _ => none

/-- A call wins a resource. -/
def wins (resource : String) (t : Moment) : Bool := t.turn?.any (Turn.wins resource)

/-- The lock that a call takes in. -/
def takes? (t : Moment) : Option HeldLock := t.visit?.bind Visit.takes?

/-- The lock whose lease the pass tries to extend. -/
def extends? (t : Moment) : Option HeldLock :=
  match t.move, t.desk.pass with
  | .tick, .renewing (l :: _) => some l
  | _, _ => none

/-- The lock that the pass drops and reports lost. -/
def lost? (t : Moment) : Option HeldLock :=
  match t.move, t.desk.pass.checks? with
  | .tick, some l => if t.desk.held.lock? l.resource = some l then some l else none
  | _, _ => none

/-- The row of a lock is its owner's. -/
def owned (lock : HeldLock) (t : Moment) : Bool := t.desk.db.ownedBy lock.resource lock.owner

/-- An unlock removes the row of a lock. -/
def Removes (lock : HeldLock) (t : Moment) : Prop :=
  t.visit? = some (.release lock.resource lock.owner) ∧ t.owned lock = true

/-- A lock that is held is neither given up nor replaced by a call. -/
def Leaves (lock : HeldLock) (t : Moment) : Prop :=
  t.visit? ≠ some (.untrack lock.resource lock.owner) ∧
    (t.takes?.all fun l => l.resource ≠ lock.resource) = true

end Moment

/-- What happens in a run. -/
def history : Desk → List Move → List Moment
  | _, [] => []
  | s, m :: moves => ⟨s, m⟩ :: history (s.step m) moves

/-- The clock has not passed the deadline in the row of a resource, if it has one. -/
def InTime (resource : String) (s : Desk) : Prop :=
  ∀ row, s.db.row? resource = some row → s.clock ≤ row.deadline

/-- The table is sound, the clock shows a signed word or more, and no call acts on a reading of
the future. -/
structure Sound (s : Desk) : Prop where
  database : s.db.Sound
  clock : Text.Digits.signedMin ≤ s.clock
  known : ∀ v ∈ s.visits, v.job.KnownAt s.clock

variable {s : Desk} {lock : HeldLock} {resource owner : String}

theorem history_append (s : Desk) (moves moves' : List Move) :
    s.history (moves ++ moves') = s.history moves ++ (s.run moves).history moves' := by
  induction moves generalizing s with
  | nil => rfl
  | cons m moves ih =>
    rw [List.cons_append, history, history, ih, run_cons, List.cons_append]

/-- A part of what happens in a run happens in a part of the run. -/
theorem history_split {moves : List Move} {pre post : List Moment} {t : Moment}
    (split : s.history moves = pre ++ t :: post) :
    ∃ m₁ m₂, pre = s.history m₁ ∧ t.desk = s.run m₁ ∧ post = t.next.history m₂ := by
  induction moves generalizing s pre with
  | nil => cases pre <;> cases split
  | cons m moves ih =>
    cases pre with
    | nil =>
      cases split
      exact ⟨[], moves, rfl, rfl, rfl⟩
    | cons u pre =>
      obtain ⟨rfl, rest⟩ := List.cons.inj split
      obtain ⟨m₁, m₂, hpre, ht, hpost⟩ := ih rest
      exact ⟨m :: m₁, m₂, by rw [history, hpre], ht, hpost⟩

/-! ## One statement -/

theorem db_step (s : Desk) (m : Move) :
    (s.step m).db = ((Moment.turn? ⟨s, m⟩).map Turn.next).getD s.db := by
  cases m with
  | pass millis => rfl
  | lock r h o lease => rfl
  | unlock r o => rfl
  | act index =>
    cases hv : s.visits[index]? with
    | none => simp [step, Moment.turn?, hv]
    | some v => simp [step_act hv, Moment.turn?, hv, proceed, Turn.next]
  | tick =>
    cases hpass : s.pass with
    | waiting => simp [step, beat, Moment.turn?, hpass]
    | checking l rest => simp [step, beat, Moment.turn?, hpass]
    | renewing snapshot =>
      cases snapshot with
      | nil => simp [step, beat, Moment.turn?, hpass]
      | cons l rest => simp [step, beat, Moment.turn?, hpass, Turn.next, Job.step]

/-! ## The held locks and the pass -/

/-- A lock that is held stays so in a step of a call that neither gives it up nor replaces it. -/
theorem held_visit {held : Held} {v : Visit} (h : held.lock? lock.resource = some lock)
    (notUntracked : v ≠ .untrack lock.resource lock.owner)
    (notTaken : (v.takes?.all fun l => l.resource ≠ lock.resource) = true) :
    (v.heldAfter held).lock? lock.resource = some lock := by
  have takes : ((v.takes?.map fun l => held.track l).getD held).lock? lock.resource =
      some lock := by
    cases hl : v.takes? with
    | none => exact h
    | some l =>
      rw [hl] at notTaken
      have other : lock.resource ≠ l.resource := Ne.symm (of_decide_eq_true notTaken)
      exact (Held.lock?_track_of_ne other).trans h
  cases v with
  | lock claim lease attempt => exact takes
  | release r o => exact h
  | ended => exact h
  | untrack r o =>
    show (held.untrack r o).2.lock? lock.resource = some lock
    by_cases hr : lock.resource = r
    · subst hr
      have others : lock.owner ≠ o := fun heq => notUntracked (by rw [heq])
      simp only [Held.untrack, h, if_neg others]
    · rw [Held.lock?_untrack_of_ne hr]
      exact h

/-- A lock that is held stays so if no call ends that, until the pass reports it lost. -/
theorem held_step {m : Move} (h : s.held.lock? lock.resource = some lock)
    (leaves : Moment.Leaves lock ⟨s, m⟩) (kept : Moment.lost? ⟨s, m⟩ ≠ some lock) :
    (s.step m).held.lock? lock.resource = some lock := by
  cases m with
  | pass millis => exact h
  | lock r host o lease => exact h
  | unlock r o => exact h
  | act index =>
    obtain ⟨notUntracked, notTaken⟩ := leaves
    cases hv : s.visits[index]? with
    | none => rw [step, hv]; exact h
    | some v =>
      rw [step_act hv]
      have visit : Moment.visit? ⟨s, .act index⟩ = some v := hv
      have takes : Moment.takes? ⟨s, .act index⟩ = v.takes? := by rw [Moment.takes?, visit]; rfl
      rw [visit] at notUntracked
      rw [takes] at notTaken
      exact held_visit h (fun heq => notUntracked (congrArg some heq)) notTaken
  | tick =>
    cases hpass : s.pass with
    | waiting => rw [step, beat, hpass]; exact h
    | renewing snapshot => cases snapshot <;> (rw [step, beat, hpass]; exact h)
    | checking l rest =>
      rw [step, beat, hpass]
      show (s.held.dropSame l).2.lock? lock.resource = some lock
      by_cases hl : lock.resource = l.resource
      · -- the entry is not the lock that is held, or it would be reported lost
        rw [Held.dropSame, if_neg]
        · exact h
        · intro same
          rw [← hl, h] at same
          cases same
          simp [Moment.lost?, hpass, Pass.checks?, h] at kept
      · rw [Held.lock?_dropSame_of_ne hl]
        exact h

/-- Only a pass that is going on goes on. -/
theorem pass_step {m : Move} (h : m ≠ .tick) : (s.step m).pass = s.pass := by
  cases m with
  | pass millis => rfl
  | lock r host o lease => rfl
  | unlock r o => rfl
  | act index =>
    cases hv : s.visits[index]? with
    | none => rw [step, hv]
    | some v => rw [step_act hv]; rfl
  | tick => exact absurd rfl h

theorem extend_answer (h : s.db.Sound) (l : HeldLock) (deadline : Int) :
    (s.db.extend l.resource l.owner deadline).1 = .ok (s.db.ownedBy l.resource l.owner) := by
  obtain ⟨t, ht, sound⟩ := h
  rw [ht]
  show Except.ok (t.extend l.resource l.owner deadline).1 = _
  rw [(sound.wellFormed.single l.resource).extend_fst]
  rfl

/-- The extension of a lock fails exactly if its row is not its owner's. -/
theorem checks_step_renewing (h : s.db.Sound) {l : HeldLock} {rest : List HeldLock}
    (hpass : s.pass = .renewing (l :: rest)) :
    (s.step .tick).pass.checks? = if s.db.ownedBy l.resource l.owner then none else some l := by
  rw [step, beat, hpass]
  dsimp only
  rw [extend_answer h]
  cases s.db.ownedBy l.resource l.owner <;> simp [Pass.checks?]

theorem checks_of_extends {t : Moment} (h : t.desk.db.Sound) (tried : t.extends? = some lock)
    (lost : t.owned lock = false) : t.next.pass.checks? = some lock := by
  obtain ⟨s, m⟩ := t
  unfold Moment.extends? at tried
  split at tried
  · rename_i hmove hpass
    cases tried
    cases hmove
    rw [Moment.next, checks_step_renewing h hpass]
    rw [Moment.owned] at lost
    rw [lost]
    rfl
  · cases tried

/-- A pass looks for a lock after a step only if it did so before, or the step is an extension
that fails. -/
theorem checks_step {m : Move} (h : s.db.Sound) (checks : (s.step m).pass.checks? = some lock) :
    (m ≠ .tick ∧ s.pass.checks? = some lock) ∨
      (Moment.extends? ⟨s, m⟩ = some lock ∧ Moment.owned lock ⟨s, m⟩ = false) := by
  by_cases hm : m = .tick
  · subst hm
    right
    cases hpass : s.pass with
    | waiting =>
      rw [step, beat, hpass] at checks
      cases checks
    | checking l rest =>
      rw [step, beat, hpass] at checks
      cases checks
    | renewing snapshot =>
      cases snapshot with
      | nil =>
        rw [step, beat, hpass] at checks
        dsimp only at checks
        rw [hpass] at checks
        cases checks
      | cons l rest =>
        rw [checks_step_renewing h hpass] at checks
        cases howned : s.db.ownedBy l.resource l.owner with
        | true => rw [howned] at checks; cases checks
        | false =>
          rw [howned] at checks
          cases checks
          exact ⟨by simp [Moment.extends?, hpass], howned⟩
  · rw [pass_step hm] at checks
    exact .inl ⟨hm, checks⟩

/-- A lock that is reported lost was looked for. -/
theorem lost?_eq_some_iff {t : Moment} :
    t.lost? = some lock ↔ t.move = .tick ∧ t.desk.pass.checks? = some lock ∧
      t.desk.held.lock? lock.resource = some lock := by
  unfold Moment.lost?
  constructor
  · intro h
    split at h
    · rename_i l hmove hchecks
      split at h
      · rename_i hheld
        cases h
        exact ⟨hmove, hchecks, hheld⟩
      · cases h
    · cases h
  · rintro ⟨hmove, hchecks, hheld⟩
    simp [hmove, hchecks, hheld]

/-- What a pass reports lost, and what it drops. -/
theorem step_tick (s : Desk) :
    (s.step .tick).lost = s.lost ++ (Moment.lost? ⟨s, .tick⟩).toList ∧
      (s.step .tick).held =
        ((Moment.lost? ⟨s, .tick⟩).map fun l => s.held.drop l.resource).getD s.held := by
  unfold Moment.lost?
  rw [step, beat]
  cases hpass : s.pass with
  | waiting => simp [Pass.checks?]
  | renewing snapshot => cases snapshot <;> simp [Pass.checks?]
  | checking l rest =>
    by_cases hheld : s.held.lock? l.resource = some l <;>
      simp [Pass.checks?, Held.dropSame, hheld]

/-! ## The ways to lose a lock -/

/-- A lock that is held is reported lost by a pass that is about to look for it. -/
theorem lost_of_checks {moves : List Move} (checks : s.pass.checks? = some lock)
    (held : s.held.lock? lock.resource = some lock)
    (leaves : ∀ t ∈ s.history moves, t.Leaves lock)
    (goes : ∃ t ∈ s.history moves, t.move = .tick) :
    ∃ t ∈ s.history moves, t.lost? = some lock := by
  induction moves generalizing s with
  | nil =>
    obtain ⟨t, ht, -⟩ := goes
    cases ht
  | cons m moves ih =>
    by_cases hm : m = .tick
    · exact ⟨⟨s, m⟩, List.mem_cons_self, lost?_eq_some_iff.mpr ⟨hm, checks, held⟩⟩
    · have here : Moment.lost? ⟨s, m⟩ ≠ some lock := fun h => hm (lost?_eq_some_iff.mp h).1
      obtain ⟨t, ht, hmove⟩ := goes
      have later : t ∈ (s.step m).history moves := by
        rcases List.mem_cons.mp ht with rfl | later
        · exact absurd hmove hm
        · exact later
      obtain ⟨u, hu, hlost⟩ := ih ((congrArg Pass.checks? (pass_step hm)).trans checks)
        (held_step held (leaves _ List.mem_cons_self) here)
        (fun u hu => leaves u (List.mem_cons_of_mem _ hu)) ⟨t, later, hmove⟩
      exact ⟨u, List.mem_cons_of_mem _ hu, hlost⟩

/-- A lock that is held stays so to the end of a run in which it is not reported lost. -/
theorem held_run {moves : List Move} (held : s.held.lock? lock.resource = some lock)
    (leaves : ∀ t ∈ s.history moves, t.Leaves lock)
    (kept : ∀ t ∈ s.history moves, t.lost? ≠ some lock) :
    (s.run moves).held.lock? lock.resource = some lock := by
  induction moves generalizing s with
  | nil => exact held
  | cons m moves ih =>
    exact ih (held_step held (leaves _ List.mem_cons_self) (kept _ List.mem_cons_self))
      (fun t ht => leaves t (List.mem_cons_of_mem _ ht))
      fun t ht => kept t (List.mem_cons_of_mem _ ht)

/-- A lock that is reported lost was about to be looked for, or its extension has failed since. -/
theorem checks_of_lost {moves : List Move} (sound : ∀ t ∈ s.history moves, t.desk.db.Sound)
    {t : Moment} (ht : t ∈ s.history moves) (lost : t.lost? = some lock) :
    (s.pass.checks? = some lock ∧ ∃ u ∈ s.history moves, u.move = .tick) ∨
      ∃ a e b, s.history moves = a ++ e :: b ∧ e.extends? = some lock ∧ e.owned lock = false ∧
        ∃ u ∈ b, u.move = .tick := by
  induction moves generalizing s with
  | nil => cases ht
  | cons m moves ih =>
    rcases List.mem_cons.mp ht with rfl | later
    · obtain ⟨hmove, checks, -⟩ := lost?_eq_some_iff.mp lost
      exact .inl ⟨checks, _, List.mem_cons_self, hmove⟩
    · cases ih (fun u hu => sound u (List.mem_cons_of_mem _ hu)) later with
      | inl before =>
        obtain ⟨checks, u, hu, hmove⟩ := before
        cases checks_step (sound ⟨s, m⟩ List.mem_cons_self) checks with
        | inl earlier => exact .inl ⟨earlier.2, u, List.mem_cons_of_mem _ hu, hmove⟩
        | inr failed => exact .inr ⟨[], ⟨s, m⟩, _, rfl, failed.1, failed.2, u, hu, hmove⟩
      | inr since =>
        obtain ⟨a, e, b, split, failed, owned, goes⟩ := since
        exact .inr ⟨⟨s, m⟩ :: a, e, b, by rw [history, split, List.cons_append], failed, owned,
          goes⟩

/-- A lock that is held is reported lost exactly if the pass is about to look for it, or its
extension fails, and the pass goes on after that. -/
theorem lost_iff {moves : List Move} (held : s.held.lock? lock.resource = some lock)
    (sound : ∀ t ∈ s.history moves, t.desk.db.Sound)
    (leaves : ∀ t ∈ s.history moves, t.Leaves lock) :
    (∃ t ∈ s.history moves, t.lost? = some lock) ↔
      (s.pass.checks? = some lock ∧ ∃ t ∈ s.history moves, t.move = .tick) ∨
        ∃ a e b, s.history moves = a ++ e :: b ∧ e.extends? = some lock ∧ e.owned lock = false ∧
          ∃ t ∈ b, t.move = .tick := by
  constructor
  · rintro ⟨t, ht, lost⟩
    exact checks_of_lost sound ht lost
  · rintro (⟨checks, goes⟩ | ⟨a, e, b, split, failed, owned, goes⟩)
    · exact lost_of_checks checks held leaves goes
    · by_contra kept
      have kept : ∀ t ∈ s.history moves, t.lost? ≠ some lock := fun t ht lost =>
        kept ⟨t, ht, lost⟩
      obtain ⟨m₁, m₂, rfl, he, rfl⟩ := history_split split
      rw [split] at sound leaves kept
      have before : (s.run m₁).held.lock? lock.resource = some lock :=
        held_run held (fun t ht => leaves t (by simp [ht])) fun t ht => kept t (by simp [ht])
      rw [← he] at before
      have here := held_step before (leaves e (by simp)) (kept e (by simp))
      have checks := checks_of_extends (sound e (by simp)) failed owned
      obtain ⟨t, ht, lost⟩ := lost_of_checks checks here (fun t ht => leaves t (by simp [ht])) goes
      exact kept t (by simp [ht]) lost

/-! ## The row of a lock -/

/-- A turn in time leaves a row to its owner unless it gives the row up for the owner. -/
theorem owned_turn {t : Turn} {clock : Int} (h : t.db.Sound) (known : t.job.KnownAt clock)
    (early : ∀ row, t.db.row? resource = some row → clock ≤ row.deadline)
    (owned : t.db.ownedBy resource owner = true) (spared : t.job ≠ .release resource owner) :
    t.next.ownedBy resource owner = true := by
  obtain ⟨e, he, howner⟩ := (Option.any_eq_true _ _).mp owned
  obtain ⟨row, hrow, hsome⟩ := h.exists_row he
  have early := early row hsome
  have still : ∀ f, t.next.entryOf? resource = some f → f.owner = e.owner →
      t.next.ownedBy resource owner = true := fun f hf same =>
    (Option.any_eq_true _ _).mpr ⟨f, hf, by rw [same]; exact howner⟩
  cases t.touch (h.single resource) with
  | nothing same => exact still e (same.trans he) rfl
  | insert claim job own won absent => cases he.symm.trans absent
  | steal claim seen f job own won found stale =>
    cases he.symm.trans found
    rw [job] at known
    have past := (Entry.deadline_of_below hrow stale).2
    have hnow : claim.now ≤ clock := known
    omega
  | refresh owner' deadline f job found owned' after =>
    cases he.symm.trans found
    exact still _ after rfl
  | release owner' f job found owned' =>
    cases he.symm.trans found
    rw [owned'] at howner
    exact absurd (job.trans (by rw [Cell.text.inj (of_decide_eq_true howner)])) spared
  | sweep now grace f job found stale =>
    cases he.symm.trans found
    rw [job] at known
    have past := Entry.deadline_of_swept hrow known.1 stale
    have hnow := known.2
    omega

theorem known_next {v : Visit} {clock : Int} (h : v.job.KnownAt clock) (db : Database) :
    (v.next db).job.KnownAt clock := by
  cases v with
  | lock claim lease attempt =>
    cases attempt with
    | done ending => trivial
    | insert => exact h
    | read => exact h
    | steal seen => exact h
  | untrack r o => trivial
  | release r o => trivial
  | ended => trivial

theorem Sound.known_turn (h : s.Sound) {m : Move} {u : Turn} (hu : Moment.turn? ⟨s, m⟩ = some u) :
    u.db = s.db ∧ u.job.KnownAt s.clock := by
  unfold Moment.turn? at hu
  split at hu
  · obtain ⟨v, hv, rfl⟩ := Option.map_eq_some_iff.mp hu
    exact ⟨rfl, h.known v (List.mem_of_getElem? hv)⟩
  · cases hu
    exact ⟨rfl, trivial⟩
  · cases hu

/-- A pass has nothing to do with the clock and with the calls. -/
theorem beat_keeps (s : Desk) : s.beat.clock = s.clock ∧ s.beat.visits = s.visits := by
  unfold beat
  split <;> exact ⟨rfl, rfl⟩

theorem Sound.step (h : s.Sound) (m : Move) : (s.step m).Sound := by
  have database : (s.step m).db.Sound := by
    rw [db_step]
    cases hu : Moment.turn? ⟨s, m⟩ with
    | none => exact h.database
    | some u => exact Turn.next_sound ((h.known_turn hu).1 ▸ h.database)
  cases m with
  | pass millis =>
    have later : s.clock ≤ s.clock + millis := by omega
    exact ⟨database, Int.le_trans h.clock later, fun v hv => (h.known v hv).mono later⟩
  | lock r host o lease =>
    refine ⟨database, h.clock, fun v hv => ?_⟩
    rcases List.mem_append.mp hv with hold | hnew
    · exact h.known v hold
    · rw [List.mem_singleton.mp hnew]
      exact Int.le_refl s.clock
  | unlock r o =>
    refine ⟨database, h.clock, fun v hv => ?_⟩
    rcases List.mem_append.mp hv with hold | hnew
    · exact h.known v hold
    · rw [List.mem_singleton.mp hnew]
      trivial
  | act index =>
    cases hv : s.visits[index]? with
    | none =>
      rw [Desk.step, hv]
      exact h
    | some v =>
      rw [step_act hv] at database ⊢
      refine ⟨database, h.clock, fun w hw => ?_⟩
      rcases List.mem_or_eq_of_mem_set hw with hold | rfl
      · exact h.known w hold
      · exact known_next (h.known v (List.mem_of_getElem? hv)) s.db
  | tick =>
    obtain ⟨clock, visits⟩ := s.beat_keeps
    refine ⟨database, ?_, ?_⟩
    · rw [Desk.step, clock]
      exact h.clock
    · rw [Desk.step, clock, visits]
      exact h.known

theorem Sound.history (h : s.Sound) (moves : List Move) : ∀ t ∈ s.history moves, t.desk.Sound := by
  induction moves generalizing s with
  | nil => exact fun t ht => absurd ht List.not_mem_nil
  | cons m moves ih =>
    intro t ht
    rcases List.mem_cons.mp ht with rfl | later
    · exact h
    · exact ih (h.step m) t later

theorem Sound.run (h : s.Sound) (moves : List Move) : (s.run moves).Sound := by
  induction moves generalizing s with
  | nil => exact h
  | cons m moves ih => exact ih (h.step m)

/-- A statement that gives up a row for an owner is an unlock's. -/
theorem visit_of_release {m : Move} {u : Turn} (hu : Moment.turn? ⟨s, m⟩ = some u)
    (job : u.job = .release resource owner) :
    Moment.visit? ⟨s, m⟩ = some (.release resource owner) := by
  unfold Moment.turn? at hu
  split at hu
  · rename_i index _ hmove
    obtain ⟨v, hv, rfl⟩ := Option.map_eq_some_iff.mp hu
    cases hmove
    cases v with
    | release r o =>
      cases job
      exact hv
    | lock claim lease attempt => cases job
    | untrack r o => cases job
    | ended => cases job
  · cases hu
    cases job
  · cases hu

/-- A row is its owner's, or one of these moments has removed it. -/
def Since (lock : HeldLock) (past : List Moment) (s : Desk) : Prop :=
  s.db.ownedBy lock.resource lock.owner = true ∨ ∃ t ∈ past, t.Removes lock

theorem Since.step {past : List Moment} (h : Since lock past s) (sound : s.Sound)
    (early : s.InTime lock.resource) (m : Move) : Since lock (past ++ [⟨s, m⟩]) (s.step m) := by
  rcases h with owned | ⟨t, ht, removes⟩
  · by_cases released : Moment.visit? ⟨s, m⟩ = some (.release lock.resource lock.owner)
    · exact .inr ⟨⟨s, m⟩, by simp, released, owned⟩
    · left
      rw [db_step]
      cases hu : Moment.turn? ⟨s, m⟩ with
      | none => exact owned
      | some u =>
        obtain ⟨same, known⟩ := sound.known_turn hu
        exact owned_turn (same ▸ sound.database) known (same ▸ early) (same ▸ owned)
          fun job => released (visit_of_release hu job)
  · exact .inr ⟨t, List.mem_append_left _ ht, removes⟩

theorem Since.run {past : List Moment} {moves : List Move} (h : Since lock past s) (sound : s.Sound)
    (early : ∀ t ∈ s.history moves, t.desk.InTime lock.resource) :
    Since lock (past ++ s.history moves) (s.run moves) := by
  induction moves generalizing s past with
  | nil => rwa [Desk.history, List.append_nil]
  | cons m moves ih =>
    have rest := ih (h.step sound (early _ List.mem_cons_self) m) (sound.step m)
      fun t ht => early t (List.mem_cons_of_mem _ ht)
    rwa [List.append_assoc] at rest

/-! ## How a lock was won -/

theorem visit_of_concat {visits : List Visit} {v w : Visit} {index : Nat}
    (h : (visits ++ [v])[index]? = some w) : visits[index]? = some w ∨ v = w := by
  rcases Nat.lt_or_ge index visits.length with hlt | hge
  · rw [List.getElem?_append_left hlt] at h
    exact .inl h
  · rw [List.getElem?_append_right hge] at h
    exact .inr (List.mem_singleton.mp (List.mem_of_getElem? h)).symm

/-- What a call is after a move it was before, or it begins or takes its next step now. -/
theorem visit_step {m : Move} {index : Nat} {w : Visit}
    (h : (s.step m).visits[index]? = some w) :
    s.visits[index]? = some w ∨ w.isBegun = true ∨
      ∃ v, m = .act index ∧ s.visits[index]? = some v ∧ v.next s.db = w := by
  cases m with
  | pass millis => exact .inl h
  | lock r host o lease =>
    rcases visit_of_concat h with before | rfl
    · exact .inl before
    · exact .inr (.inl rfl)
  | unlock r o =>
    rcases visit_of_concat h with before | rfl
    · exact .inl before
    · exact .inr (.inl rfl)
  | act other =>
    cases hv : s.visits[other]? with
    | none =>
      rw [step, hv] at h
      exact .inl h
    | some v =>
      rw [step_act hv, proceed] at h
      by_cases same : other = index
      · subst same
        have hlt : other < s.visits.length := (List.getElem?_eq_some_iff.mp hv).1
        rw [List.getElem?_set_self hlt] at h
        exact .inr (.inr ⟨v, rfl, hv, Option.some.inj h⟩)
      · rw [List.getElem?_set_ne same] at h
        exact .inl h
  | tick =>
    rw [step, s.beat_keeps.2] at h
    exact .inl h

/-- A lock that goes on has put a statement. -/
theorem lock_of_next {v : Visit} {db : Database} {claim : Claim} {lease : Span} {a : Attempt}
    (h : v.next db = .lock claim lease a) :
    ∃ a₀, v = .lock claim lease a₀ ∧ a₀.isGranted = false ∧ a = (a₀.step claim db).1 := by
  cases v with
  | lock claim' lease' a₀ =>
    cases a₀ with
    | done ending => cases h
    | insert => cases h; exact ⟨.insert, rfl, rfl, rfl⟩
    | read => cases h; exact ⟨.read, rfl, rfl, rfl⟩
    | steal seen => cases h; exact ⟨.steal seen, rfl, rfl, rfl⟩
  | untrack r o => cases h
  | release r o => cases h
  | ended => cases h

/-- A call that is granted its lock after a move was granted it before, or wins it now. -/
theorem granted_step {m : Move} {index : Nat} {claim : Claim} {lease : Span} {a : Attempt}
    (h : (s.step m).visits[index]? = some (.lock claim lease a)) (granted : a.isGranted = true) :
    s.visits[index]? = some (.lock claim lease a) ∨
      (m = .act index ∧ ∃ u, Moment.turn? ⟨s, m⟩ = some u ∧ u.wins claim.row.resource = true ∧
        ∃ a, u.job = .acquire claim a) := by
  rcases visit_step h with before | begun | ⟨v, rfl, hv, hnext⟩
  · exact .inl before
  · cases a with
    | insert => cases granted
    | read => cases begun
    | steal seen => cases begun
    | done ending => cases begun
  · obtain ⟨a₀, rfl, before, rfl⟩ := lock_of_next hnext
    have hu : Moment.turn? ⟨s, .act index⟩ = some ⟨index, .acquire claim a₀, s.db⟩ := by
      simp [Moment.turn?, hv, Visit.job]
    exact .inr ⟨rfl, _, hu, by simp [Turn.wins, before, granted], a₀, rfl⟩

/-- A call has won its lock, and what has happened to the row since. -/
def Won (index : Nat) (lock : HeldLock) (past : List Moment) (s : Desk) : Prop :=
  ∃ p won q, past = p ++ won :: q ∧ won.move = .act index ∧ won.wins lock.resource = true ∧
    Since lock q s

/-- A call that has been granted its lock in the course of a run has won it there. -/
theorem won_run {index : Nat} {claim : Claim} {lease : Span} {a : Attempt} (start : s.visits = [])
    (sound : s.Sound) (moves : List Move)
    (early : ∀ t ∈ s.history moves, t.desk.InTime claim.row.resource)
    (h : (s.run moves).visits[index]? = some (.lock claim lease a)) (granted : a.isGranted = true) :
    Won index ⟨claim.row.resource, claim.row.owner, lease⟩ (s.history moves) (s.run moves) := by
  induction moves using List.reverseRecOn with
  | nil =>
    rw [show (s.run []).visits = [] from start] at h
    cases h
  | append_singleton moves m ih =>
    have last : s.run (moves ++ [m]) = (s.run moves).step m := by
      rw [run, List.foldl_append]
      rfl
    have happened : s.history (moves ++ [m]) = s.history moves ++ [⟨s.run moves, m⟩] :=
      history_append s moves [m]
    rw [happened] at early ⊢
    rw [last] at h ⊢
    have sound' := sound.run moves
    rcases granted_step h granted with before | ⟨hm, u, hu, won, a₀, job⟩
    · obtain ⟨p, won, q, hpast, hmove, hwon, since⟩ :=
        ih (fun t ht => early t (List.mem_append_left _ ht)) before
      refine ⟨p, won, q ++ [⟨s.run moves, m⟩], by rw [hpast]; simp, hmove, hwon, ?_⟩
      exact since.step sound' (early ⟨s.run moves, m⟩ (by simp)) m
    · refine ⟨s.history moves, ⟨s.run moves, m⟩, [], rfl, hm, ?_, .inl ?_⟩
      · rw [Moment.wins, hu]
        exact won
      · -- the winner has just written its row
        have database : u.db.Sound := (sound'.known_turn hu).1 ▸ sound'.database
        obtain ⟨claim', a', job', -, after⟩ := Turn.entryOf?_of_wins (database.single _) won
        cases job.symm.trans job'
        rw [db_step, hu]
        exact (Option.any_eq_true _ _).mpr ⟨_, after, by simp [Entry.ofRow]⟩

/-! ## Unlocks that are under way -/

/-- An unlock that is about to give a row up was about to do so before, or ceased to renew. -/
theorem release_step {m : Move} {index : Nat}
    (h : (s.step m).visits[index]? = some (.release resource owner)) :
    s.visits[index]? = some (.release resource owner) ∨
      Moment.visit? ⟨s, m⟩ = some (.untrack resource owner) := by
  rcases visit_step h with before | begun | ⟨v, rfl, hv, hnext⟩
  · exact .inl before
  · cases begun
  · cases v with
    | untrack r o =>
      cases hnext
      exact .inr hv
    | lock claim lease a => cases a <;> cases hnext
    | release r o => cases hnext
    | ended => cases hnext

/-- The unlock that removes a row has ceased to renew before a stretch in which nobody does. -/
theorem release_before {moves : List Move} {t : Moment} {index : Nat}
    (leaves : ∀ u ∈ s.history moves, u.Leaves lock) (ht : t ∈ s.history moves)
    (hmove : t.move = .act index)
    (releases : t.visit? = some (.release lock.resource lock.owner)) :
    s.visits[index]? = some (.release lock.resource lock.owner) := by
  induction moves generalizing s with
  | nil => cases ht
  | cons m moves ih =>
    rcases List.mem_cons.mp ht with rfl | later
    · rw [Moment.visit?, hmove] at releases
      exact releases
    · have next := ih (fun u hu => leaves u (List.mem_cons_of_mem _ hu)) later
      rcases release_step next with before | untracks
      · exact before
      · exact absurd untracks (leaves _ List.mem_cons_self).1

/-! ## Locks that are taken in anew -/

/-- Only a lock that was granted is taken in. -/
theorem lock_of_takes {v : Visit} (h : v.takes? = some lock) :
    ∃ claim ending, v = .lock claim lock.lease (.done ending) ∧ ending.granted = true ∧
      claim.row.resource = lock.resource ∧ claim.row.owner = lock.owner := by
  cases v with
  | lock claim lease a =>
    cases a with
    | done ending =>
      cases hgranted : ending.granted with
      | false => simp [Visit.takes?, hgranted] at h
      | true =>
        rw [Visit.takes?, hgranted, if_pos rfl] at h
        cases h
        exact ⟨claim, ending, rfl, hgranted, rfl, rfl⟩
    | insert => cases h
    | read => cases h
    | steal seen => cases h
  | untrack r o => cases h
  | release r o => cases h
  | ended => cases h

/-- A lock that was taken in is held, and the pass is where it was. -/
theorem taken_next {t : Moment} {index : Nat} (hmove : t.move = .act index)
    (takes : t.takes? = some lock) :
    (∃ claim ending, t.visit? = some (.lock claim lock.lease (.done ending)) ∧
      t.desk.visits[index]? = some (.lock claim lock.lease (.done ending)) ∧
      ending.granted = true ∧ claim.row.resource = lock.resource ∧
      claim.row.owner = lock.owner) ∧
      t.next.held.lock? lock.resource = some lock ∧ t.next.pass = t.desk.pass := by
  obtain ⟨s, m⟩ := t
  cases hmove
  obtain ⟨v, hv, htakes⟩ := Option.bind_eq_some_iff.mp takes
  obtain ⟨claim, ending, rfl, granted, hresource, howner⟩ := lock_of_takes htakes
  refine ⟨⟨claim, ending, hv, hv, granted, hresource, howner⟩, ?_, pass_step nofun⟩
  rw [Moment.next, step_act hv]
  show (((Visit.lock claim lock.lease (.done ending)).takes?.map fun l => s.held.track l).getD
    s.held).lock? lock.resource = some lock
  rw [htakes]
  exact Held.lock?_track_self lock s.held

/-- If the row of a lock that was taken in is not its owner's any more, an unlock has removed it
since it was won, and that unlock was called for before the lock was taken in. -/
theorem exists_removal (start : s.visits = []) (sound : s.Sound) {moves : List Move}
    {pre a b : List Moment} {taken e : Moment} {index : Nat}
    (split : s.history moves = pre ++ taken :: (a ++ e :: b)) (hmove : taken.move = .act index)
    (takes : taken.takes? = some lock)
    (early : ∀ t ∈ pre ++ taken :: a, t.desk.InTime lock.resource)
    (leaves : ∀ t ∈ a, t.Leaves lock) (lost : e.owned lock = false) :
    ∃ p won q gone, pre = p ++ won :: q ∧ won.move = .act index ∧
      won.wins lock.resource = true ∧ gone.Removes lock ∧
      (gone ∈ q ∨ gone ∈ a ∧ ∃ place, gone.move = .act place ∧
        taken.desk.visits[place]? = some (.release lock.resource lock.owner)) := by
  obtain ⟨⟨claim, ending, visit, hvisit, granted, hresource, howner⟩, -, -⟩ :=
    taken_next hmove takes
  obtain ⟨m₁, m₂, rfl, htaken, hmid⟩ := history_split split
  obtain ⟨m₃, m₄, rfl, he, -⟩ := history_split hmid.symm
  have sound₁ := sound.run m₁
  rw [htaken] at hvisit
  obtain ⟨p, won, q, hpre, hwonMove, hwon, since⟩ :=
    won_run start sound m₁ (fun t ht => hresource ▸ early t (List.mem_append_left _ ht)) hvisit
      granted
  rw [hresource] at hwon
  have since : Since lock q (s.run m₁) := by
    unfold Since Moment.Removes Moment.owned at since ⊢
    rwa [← hresource, ← howner]
  have taken_eq : taken = ⟨s.run m₁, taken.move⟩ := by rw [← htaken]
  have here : (s.run m₁).InTime lock.resource := htaken ▸ early taken (by simp)
  have next_eq : taken.next = (s.run m₁).step taken.move := by rw [Moment.next, htaken]
  have since := since.step sound₁ here taken.move
  rw [← taken_eq, ← next_eq] at since
  have since : Since lock (q ++ [taken] ++ taken.next.history m₃) (taken.next.run m₃) :=
    since.run (next_eq ▸ sound₁.step _) fun t ht => early t (by simp [ht])
  rw [← he] at since
  rcases since with owned | ⟨gone, hgone, removes⟩
  · rw [Moment.owned, owned] at lost
    cases lost
  · refine ⟨p, won, q, gone, hpre, hwonMove, hwon, removes, ?_⟩
    rcases List.mem_append.mp hgone with hq | ha
    · rcases List.mem_append.mp hq with hq | htaken'
      · exact .inl hq
      · -- the call that takes the lock in is no unlock
        rw [List.mem_singleton.mp htaken', Moment.Removes, visit] at removes
        cases removes.1
    · obtain ⟨place, hplace⟩ : ∃ place, gone.move = .act place := by
        have releases := removes.1
        unfold Moment.visit? at releases
        split at releases
        · exact ⟨_, ‹_›⟩
        all_goals cases releases
      have under := release_before leaves ha hplace removes.1
      rw [next_eq] at under
      rcases release_step under with before | untracks
      · exact .inr ⟨ha, place, hplace, htaken ▸ before⟩
      · rw [← taken_eq, visit] at untracks
        cases untracks

/-- After a lock was taken in, and as long as no call gives it up or replaces it, a renewal pass
drops it and reports it lost exactly if the pass was about to look for an equal entry when the
lock was taken in, or if it comes to extend the lock when the row is not its owner's.  If no
lease runs out the row can only have been removed by an unlock of the owner, after the lock was
won, and that unlock was called for before the lock was taken in. -/
theorem relocked_lost_iff (start : s.visits = []) (sound : s.Sound) {moves : List Move}
    {pre mid : List Moment} {taken : Moment} {index : Nat}
    (split : s.history moves = pre ++ taken :: mid) (hmove : taken.move = .act index)
    (takes : taken.takes? = some lock)
    (early : ∀ t ∈ pre ++ taken :: mid, t.desk.InTime lock.resource)
    (leaves : ∀ t ∈ mid, t.Leaves lock) :
    (∀ t ∈ mid, t.move = .tick → t.next.lost = t.desk.lost ++ t.lost?.toList ∧
      t.next.held = (t.lost?.map fun l => t.desk.held.drop l.resource).getD t.desk.held) ∧
    ((∃ t ∈ mid, t.lost? = some lock) ↔
      (taken.desk.pass.checks? = some lock ∧ ∃ t ∈ mid, t.move = .tick) ∨
        ∃ a e b, mid = a ++ e :: b ∧ e.extends? = some lock ∧ e.owned lock = false ∧
          ∃ t ∈ b, t.move = .tick) ∧
    ∀ a e b, mid = a ++ e :: b → e.owned lock = false →
      ∃ p won q gone, pre = p ++ won :: q ∧ won.move = .act index ∧
        won.wins lock.resource = true ∧ gone.Removes lock ∧
        (gone ∈ q ∨ gone ∈ a ∧ ∃ place, gone.move = .act place ∧
          taken.desk.visits[place]? = some (.release lock.resource lock.owner)) := by
  have everywhere := sound.history moves
  rw [split] at everywhere
  refine ⟨fun t _ hmove => ?_, ?_, ?_⟩
  · obtain ⟨s, m⟩ := t
    cases hmove
    exact s.step_tick
  · obtain ⟨-, held, hpass⟩ := taken_next hmove takes
    obtain ⟨m₁, m₂, -, -, rfl⟩ := history_split split
    rw [← hpass]
    exact lost_iff held (fun t ht => (everywhere t (by simp [ht])).database) leaves
  · intro a e b hmid lost
    subst hmid
    refine exists_removal start sound split hmove takes (fun t ht => early t ?_)
      (fun t ht => leaves t (by simp [ht])) lost
    rcases List.mem_append.mp ht with hpre | htaken
    · exact List.mem_append_left _ hpre
    · exact List.mem_append_right _ (List.mem_append_left (e :: b) htaken)

instance (resource : String) (s : Desk) : Decidable (s.InTime resource) :=
  decidable_of_iff ((s.db.row? resource).all fun row => s.clock ≤ row.deadline)
    (by simp [InTime, Option.all_eq_true])

instance (lock : HeldLock) (t : Moment) : Decidable (t.Leaves lock) :=
  inferInstanceAs (Decidable (_ ∧ _))

/-- An empty table, and nothing held. -/
def morning : Desk := idle ⟨some Table.empty⟩ 0

theorem morning_sound : morning.Sound :=
  ⟨⟨Table.empty, rfl, Table.sound_empty⟩, by decide, fun _ hv => absurd hv List.not_mem_nil⟩

/-- A lock for a minute. -/
def minute : HeldLock := ⟨"r", "o", Span.ofMillis 60000⟩

/-- The first of two unlocks is late: it gives the row up after the other one has done so, and
after the lock was taken in anew. -/
def lateUnlock : List Move :=
  [.lock "r" "h" "o" minute.lease, .act 0, .act 0, .unlock "r" "o", .act 1, .unlock "r" "o",
    .act 2, .act 2, .lock "r" "h" "o" minute.lease, .act 3, .act 3, .act 1, .tick, .tick, .tick]

theorem relocked_lost_late_unlock :
    ∃ pre taken mid, morning.history lateUnlock = pre ++ taken :: mid ∧ taken.move = .act 3 ∧
      taken.takes? = some minute ∧ (∀ t ∈ pre ++ taken :: mid, t.desk.InTime "r") ∧
      (∀ t ∈ mid, t.Leaves minute) ∧
      ((∃ t ∈ mid, t.lost? = some minute) ↔
        (taken.desk.pass.checks? = some minute ∧ ∃ t ∈ mid, t.move = .tick) ∨
          ∃ a e b, mid = a ++ e :: b ∧ e.extends? = some minute ∧ e.owned minute = false ∧
            ∃ t ∈ b, t.move = .tick) := by
  have split : morning.history lateUnlock = (morning.history lateUnlock).take 10 ++
      ⟨morning.run (lateUnlock.take 10), .act 3⟩ :: (morning.history lateUnlock).drop 11 := by
    decide +kernel
  have takes : Moment.takes? ⟨morning.run (lateUnlock.take 10), .act 3⟩ = some minute := by
    decide +kernel
  have early : ∀ t ∈ (morning.history lateUnlock).take 10 ++
      ⟨morning.run (lateUnlock.take 10), .act 3⟩ :: (morning.history lateUnlock).drop 11,
      t.desk.InTime minute.resource := by decide +kernel
  have leaves : ∀ t ∈ (morning.history lateUnlock).drop 11, t.Leaves minute := by decide +kernel
  exact ⟨_, _, _, split, rfl, takes, early, leaves,
    (relocked_lost_iff rfl morning_sound split rfl takes early leaves).2.1⟩

/-- A lock is given up and taken in anew between the two steps of a pass for its entry: after the
extension has failed, and before the pass looks at the held locks. -/
def relock : List Move :=
  [.lock "r" "h" "o" minute.lease, .act 0, .act 0, .tick, .unlock "r" "o", .act 1, .act 1, .tick,
    .lock "r" "h" "o" minute.lease, .act 2, .act 2, .tick]

/-- The pass drops the lock and reports it lost, although its row is there and nobody has asked
to give it up since.  It does so as well when a late unlock has removed the row. -/
theorem relocked_lost :
    (∃ pre taken mid, morning.history relock = pre ++ taken :: mid ∧ taken.move = .act 2 ∧
      taken.takes? = some minute ∧ (∀ t ∈ morning.history relock, t.desk.InTime "r") ∧
      (∀ t ∈ mid, t.move = .tick) ∧ taken.next.held = [minute] ∧ taken.next.lost = [] ∧
      (morning.run relock).held = [] ∧ (morning.run relock).lost = [minute] ∧
      (morning.run relock).db.row? "r" = some ⟨"r", "h", "o", 60000⟩) ∧
    (morning.run lateUnlock).held = [] ∧ (morning.run lateUnlock).lost = [minute] := by
  refine ⟨⟨(morning.history relock).take 10, ⟨morning.run (relock.take 10), .act 2⟩,
    (morning.history relock).drop 11, ?_⟩, ?_⟩
  · decide +kernel
  · decide +kernel

end Desk

end Leasehold
