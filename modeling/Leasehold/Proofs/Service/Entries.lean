import Leasehold.Proofs.Service.Start

/-!
# What a request does to the entry of a resource

`Query.Touch` says it once for all requests, as `Turn.Touch` does for the statements
that they consist of: the entry of a resource is written where there is none or a stale
one, moved or removed for the owner that is stored in it, or left alone; and it is left
alone whenever the request is refused.  All of it needs no more of the table than that
the resource has one entry at most.
-/

namespace Leasehold

variable {resource : String}

/-! ## A whole attempt -/

namespace Attempt

variable {claim : Claim} {a a' a'' : Attempt} {db db' db'' : Database}

/-- What a part of an attempt has done to the entry of a resource: nothing, or it has won and
written its row. -/
inductive Course (resource : String) (claim : Claim) (a : Attempt) (db : Database) (a' : Attempt)
    (db' : Database) : Prop where
  | nothing (same : db'.entryOf? resource = db.entryOf? resource)
      (standing : claim.row.resource = resource → a'.isGranted = a.isGranted)
  | written (own : claim.row.resource = resource) (before : a.isGranted = false)
      (granted : a'.isGranted = true)
      (free : ∀ e, db.entryOf? resource = some e → e.deadline.below claim.now = true)
      (after : db'.entryOf? resource = some (Entry.ofRow claim.row))

theorem Course.trans (h : Course resource claim a db a' db')
    (h' : Course resource claim a' db' a'' db'') : Course resource claim a db a'' db'' := by
  cases h with
  | nothing same standing =>
    cases h' with
    | nothing same' standing' =>
      exact .nothing (same'.trans same) fun own => (standing' own).trans (standing own)
    | written own before granted free after =>
      exact .written own ((standing own).symm.trans before) granted (same ▸ free) after
  | written own before granted free after =>
    cases h' with
    | nothing same' standing' =>
      exact .written own before ((standing' own).trans granted) free (same'.trans after)
    | written own' before' =>
      rw [granted] at before'
      cases before'

/-- What is granted stays granted. -/
theorem isGranted_step (h : a.isGranted = true) : (a.step claim db).1.isGranted = true := by
  cases a with
  | done ending => exact h
  | insert => cases h
  | read => cases h
  | steal seen => cases h

theorem course_step (claim : Claim) (a : Attempt) (h : db.Has (Table.Single resource)) :
    Course resource claim a db (a.step claim db).1 (a.step claim db).2 := by
  have touch : Turn.Touch resource ⟨0, .acquire claim a, db⟩ := Turn.touch h
  cases touch with
  | nothing same lost =>
    refine .nothing same fun own => ?_
    cases before : a.isGranted with
    | true => exact isGranted_step before
    | false => simpa [Turn.wins, own, before] using lost
  | insert claim' job own won absent after =>
    cases job
    have granted : (insert.step claim db).1.isGranted = true := by
      simpa [Turn.wins, own, isGranted] using won
    refine .written own rfl granted (fun e he => ?_) after
    rw [show db.entryOf? resource = none from absent] at he
    cases he
  | steal claim' seen e job own won found stale after =>
    cases job
    have granted : ((steal seen).step claim db).1.isGranted = true := by
      simpa [Turn.wins, own, isGranted] using won
    refine .written own rfl granted (fun f hf => ?_) after
    rw [show db.entryOf? resource = some e from found] at hf
    cases hf
    exact stale
  | refresh owner deadline e job => cases job
  | release owner e job => cases job
  | sweep now grace e job => cases job

/-- What an attempt that nobody disturbs has done at its end. -/
theorem course_perform (claim : Claim) (h : db.Has (Table.Single resource)) :
    Course resource claim insert db (done (perform claim db).1) (perform claim db).2 := by
  obtain ⟨ending, hdone, hperform⟩ := perform_eq claim db
  have kept := Table.kept_single resource
  have h₁ := step_has kept claim insert h
  have h₂ := step_has kept claim (step claim insert db).1 h₁
  have course := ((course_step claim insert h).trans
    (course_step claim (step claim insert db).1 h₁)).trans (course_step claim _ h₂)
  rw [hdone] at course
  rw [hperform]
  exact course

end Attempt

/-! ## A whole request -/

namespace Query

variable {host : String} {lease : UInt64 → Span} {now : Int} {db : Database}

/-- What a request can do to the entry of a resource. -/
inductive Touch (resource : String) (q : Query) (host : String) (lease : UInt64 → Span)
    (now : Int) (db : Database) : Prop where
  | nothing (same : (q.effect host lease now db).2.entryOf? resource = db.entryOf? resource)
      (refused : q.resource = resource → q.isAnnounced = true →
        (q.effect host lease now db).1 = false)
  | lock (owner : String) (hold : UInt64) (asked : q = .lock resource owner hold)
      (granted : (q.effect host lease now db).1 = true)
      (free : ∀ e, db.entryOf? resource = some e → e.deadline.below now = true)
      (after : (q.effect host lease now db).2.entryOf? resource =
        some (Entry.ofRow ⟨resource, host, owner, deadlineAfter now (lease hold)⟩))
  | refresh (owner : String) (hold : UInt64) (e : Entry) (asked : q = .refresh resource owner hold)
      (granted : (q.effect host lease now db).1 = true)
      (before : db.entryOf? resource = some e) (owned : e.owner = .text owner)
      (after : (q.effect host lease now db).2.entryOf? resource =
        some (e.extended (deadlineAfter now (lease hold))))
  | unlock (owner : String) (e : Entry) (asked : q = .unlock resource owner)
      (granted : (q.effect host lease now db).1 = true)
      (before : db.entryOf? resource = some e) (owned : e.owner = .text owner)
      (after : (q.effect host lease now db).2.entryOf? resource = none)

theorem touch_lock (r owner : String) (hold : UInt64) (h : db.Has (Table.Single resource)) :
    Touch resource (.lock r owner hold) host lease now db := by
  cases Attempt.course_perform (Claim.new now r host owner (lease hold)) h with
  | nothing same standing => exact .nothing same fun own _ => standing own
  | written own before granted free after =>
    cases own
    exact .lock owner hold rfl granted free after

theorem touch_refresh (r owner : String) (hold : UInt64) {t : Table} (h : t.Single resource) :
    Touch resource (.refresh r owner hold) host lease now ⟨some t⟩ := by
  have after := h.entryOf?_extend r owner (deadlineAfter now (lease hold))
  cases hext : (t.extend r owner (deadlineAfter now (lease hold))).1 with
  | false =>
    rw [hext] at after
    refine .nothing (after.trans (by simp)) fun _ _ => ?_
    simp [effect, Database.extend, hext]
  | true =>
    have granted : ((refresh r owner hold).effect host lease now ⟨some t⟩).1 = true := by
      simp [effect, Database.extend, hext]
    by_cases hr : resource = r
    · subst hr
      rw [hext] at after
      rw [h.extend_fst] at hext
      obtain ⟨e, he, ho⟩ := (Option.any_eq_true _ _).mp hext
      exact .refresh owner hold e rfl granted he (of_decide_eq_true ho) (after.trans (by simp [he]))
    · exact .nothing (after.trans (by simp [hr])) fun own => absurd own.symm hr

theorem touch_unlock (r owner : String) {t : Table} (h : t.Single resource) :
    Touch resource (.unlock r owner) host lease now ⟨some t⟩ := by
  have after := h.entryOf?_delete r owner
  cases hdel : (t.delete r owner).1 with
  | false =>
    rw [hdel] at after
    refine .nothing (after.trans (by simp)) fun _ _ => ?_
    simp [effect, Database.delete, hdel]
  | true =>
    have granted : ((unlock r owner).effect host lease now ⟨some t⟩).1 = true := by
      simp [effect, Database.delete, hdel]
    by_cases hr : resource = r
    · subst hr
      rw [hdel] at after
      rw [h.delete_fst] at hdel
      obtain ⟨e, he, ho⟩ := (Option.any_eq_true _ _).mp hdel
      exact .unlock owner e rfl granted he (of_decide_eq_true ho) (after.trans (by simp))
    · exact .nothing (after.trans (by simp [hr])) fun own => absurd own.symm hr

/-- What a request does to the entry of a resource that has at most one. -/
theorem touch (q : Query) (h : db.Has (Table.Single resource)) :
    Touch resource q host lease now db := by
  obtain ⟨t, rfl, ht⟩ := h
  cases q with
  | lock r o hold => exact touch_lock r o hold ⟨t, rfl, ht⟩
  | refresh r o hold => exact touch_refresh r o hold ht
  | unlock r o => exact touch_unlock r o ht
  | isLocked r => exact .nothing rfl fun _ announced => nomatch announced
  | isLockedBy r o => exact .nothing rfl fun _ announced => nomatch announced

/-- What statements keep, requests keep. -/
theorem effect_has {P : Table → Prop} (kept : Table.Kept P) (q : Query) (host : String)
    (lease : UInt64 → Span) (now : Int) (h : db.Has P) : (q.effect host lease now db).2.Has P := by
  cases q with
  | lock r o hold => exact Attempt.perform_has kept _ h
  | refresh r o hold =>
    obtain ⟨t, rfl, ht⟩ := h
    exact ⟨_, rfl, kept.extend ht⟩
  | unlock r o =>
    obtain ⟨t, rfl, ht⟩ := h
    exact ⟨_, rfl, kept.delete ht⟩
  | isLocked r => exact h
  | isLockedBy r o =>
    obtain ⟨t, rfl, ht⟩ := h
    exact ⟨t, rfl, ht⟩

end Query

/-! ## The lease of an owner -/

namespace Database

/-- The row of a resource is an owner's until a deadline. -/
def LeasedTo (resource owner : String) (deadline : Int) (db : Database) : Prop :=
  ∃ e, db.entryOf? resource = some e ∧ e.owner = .text owner ∧ e.deadline = .integer deadline

/-- The lease of an owner is in the database, or its deadline is past. -/
def Covered (resource owner : String) (deadline now : Int) (db : Database) : Prop :=
  db.LeasedTo resource owner deadline ∨ deadline < now

variable {owner : String} {deadline now : Int} {db : Database}

/-- Where everything is stale, the deadline of a lease is past. -/
theorem Covered.past_of_free (h : db.Covered resource owner deadline now)
    (free : ∀ e, db.entryOf? resource = some e → e.deadline.below now = true) :
    deadline < now := by
  cases h with
  | inr past => exact past
  | inl leased =>
    obtain ⟨e, he, -, hd⟩ := leased
    have stale := free e he
    rw [hd, Cell.below_integer] at stale
    exact of_decide_eq_true stale

/-- Where the row is another owner's, the deadline of a lease is past. -/
theorem Covered.past_of_other {owner' : String} {e : Entry}
    (h : db.Covered resource owner deadline now) (he : db.entryOf? resource = some e)
    (owned : e.owner = .text owner') (other : owner' ≠ owner) : deadline < now := by
  cases h with
  | inr past => exact past
  | inl leased =>
    obtain ⟨f, hf, ho, -⟩ := leased
    cases he.symm.trans hf
    exact absurd (Cell.text.inj (owned.symm.trans ho)) other

end Database

namespace Query

variable {host owner : String} {lease : UInt64 → Span} {now deadline : Int} {db : Database}
  {q : Query}

/-- The lease that a request asks for on a resource for an owner. -/
def hold? (resource owner : String) : Query → Option UInt64
  | lock r o hold | refresh r o hold => if r = resource ∧ o = owner then some hold else none
  | unlock _ _ | isLocked _ | isLockedBy _ _ => none

/-- The deadline that a request asks for on a resource for an owner. -/
def deadline? (q : Query) (resource owner : String) (lease : UInt64 → Span) (now : Int) :
    Option Int :=
  (q.hold? resource owner).map fun hold => deadlineAfter now (lease hold)

/-- The deadline of an owner after a request that was granted or refused. -/
def deadlineOf (q : Query) (resource owner : String) (lease : UInt64 → Span) (now before : Int)
    (granted : Bool) : Int :=
  if granted then (q.deadline? resource owner lease now).getD before else before

theorem hold?_other {r o : String} {hold : UInt64} (h : o ≠ owner) :
    (lock r o hold).hold? resource owner = none ∧ (refresh r o hold).hold? resource owner = none :=
  ⟨if_neg fun both => h both.2, if_neg fun both => h both.2⟩

theorem hold?_own (hold : UInt64) :
    (lock resource owner hold).hold? resource owner = some hold ∧
      (refresh resource owner hold).hold? resource owner = some hold :=
  ⟨if_pos ⟨rfl, rfl⟩, if_pos ⟨rfl, rfl⟩⟩

theorem deadlineOf_of_none {granted : Bool} (h : q.hold? resource owner = none) :
    q.deadlineOf resource owner lease now deadline granted = deadline := by
  rw [deadlineOf, deadline?, h]
  cases granted <;> rfl

theorem deadlineOf_of_some {hold : UInt64} (h : q.hold? resource owner = some hold) :
    q.deadlineOf resource owner lease now deadline true = deadlineAfter now (lease hold) := by
  rw [deadlineOf, deadline?, h]
  rfl

theorem announced_of_hold {hold : UInt64} (h : q.hold? resource owner = some hold) :
    q.resource = resource ∧ q.isAnnounced = true := by
  cases q with
  | lock r o hold' =>
    rw [hold?] at h
    split at h
    · rename_i same
      exact ⟨same.1, rfl⟩
    · cases h
  | refresh r o hold' =>
    rw [hold?] at h
    split at h
    · rename_i same
      exact ⟨same.1, rfl⟩
    · cases h
  | unlock r o => cases h
  | isLocked r => cases h
  | isLockedBy r o => cases h

/-- A request that leaves an entry alone gives nobody a new deadline. -/
theorem deadlineOf_idle {granted : Bool}
    (refused : q.resource = resource → q.isAnnounced = true → granted = false) :
    q.deadlineOf resource owner lease now deadline granted = deadline := by
  cases granted with
  | false => rfl
  | true =>
    cases hhold : q.hold? resource owner with
    | none => exact deadlineOf_of_none hhold
    | some hold =>
      obtain ⟨own, announced⟩ := announced_of_hold hhold
      cases refused own announced

/-- After a request the lease of an owner is in the table, or it was given up, or its deadline
is past. -/
theorem covered_effect (touch : q.Touch resource host lease now db)
    (covered : db.Covered resource owner deadline now) :
    (q = .unlock resource owner ∧ (q.effect host lease now db).1 = true) ∨
      (q.effect host lease now db).2.Covered resource owner
        (q.deadlineOf resource owner lease now deadline (q.effect host lease now db).1) now := by
  cases touch with
  | nothing same refused =>
    right
    rw [deadlineOf_idle refused]
    exact covered.imp_left fun leased => by rwa [Database.LeasedTo, same]
  | lock owner' hold asked granted free after =>
    right
    subst asked
    rw [granted]
    by_cases same : owner' = owner
    · subst same
      rw [deadlineOf_of_some (hold?_own hold).1]
      exact .inl ⟨_, after, rfl, rfl⟩
    · rw [deadlineOf_of_none (hold?_other same).1]
      exact .inr (covered.past_of_free free)
  | refresh owner' hold e asked granted before owned after =>
    right
    subst asked
    rw [granted]
    by_cases same : owner' = owner
    · subst same
      rw [deadlineOf_of_some (hold?_own hold).2]
      exact .inl ⟨_, after, owned, rfl⟩
    · rw [deadlineOf_of_none (hold?_other same).2]
      exact .inr (covered.past_of_other before owned same)
  | unlock owner' e asked granted before owned after =>
    subst asked
    by_cases same : owner' = owner
    · exact .inl ⟨by rw [same], granted⟩
    · right
      rw [granted]
      exact .inr (covered.past_of_other before owned same)

/-- A lock that is granted has found no row that is not stale, and has written its own. -/
theorem lock_of_granted {hold : UInt64}
    (touch : (lock resource owner hold).Touch resource host lease now db)
    (granted : ((lock resource owner hold).effect host lease now db).1 = true) :
    (∀ e, db.entryOf? resource = some e → e.deadline.below now = true) ∧
      ((lock resource owner hold).effect host lease now db).2.LeasedTo resource owner
        (deadlineAfter now (lease hold)) := by
  cases touch with
  | nothing same refused =>
    rw [refused rfl rfl] at granted
    cases granted
  | lock owner' hold' asked granted' free after =>
    cases asked
    exact ⟨free, _, after, rfl, rfl⟩
  | refresh owner' hold' e asked => cases asked
  | unlock owner' e asked => cases asked

end Query

/-! ## The sweep at the start -/

namespace ServiceSettings

variable {s : ServiceSettings} {now : Int} {t : Table}

theorem prepared_single (h : t.Single resource) :
    (s.prepared now ⟨some t⟩).Single resource := by
  unfold prepared
  dsimp only [Option.getD_some]
  split
  · exact (Table.kept_single resource).purgeBefore h
  · exact h

/-- The entry of a resource is there as before, unless it was past its deadline. -/
theorem entryOf?_prepared (h : t.Single resource) (hnow : Text.Digits.signedMin ≤ now) :
    (s.prepared now ⟨some t⟩).entryOf? resource = t.entryOf? resource ∨
      ∃ e, t.entryOf? resource = some e ∧ ∀ d, e.deadline = .integer d → d < now := by
  unfold prepared
  dsimp only [Option.getD_some]
  split
  · rw [h.entryOf?_purgeBefore]
    cases he : t.entryOf? resource with
    | none => exact .inl rfl
    | some e =>
      cases hb : e.deadline.below (momentBefore now s.sweepGrace) with
      | false => exact .inl (by simp [hb])
      | true =>
        refine .inr ⟨e, rfl, fun d hd => ?_⟩
        rw [hd, Cell.below_integer] at hb
        have past := of_decide_eq_true hb
        have cutoff := momentBefore_le hnow s.sweepGrace
        omega
  · exact .inl rfl

end ServiceSettings

end Leasehold
