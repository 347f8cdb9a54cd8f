import Leasehold.CommandLine.Basic
import Leasehold.Proofs.Command.Process

/-!
# Where the words of a command line come from

Each word that a command works on is one of the arguments as it was given, so that what
holds of all arguments of a process holds of the names in its request
(`Invocation.resource_of_arguments`).
-/

namespace Leasehold

namespace Given

variable {P : String → Prop} {grammar : Grammar} {g g' : Given}

theorem word_ofText {s w : String} (h : Argument.ofText s = .word w) : w = s := by
  unfold Argument.ofText at h
  split at h
  · cases h
  · cases h
  · cases h
  · cases h
    rfl

theorem words_takeValue {kind : OptionKind} {name value : String}
    (h : takeValue kind name value g = .ok g') : g'.words = g.words := by
  unfold takeValue at h
  split at h
  · cases h
  · split at h
    · cases h
    · cases h
      rfl

theorem words_takeMark {name : String} (h : takeMark grammar name g = .ok g') :
    g'.words = g.words := by
  unfold takeMark at h
  split at h
  · cases h
    rfl
  · split at h
    · cases h
    · split at h
      · cases h
      · split at h
        · cases h
          rfl
        · cases h

theorem words_takeLetters {letters : List Char} (h : takeLetters grammar letters g = .ok g') :
    g'.words = g.words := by
  induction letters generalizing g with
  | nil =>
    cases h
    rfl
  | cons c cs ih =>
    rw [takeLetters] at h
    split at h
    · exact (ih h : g'.words = g.louder.words)
    · split at h
      · cases h
      · split at h <;> cases h

theorem words_takeWord {w : String} (hw : P w) (hg : ∀ v ∈ g.words, P v)
    (h : takeWord grammar w g = .ok g') : ∀ v ∈ g'.words, P v := by
  unfold takeWord at h
  split at h
  · cases h
    intro v hv
    rcases List.mem_append.mp hv with hold | hnew
    · exact hg v hold
    · rw [List.mem_singleton.mp hnew]
      exact hw
  · cases h

theorem ok_of_bind {ε α β : Type} {x : Except ε α} {f : α → Except ε β} {b : β}
    (h : (x >>= f) = .ok b) : ∃ a, x = .ok a ∧ f a = .ok b := by
  cases x with
  | error e => cases h
  | ok a => exact ⟨a, rfl, h⟩

theorem words_foldlM {args : List String} (hargs : ∀ a ∈ args, P a) (hg : ∀ w ∈ g.words, P w)
    (h : args.foldlM (fun g w => takeWord grammar w g) g = .ok g') : ∀ w ∈ g'.words, P w := by
  induction args generalizing g with
  | nil =>
    cases h
    exact hg
  | cons arg rest ih =>
    rw [List.foldlM_cons] at h
    obtain ⟨g₁, taken, h⟩ := ok_of_bind h
    obtain ⟨hfirst, hrest⟩ := List.forall_mem_cons.mp hargs
    exact ih hrest (words_takeWord hfirst hg taken) h

/-- What holds of all arguments holds of all words, and of what is handed on. -/
theorem words_read {args : List String} {next : Option (String × List String)}
    (hargs : ∀ a ∈ args, P a) (hg : ∀ w ∈ g.words, P w)
    (h : read grammar args g = .ok (g', next)) :
    (∀ w ∈ g'.words, P w) ∧ ∀ name rest, next = some (name, rest) → ∀ a ∈ rest, P a := by
  induction args, g using read.induct grammar with
  | case1 g =>
    rw [read] at h
    cases h
    exact ⟨hg, nofun⟩
  | case2 arg rest g hform =>
    rw [read, hform] at h
    obtain ⟨hfirst, hrest⟩ := List.forall_mem_cons.mp hargs
    dsimp only at h
    cases hfold : rest.foldlM (fun g w => takeWord grammar w g) g with
    | error e => rw [hfold] at h; cases h
    | ok g₁ =>
      rw [hfold] at h
      cases h
      exact ⟨words_foldlM hrest hg hfold, nofun⟩
  | case3 arg rest g letters hform ih =>
    rw [read, hform] at h
    obtain ⟨g₁, taken, h⟩ := ok_of_bind h
    refine ih g₁ (List.forall_mem_cons.mp hargs).2 ?_ h
    rw [words_takeLetters taken]
    exact hg
  | case4 arg rest g w hform hwords =>
    rw [read, hform] at h
    dsimp only at h
    rw [hwords] at h
    cases h
    refine ⟨hg, fun name rest' hnext => ?_⟩
    cases hnext
    exact (List.forall_mem_cons.mp hargs).2
  | case5 arg rest g w hform most hwords ih =>
    rw [read, hform] at h
    dsimp only at h
    rw [hwords] at h
    obtain ⟨g₁, taken, h⟩ := ok_of_bind h
    obtain ⟨hfirst, hrest⟩ := List.forall_mem_cons.mp hargs
    rw [← word_ofText hform] at hfirst
    exact ih g₁ hrest (words_takeWord hfirst hg taken) h
  | case6 arg rest g name value hform hkind ih =>
    rw [read, hform] at h
    dsimp only at h
    rw [hkind] at h
    obtain ⟨g₁, taken, h⟩ := ok_of_bind h
    refine ih g₁ (List.forall_mem_cons.mp hargs).2 ?_ h
    rw [words_takeValue taken]
    exact hg
  | case7 arg rest g name value hform hkind ih =>
    rw [read, hform] at h
    dsimp only at h
    rw [hkind] at h
    obtain ⟨g₁, taken, h⟩ := ok_of_bind h
    refine ih g₁ (List.forall_mem_cons.mp hargs).2 ?_ h
    rw [words_takeValue taken]
    exact hg
  | case8 arg rest g name value hform hword hnumber =>
    rw [read, hform] at h
    dsimp only at h
    split at h
    · rename_i hkind
      exact absurd hkind hword
    · rename_i hkind
      exact absurd hkind hnumber
    · cases h
  | case9 arg g name hform kind hkind value rest hvalue ih =>
    rw [read, hform] at h
    dsimp only at h
    rw [if_pos hkind, if_pos hvalue] at h
    obtain ⟨g₁, taken, h⟩ := ok_of_bind h
    obtain ⟨-, hrest⟩ := List.forall_mem_cons.mp (List.forall_mem_cons.mp hargs).2
    refine ih g₁ hrest ?_ h
    rw [words_takeValue taken]
    exact hg
  | case10 arg g name hform kind hkind value rest hvalue =>
    rw [read, hform] at h
    dsimp only at h
    rw [if_pos hkind, if_neg hvalue] at h
    cases h
  | case11 arg g name hform kind hkind =>
    rw [read, hform] at h
    dsimp only at h
    rw [if_pos hkind] at h
    cases h
  | case12 arg rest g name hform kind hkind ih =>
    rw [read, hform] at h
    dsimp only at h
    rw [if_neg hkind] at h
    obtain ⟨g₁, taken, h⟩ := ok_of_bind h
    refine ih g₁ (List.forall_mem_cons.mp hargs).2 ?_ h
    rw [words_takeMark taken]
    exact hg

end Given

namespace Verb

theorem resource_mem_words {v : Verb} {g : Given} {t : Task} {q : Query}
    (h : v.command? g = some (.task t)) (hq : t.query? = some q) : q.resource ∈ g.words := by
  unfold command? at h
  split at h
  · rename_i r o hwords
    cases h
    rw [hwords]
    cases hwait : g.value? "wait" with
    | none =>
      rw [hwait] at hq
      cases hq
      exact List.mem_cons_self
    | some bound => rw [hwait] at hq; cases hq
  · rename_i r o hwords
    cases h
    cases hq
    rw [hwords]
    exact List.mem_cons_self
  · rename_i r o hwords
    cases h
    cases hq
    rw [hwords]
    exact List.mem_cons_self
  · cases h; cases hq
  · cases h; cases hq
  · cases h; cases hq
  · cases h; cases hq
  · cases h
  · cases h

end Verb

namespace Invocation

/-- The resource of a request is an argument of the process. -/
theorem resource_of_arguments {P : String → Prop} {args : List String} {i : Invocation} {t : Task}
    {q : Query} (hargs : ∀ a ∈ args, P a) (parsed : ofArguments args = .ok i)
    (ht : i.command = .task t) (hq : t.query? = some q) : P q.resource := by
  rw [ofArguments] at parsed
  obtain ⟨⟨outer, next⟩, hread, parsed⟩ := Given.ok_of_bind parsed
  cases next with
  | none => cases parsed
  | some command =>
    obtain ⟨name, rest⟩ := command
    have hrest := (Given.words_read hargs (List.forall_mem_nil P) hread).2 name rest rfl
    dsimp only at parsed
    cases hverb : Verb.ofName? name with
    | none =>
      rw [hverb] at parsed
      cases parsed
    | some verb =>
      rw [hverb] at parsed
      obtain ⟨⟨inner, last⟩, hinner, parsed⟩ := Given.ok_of_bind parsed
      have hwords := (Given.words_read hrest (List.forall_mem_nil P) hinner).1
      dsimp only at parsed
      cases hcommand : verb.command? inner with
      | none => rw [hcommand] at parsed; cases parsed
      | some command =>
        rw [hcommand] at parsed
        cases parsed
        cases ht
        exact hwords _ (Verb.resource_mem_words hcommand hq)

end Invocation

end Leasehold
