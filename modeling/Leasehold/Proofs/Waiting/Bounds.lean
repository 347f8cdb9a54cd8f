import Leasehold.Proofs.Text.Trimming
import Leasehold.Waiting.Bound
import Mathlib.Data.List.Forall2

/-!
# Which texts are bounds, and which of them prevails

A bound is spelled as the word for none, each letter in either case, or as a number of seconds
behind an optional plus sign (`WaitBound.Spelled`).  A text is read exactly if what is left of it
between its blanks is such a spelling (`parse_eq_ok_iff`), and a text that is not read is given
back without these blanks (`parse_eq_error_iff`).

The sources of a bound are ranked.  `ResolvedBound.Prevails` has one case for each of them, and in
it nothing is asked of the sources below.
-/

namespace Leasehold

/-! ## Letters in either case -/

theorem toNat_toLower (c : Char) :
    c.toLower.toNat = if 65 ≤ c.toNat ∧ c.toNat ≤ 90 then c.toNat + 32 else c.toNat := by
  have capital : c.val ≥ 'A'.val ∧ c.val ≤ 'Z'.val ↔ 65 ≤ c.toNat ∧ c.toNat ≤ 90 := by
    simp only [ge_iff_le, UInt32.le_iff_toNat_le]
    exact Iff.rfl
  unfold Char.toLower
  split
  · rename_i h
    have small := (capital.mp h).2
    rw [if_pos (capital.mp h)]
    show (c.val + 32).toNat = c.toNat + 32
    rw [UInt32.toNat_add]
    show (c.toNat + 32) % 4294967296 = _
    omega
  · rename_i h
    rw [if_neg (mt capital.mpr h)]

theorem toNat_toUpper (c : Char) :
    c.toUpper.toNat = if 97 ≤ c.toNat ∧ c.toNat ≤ 122 then c.toNat - 32 else c.toNat := by
  have small : 'a'.val ≤ c.val ∧ c.val ≤ 'z'.val ↔ 97 ≤ c.toNat ∧ c.toNat ≤ 122 := by
    simp only [UInt32.le_iff_toNat_le]
    exact Iff.rfl
  unfold Char.toUpper
  split
  · rename_i h
    obtain ⟨low, high⟩ := small.mp h
    rw [if_pos ⟨low, high⟩]
    show (c.val + 4294967264).toNat = c.toNat - 32
    rw [UInt32.toNat_add]
    show (c.toNat + 4294967264) % 4294967296 = _
    omega
  · rename_i h
    rw [if_neg (mt small.mpr h)]

/-- The characters that a small letter is written as, its capital included. -/
theorem toLower_eq_iff {c letter : Char} (small : letter.isLower = true) :
    c.toLower = letter ↔ c = letter ∨ c = letter.toUpper := by
  have range : 97 ≤ letter.toNat ∧ letter.toNat ≤ 122 := by
    obtain ⟨low, high⟩ := Bool.and_eq_true_iff.mp small
    exact ⟨of_decide_eq_true low, of_decide_eq_true high⟩
  rw [← Char.toNat_inj, ← Char.toNat_inj, ← Char.toNat_inj, toNat_toLower, toNat_toUpper,
    if_pos range]
  split <;> omega

/-- A text has the letters of a word of small letters, each in either case. -/
theorem map_toLower_eq_iff {cs word : List Char} (small : ∀ letter ∈ word, letter.isLower = true) :
    cs.map Char.toLower = word ↔
      List.Forall₂ (fun c letter => c = letter ∨ c = letter.toUpper) cs word := by
  induction cs generalizing word with
  | nil =>
    cases word with
    | nil => exact iff_of_true rfl .nil
    | cons letter word => exact iff_of_false (by simp) (by simp)
  | cons c cs ih =>
    cases word with
    | nil => exact iff_of_false (by simp) (by simp)
    | cons letter word =>
      obtain ⟨first, others⟩ := List.forall_mem_cons.mp small
      rw [List.map_cons, List.cons.injEq, List.forall₂_cons, toLower_eq_iff first, ih others]

namespace Text.Digits

/-! ## Numbers behind a sign -/

theorem accumulate_eq (digits : List Char) :
    accumulate 0 digits = Nat.ofDigitChars 10 digits 0 := by
  rw [Nat.ofDigitChars_eq_foldl, accumulate]
  simp only [digitValue, Nat.mul_comm]

theorem isDigit_iff (c : Char) : isDigit c = true ↔ '0' ≤ c ∧ c ≤ '9' := by
  simp [isDigit]

theorem natural?_of_digits {digits : List Char} (decimal : ∀ c ∈ digits, isDigit c = true) :
    natural? digits = value? digits := by
  unfold natural?
  split
  · exact absurd (decimal '+' List.mem_cons_self) (by decide)
  · rfl

/-- A number is read from digits, behind a plus sign or none. -/
theorem natural?_eq_some_iff {cs : List Char} {n : Nat} :
    natural? cs = some n ↔
      ∃ sign digits, cs = sign ++ digits ∧ (sign = [] ∨ sign = ['+']) ∧ value? digits = some n := by
  constructor
  · intro read
    unfold natural? at read
    split at read
    · exact ⟨['+'], _, rfl, .inr rfl, read⟩
    · exact ⟨[], cs, rfl, .inl rfl, read⟩
  · rintro ⟨sign, digits, rfl, rfl | rfl, read⟩
    · rw [List.nil_append, natural?_of_digits (value?_eq_some_iff.mp read).2.1, read]
    · exact read

theorem unsigned?_eq_some_iff {s : String} {n : UInt64} :
    unsigned? s = some n ↔ natural? s.toList = some n.toNat := by
  have fits := n.toNat_lt
  unfold unsigned?
  cases natural? s.toList with
  | none => simp
  | some m =>
    rw [Option.some.injEq]
    show (if m < unsignedBound then some m.toUInt64 else none) = some n ↔ m = n.toNat
    by_cases small : m < unsignedBound
    · have same : m.toUInt64.toNat = m := UInt64.toNat_ofNat_of_lt' small
      rw [if_pos small, Option.some.injEq, ← UInt64.toNat_inj, same]
    · unfold unsignedBound at small
      exact iff_of_false (by simp [unsignedBound, small]) (by omega)

end Text.Digits

namespace WaitBound

/-! ## Reading a bound -/

theorem map_eq_ok_iff {α β ε : Type} {x : Except ε α} {f : α → β} {b : β} :
    x.map f = .ok b ↔ ∃ a, x = .ok a ∧ f a = b := by
  cases x <;> simp [Except.map]

theorem map_eq_error_iff {α β ε : Type} {x : Except ε α} {f : α → β} {e : ε} :
    x.map f = .error e ↔ x = .error e := by
  cases x <;> simp [Except.map]

/-- The spellings of a bound. -/
inductive Spelled : List Char → WaitBound → Prop where
  | infinite {word : List Char}
    (letters : List.Forall₂ (fun c letter => c = letter ∨ c = letter.toUpper) word
      "infinite".toList) :
    Spelled word .infinite
  | seconds {sign digits : List Char} {n : UInt64} (plus : sign = [] ∨ sign = ['+'])
    (nonempty : digits ≠ []) (decimal : ∀ c ∈ digits, '0' ≤ c ∧ c ≤ '9')
    (value : Nat.ofDigitChars 10 digits 0 = n.toNat) (limit : Span)
    (nanos : limit.nanos = n.toNat * 1000000000) : Spelled (sign ++ digits) (.finite limit)

theorem unsigned?_iff_spelled {s : String} {n : UInt64} :
    Text.Digits.unsigned? s = some n ↔
      ∃ sign digits, s.toList = sign ++ digits ∧ (sign = [] ∨ sign = ['+']) ∧ digits ≠ [] ∧
        (∀ c ∈ digits, '0' ≤ c ∧ c ≤ '9') ∧ Nat.ofDigitChars 10 digits 0 = n.toNat := by
  simp only [Text.Digits.unsigned?_eq_some_iff, Text.Digits.natural?_eq_some_iff,
    Text.Digits.value?_eq_some_iff, Text.Digits.accumulate_eq, Text.Digits.isDigit_iff]

/-- No number is spelled like the word for none. -/
theorem not_letters_of_digits {sign digits : List Char} (nonempty : digits ≠ [])
    (decimal : ∀ c ∈ digits, '0' ≤ c ∧ c ≤ '9') :
    (sign ++ digits).map Char.toLower ≠ "infinite".toList := by
  intro letters
  obtain ⟨d, hd⟩ := List.exists_mem_of_ne_nil digits nonempty
  have letter : d.toLower ∈ "infinite".toList := by
    rw [← letters]
    exact List.mem_map_of_mem (List.mem_append_right sign hd)
  have high : ∀ c ∈ "infinite".toList, 97 ≤ c.toNat := by simp
  have low : d.toNat ≤ 57 := (decimal d hd).2
  have hl := high _ letter
  rw [toNat_toLower] at hl
  split at hl <;> omega

/-- A spelling is the word or a number, and not both. -/
theorem spelled_iff {t : String} {b : WaitBound} :
    Spelled t.toList b ↔
      if t.toList.map Char.toLower = "infinite".toList then b = .infinite
      else ∃ n, Text.Digits.unsigned? t = some n ∧ b = ofSeconds n := by
  have small : ∀ letter ∈ "infinite".toList, letter.isLower = true := by simp
  constructor
  · intro spelled
    generalize cs_eq : t.toList = cs at spelled
    cases spelled with
    | infinite letters => rw [if_pos ((map_toLower_eq_iff small).mpr letters)]
    | @seconds sign digits n plus nonempty decimal value limit nanos =>
      rw [if_neg (not_letters_of_digits nonempty decimal)]
      have number : Text.Digits.unsigned? t = some n :=
        unsigned?_iff_spelled.mpr ⟨sign, digits, cs_eq, plus, nonempty, decimal, value⟩
      exact ⟨n, number, congrArg finite (Span.ext nanos)⟩
  · intro read
    split at read
    · rename_i letters
      rw [read]
      exact .infinite ((map_toLower_eq_iff small).mp letters)
    · obtain ⟨n, number, rfl⟩ := read
      obtain ⟨sign, digits, split, plus, nonempty, decimal, value⟩ :=
        unsigned?_iff_spelled.mp number
      rw [split]
      exact .seconds plus nonempty decimal value _ rfl

/-- A text is read as the bound that is spelled between its blanks. -/
theorem parse_eq_ok_iff {s : String} {b : WaitBound} :
    parse s = .ok b ↔ Spelled (Text.trimString s).toList b := by
  rw [spelled_iff]
  unfold parse
  dsimp only
  split
  · rw [Except.ok.injEq, eq_comm]
  · cases Text.Digits.unsigned? (Text.trimString s) with
    | none => simp
    | some n => simp [eq_comm]

/-- What is spelled in no way is given back without its blanks. -/
theorem parse_eq_error_iff {s : String} {e : UnreadableBound} :
    parse s = .error e ↔
      e.text = Text.trimString s ∧ ∀ b, ¬Spelled (Text.trimString s).toList b := by
  have given : ∀ e, parse s = .error e → e.text = Text.trimString s := by
    intro e refused
    unfold parse at refused
    dsimp only at refused
    split at refused
    · cases refused
    · split at refused
      · cases refused
      · cases refused
        rfl
  constructor
  · intro refused
    refine ⟨given e refused, fun b spelled => ?_⟩
    rw [parse_eq_ok_iff.mpr spelled] at refused
    cases refused
  · rintro ⟨text, nothing⟩
    cases read : parse s with
    | ok b => exact absurd (parse_eq_ok_iff.mp read) (nothing b)
    | error e' =>
      have same : e' = e := by
        rw [UnreadableBound.mk.injEq, given e' read, text]
      rw [same]

/-! ## The source that prevails -/

/-- The bound in force and its source, by the highest source that speaks. -/
inductive Prevails : Option String → Option String → WaitBound → WaitBound → ResolvedBound → Prop
  where
  | commandLine {text : String} {environment : Option String} {settings fallback bound : WaitBound}
    (read : parse text = .ok bound) :
    Prevails (some text) environment settings fallback ⟨bound, .commandLine⟩
  | environment {text : String} {settings fallback bound : WaitBound}
    (read : parse text = .ok bound) :
    Prevails none (some text) settings fallback ⟨bound, .environment⟩
  | settings {settings fallback : WaitBound} (own : settings ≠ fallback) :
    Prevails none none settings fallback ⟨settings, .settings⟩
  | standard {settings : WaitBound} : Prevails none none settings settings ⟨settings, .standard⟩

variable {commandLine environment : Option String} {settings fallback : WaitBound}

theorem resolve_some (text : String) :
    resolve (some text) environment settings fallback =
      (parse text).map fun b => ⟨b, .commandLine⟩ := rfl

theorem resolve_none_some (text : String) :
    resolve none (some text) settings fallback =
      (parse text).map fun b => ⟨b, .environment⟩ := rfl

theorem resolve_settings (own : settings ≠ fallback) :
    resolve none none settings fallback = .ok ⟨settings, .settings⟩ := by
  simp only [resolve, if_neg own]

theorem resolve_standard (settings : WaitBound) :
    resolve none none settings settings = .ok ⟨settings, .standard⟩ := by
  simp only [resolve, if_true]

/-- A bound is resolved to the one that prevails. -/
theorem resolve_eq_ok_iff {r : ResolvedBound} :
    resolve commandLine environment settings fallback = .ok r ↔
      Prevails commandLine environment settings fallback r := by
  constructor
  · intro resolved
    cases commandLine with
    | some text =>
      rw [resolve_some, map_eq_ok_iff] at resolved
      obtain ⟨bound, read, rfl⟩ := resolved
      exact .commandLine read
    | none =>
      cases environment with
      | some text =>
        rw [resolve_none_some, map_eq_ok_iff] at resolved
        obtain ⟨bound, read, rfl⟩ := resolved
        exact .environment read
      | none =>
        by_cases same : settings = fallback
        · subst same
          rw [resolve_standard] at resolved
          cases resolved
          exact .standard
        · rw [resolve_settings same] at resolved
          cases resolved
          exact .settings same
  · intro prevails
    cases prevails with
    | commandLine read =>
      rw [resolve_some, map_eq_ok_iff]
      exact ⟨_, read, rfl⟩
    | environment read =>
      rw [resolve_none_some, map_eq_ok_iff]
      exact ⟨_, read, rfl⟩
    | settings own => exact resolve_settings own
    | standard => exact resolve_standard settings

/-- Nothing is resolved exactly if the highest text cannot be read. -/
theorem resolve_eq_error_iff {e : UnreadableBound} :
    resolve commandLine environment settings fallback = .error e ↔
      ∃ text, commandLine.or environment = some text ∧ parse text = .error e := by
  cases commandLine with
  | some text =>
    rw [Option.some_or, resolve_some, map_eq_error_iff]
    simp only [Option.some.injEq, exists_eq_left']
  | none =>
    cases environment with
    | some text =>
      rw [Option.none_or, resolve_none_some, map_eq_error_iff]
      simp only [Option.some.injEq, exists_eq_left']
    | none => exact iff_of_false nofun (by simp)

/-- A text is read as the bound that is spelled between its blanks, and given back without these
blanks if there is none.  Of the sources the highest one that speaks is read, and it alone: the
command line, then the environment, then the settings, which count as the standard where they are
equal to it. -/
theorem bound_of_sources :
    (∀ (s : String) (b : WaitBound),
      parse s = .ok b ↔ ∃ core, Text.Trims s.toList core ∧ Spelled core b) ∧
    (∀ (s : String) (e : UnreadableBound),
      parse s = .error e ↔ Text.Trims s.toList e.text.toList ∧ ∀ b, ¬Spelled e.text.toList b) ∧
    ∀ (commandLine environment : Option String) (settings fallback : WaitBound),
      (∀ e, resolve commandLine environment settings fallback = .error e ↔
        ∃ text, commandLine.or environment = some text ∧ parse text = .error e) ∧
      (∀ r, resolve commandLine environment settings fallback = .ok r ↔
        Prevails commandLine environment settings fallback r) ∧
      ∀ text environment' settings' fallback',
        resolve (some text) environment settings fallback =
            resolve (some text) environment' settings' fallback' ∧
          resolve none (some text) settings fallback =
            resolve none (some text) settings' fallback' := by
  have trimmed : ∀ s, (Text.trimString s).toList = Text.trim s.toList := fun _ =>
    String.toList_ofList
  refine ⟨fun s b => ?_, fun s e => ?_, fun _ _ _ _ =>
    ⟨fun _ => resolve_eq_error_iff, fun _ => resolve_eq_ok_iff, fun _ _ _ _ => ⟨rfl, rfl⟩⟩⟩
  · rw [parse_eq_ok_iff, trimmed]
    constructor
    · intro spelled
      exact ⟨_, Text.trims_trim _, spelled⟩
    · rintro ⟨core, trims, spelled⟩
      rwa [Text.trim_eq_iff.mpr trims]
  · rw [parse_eq_error_iff, ← Text.trim_eq_iff, ← trimmed, String.toList_inj, eq_comm]
    refine and_congr_right fun same => ?_
    rw [same]

end WaitBound

end Leasehold
