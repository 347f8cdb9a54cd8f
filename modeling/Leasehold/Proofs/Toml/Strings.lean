import Leasehold.Toml.Scalar
import Leasehold.Toml.Writer

/-!
# Strings are read back

A string that stands at the end of a line is read back from the form in which it was written,
whatever characters it has (`string?_writeString`).  Between double quotes each character is
written as something that stands for it (`Stands`), and both readers of such strings take one
off at a time; only between three quotes may a line break or a short run of quotes stand as it
is (`Piece`).  Between single quotes a string is its own text.

In the long forms up to two quotes may stand before the three that close the string.  So the
readers look at a quote together with the two characters behind it, and what has to be known
of a text behind a quote is when it begins with two more.
-/

namespace Leasehold

namespace Toml

/-! ## Characters between double quotes -/

/-- What may be written for a character between double quotes, of any form. -/
inductive Stands : Char → List Char → Prop where
  | itself {c : Char} (plain : isPlain c = true) (quote : c ≠ '"') (backslash : c ≠ '\\') :
      Stands c [c]
  | letter {l c : Char} (named : charOfLetter? l = some c) : Stands c ['\\', l]
  | code {a b c d e : Char} (named : charOfHex? [a, b, c, d] = some e) :
      Stands e ['\\', 'u', a, b, c, d]

variable {c : Char} {u : List Char}

theorem Stands.opening (h : Stands c u) : ∃ d v, u = d :: v ∧ isPlain d = true ∧ d ≠ '"' := by
  cases h with
  | itself plain quote backslash => exact ⟨c, [], rfl, plain, quote⟩
  | letter named => exact ⟨'\\', _, rfl, rfl, by decide⟩
  | code named => exact ⟨'\\', _, rfl, rfl, by decide⟩

theorem Stands.basic? (h : Stands c u) (rest : List Char) :
    Toml.basic? (u ++ rest) = consRead (some c) (Toml.basic? rest) := by
  cases h with
  | itself plain quote backslash => simp [Toml.basic?, plain, backslash]
  | @letter l c named =>
    have hx : l ≠ 'x' := by rintro rfl; cases named
    have hu : l ≠ 'u' := by rintro rfl; cases named
    have hU : l ≠ 'U' := by rintro rfl; cases named
    simp [Toml.basic?, hx, hu, hU, named]
  | code named => simp [Toml.basic?, named]

theorem Stands.longBasic? (h : Stands c u) (n : Nat) (rest : List Char) :
    Toml.longBasic? (n + 1) (u ++ rest) = consRead (some c) (Toml.longBasic? n rest) := by
  cases h with
  | itself plain quote backslash =>
    have hr : c ≠ '\r' := by rintro rfl; cases plain
    simp [Toml.longBasic?, plain, quote, backslash, hr]
  | @letter l c named =>
    have hx : l ≠ 'x' := by rintro rfl; cases named
    have hu : l ≠ 'u' := by rintro rfl; cases named
    have hU : l ≠ 'U' := by rintro rfl; cases named
    simp [Toml.longBasic?, hx, hu, hU, named]
  | code named => simp [Toml.longBasic?, named]

/-! ## What is written for a character -/

/-- The last two hexadecimal digits of a code point. -/
def hexPair (n : Nat) : List Char := [(n / 16).digitChar.toUpper, (n % 16).digitChar.toUpper]

theorem codePoint_lt : ∀ n < 128, (codePoint n).toList = '\\' :: 'u' :: '0' :: '0' :: hexPair n ∧
    charOfHex? ('0' :: '0' :: hexPair n) = some (Char.ofNat n) := by
  decide +kernel

/-- All controls are below 128. -/
theorem stands_codePoint (control : isControl c = true) : Stands c (codePoint c.toNat).toList := by
  have hlt : c.toNat < 128 := by
    simp only [isControl, Bool.or_eq_true, Bool.and_eq_true, decide_eq_true_eq] at control
    omega
  obtain ⟨text, value⟩ := codePoint_lt c.toNat hlt
  rw [Char.ofNat_toNat] at value
  rw [text]
  exact .code value

theorem isPlain_of_not_control (control : isControl c = false) (lineBreak : c ≠ '\n') :
    isPlain c = true := by
  simp only [isControl, isPlain, Bool.or_eq_false_iff, Bool.and_eq_false_iff, Bool.or_eq_true,
    Bool.and_eq_true, decide_eq_true_eq, decide_eq_false_iff_not] at control ⊢
  grind

/-- What is written for a character after a run of quotes, and the run behind it. -/
inductive Piece (long : Bool) (run : Nat) : Char → List Char → Nat → Prop where
  | stands {c : Char} {u : List Char} (stands : Stands c u) : Piece long run c u 0
  | lineBreak (isLong : long = true) : Piece long run '\n' ['\n'] 0
  | quote (isLong : long = true) (few : run < 2) : Piece long run '"' ['"'] (run + 1)

theorem escaped_cons (long : Bool) (run : Nat) (c : Char) (cs : List Char) :
    ∃ s next, Piece long run c s.toList next ∧
      escaped long run (c :: cs) = s :: escaped long next cs := by
  generalize written : escaped long run (c :: cs) = l
  unfold escaped at written
  split at written <;> subst written
  · split <;> rename_i h
    · simp only [Bool.and_eq_true, decide_eq_true_eq] at h
      exact ⟨"\"", run + 1, .quote h.1 h.2, rfl⟩
    · exact ⟨"\\\"", 0, .stands (.letter rfl), rfl⟩
  · exact ⟨"\\b", 0, .stands (.letter rfl), rfl⟩
  · exact ⟨"\\t", 0, .stands (.letter rfl), rfl⟩
  · cases long with
    | true => exact ⟨"\n", 0, .lineBreak rfl, rfl⟩
    | false => exact ⟨"\\n", 0, .stands (.letter rfl), rfl⟩
  · exact ⟨"\\f", 0, .stands (.letter rfl), rfl⟩
  · exact ⟨"\\r", 0, .stands (.letter rfl), rfl⟩
  · exact ⟨"\\\\", 0, .stands (.letter rfl), rfl⟩
  · rename_i quote _ _ lineBreak _ _ backslash
    split <;> rename_i control
    · exact ⟨codePoint c.toNat, 0, .stands (stands_codePoint control), rfl⟩
    · have plain := isPlain_of_not_control (Bool.not_eq_true _ ▸ control) lineBreak
      exact ⟨c.toString, 0, .stands (by simpa using .itself plain quote backslash), rfl⟩

/-- The characters between double quotes, after a run of quotes. -/
def body (long : Bool) (run : Nat) (cs : List Char) : List Char :=
  (String.join (escaped long run cs)).toList

@[simp] theorem body_nil (long : Bool) (run : Nat) : body long run [] = [] := rfl

theorem body_cons (long : Bool) (run : Nat) (c : Char) (cs : List Char) :
    ∃ u next, Piece long run c u next ∧ body long run (c :: cs) = u ++ body long next cs := by
  obtain ⟨s, next, piece, h⟩ := escaped_cons long run c cs
  refine ⟨s.toList, next, piece, ?_⟩
  simp only [body, h, String.toList_join, List.flatMap_cons]

theorem length_le_body (long : Bool) (run : Nat) (cs : List Char) :
    cs.length ≤ (body long run cs).length := by
  induction cs generalizing run with
  | nil => exact Nat.zero_le _
  | cons c cs ih =>
    obtain ⟨u, next, piece, hbody⟩ := body_cons long run c cs
    have one : 1 ≤ u.length := by
      cases piece with
      | stands h =>
        obtain ⟨d, v, rfl, -⟩ := h.opening
        simp
      | lineBreak _ | quote _ _ => simp
    have more := ih next
    rw [hbody, List.length_append, List.length_cons]
    omega

/-! ## Strings between double quotes -/

theorem basic?_body (cs rest : List Char) (run : Nat) :
    Toml.basic? (body false run cs ++ '"' :: rest) = some (cs, rest) := by
  induction cs generalizing run with
  | nil => rfl
  | cons c cs ih =>
    obtain ⟨u, next, piece, hbody⟩ := body_cons false run c cs
    cases piece with
    | stands h =>
      rw [hbody, List.append_assoc, h.basic?, ih]
      rfl
    | lineBreak isLong | quote isLong few => cases isLong

/-- The three quotes that close a long string at the end of a line. -/
def closing (q : Char) (rest : List Char) : List Char := q :: q :: q :: '\n' :: rest

/-- Behind a run of two, and for another character than a quote, the text begins with no quote. -/
theorem head?_body {run : Nat} {c : Char} (cs rest : List Char) (h : run = 2 ∨ c ≠ '"') :
    (body true run (c :: cs) ++ rest).head? ≠ some '"' := by
  obtain ⟨u, next, piece, hbody⟩ := body_cons true run c cs
  rw [hbody]
  cases piece with
  | stands h =>
    obtain ⟨d, v, rfl, -, quote⟩ := h.opening
    simpa using quote
  | lineBreak _ => simp
  | quote _ few =>
    rcases h with rfl | h
    · omega
    · exact absurd rfl h

/-- Only at its end does a string have a quote before two more. -/
theorem quotes_of_body {run : Nat} {cs rest t : List Char} (few : run < 2)
    (h : body true (run + 1) cs ++ closing '"' rest = '"' :: '"' :: t) :
    cs = [] ∨ run = 0 ∧ cs = ['"'] := by
  cases cs with
  | nil => exact .inl rfl
  | cons c cs =>
    have hhead := congrArg List.head? h
    by_cases hc : run = 1 ∨ c ≠ '"'
    · exact absurd hhead (head?_body cs _ (hc.imp_left (congrArg (· + 1))))
    · -- A second quote as it is makes a run of two, behind which there is no third.
      obtain ⟨hrun, rfl⟩ : run = 0 ∧ c = '"' := by grind
      subst hrun
      have hbody : body true 1 ('"' :: cs) = '"' :: body true 2 cs := by
        simp [body, escaped, String.toList_join]
      rw [hbody, List.cons_append, List.cons.injEq] at h
      cases cs with
      | nil => exact .inr ⟨rfl, rfl⟩
      | cons d ds => exact absurd (congrArg List.head? h.2) (head?_body ds _ (.inl rfl))

theorem longBasic?_quote {n : Nat} {text : List Char} (h : ∀ t, text ≠ '"' :: '"' :: t) :
    Toml.longBasic? (n + 1) ('"' :: text) = consRead (some '"') (Toml.longBasic? n text) := by
  simp [Toml.longBasic?, isPlain, h]

theorem longBasic?_body {n run : Nat} {cs rest : List Char} (enough : cs.length < n) :
    Toml.longBasic? n (body true run cs ++ closing '"' rest) = some (cs, '\n' :: rest) := by
  induction cs generalizing n run with
  | nil =>
    obtain ⟨m, rfl⟩ : ∃ m, n = m + 1 := ⟨n - 1, by simp at enough; omega⟩
    simp [closing, Toml.longBasic?]
  | cons c cs ih =>
    obtain ⟨m, rfl⟩ : ∃ m, n = m + 1 := ⟨n - 1, by simp at enough; omega⟩
    obtain ⟨u, next, piece, hbody⟩ := body_cons true run c cs
    have more := @ih m next (by simp at enough; omega)
    rw [hbody, List.append_assoc]
    cases piece with
    | stands h =>
      rw [h.longBasic?, more]
      rfl
    | lineBreak _ =>
      simp [Toml.longBasic?, isPlain, more, consRead]
    | quote _ few =>
      -- A quote before two more is read together with the three that close the string.
      by_cases hquotes : ∃ t, body true (run + 1) cs ++ closing '"' rest = '"' :: '"' :: t
      · obtain ⟨t, ht⟩ := hquotes
        rcases quotes_of_body few ht with rfl | ⟨rfl, rfl⟩
        · simp [closing, Toml.longBasic?]
        · have hone : body true 1 ['"'] = ['"'] := rfl
          simp [hone, closing, Toml.longBasic?]
      · rw [List.singleton_append, longBasic?_quote fun t ht => hquotes ⟨t, ht⟩, more]
        rfl

/-! ## Strings between single quotes -/

theorem literal?_self {cs : List Char} (rest : List Char)
    (plain : ∀ c ∈ cs, isPlain c = true) (quote : '\'' ∉ cs) :
    Toml.literal? (cs ++ '\'' :: rest) = some (cs, rest) := by
  induction cs with
  | nil => rfl
  | cons c cs ih =>
    rw [List.forall_mem_cons] at plain
    rw [List.mem_cons, not_or] at quote
    simp [Toml.literal?, plain.1, Ne.symm quote.1, ih plain.2 quote.2, consRead]

theorem longestRun_cons_self (q : Char) (run : Nat) (cs : List Char) :
    longestRun q run (q :: cs) = max (run + 1) (longestRun q (run + 1) cs) := if_pos rfl

theorem longestRun_cons_of_ne {q c : Char} (run : Nat) (cs : List Char) (h : c ≠ q) :
    longestRun q run (c :: cs) = longestRun q 0 cs := if_neg h

theorem longestRun_eq_zero_iff {q : Char} {run : Nat} {cs : List Char} :
    longestRun q run cs = 0 ↔ q ∉ cs := by
  induction cs generalizing run with
  | nil => simp [longestRun]
  | cons c cs ih =>
    by_cases h : c = q
    · subst h
      simp [longestRun_cons_self]
    · simp [longestRun_cons_of_ne run cs h, ih, Ne.symm h]

theorem longLiteral?_quote {text : List Char} (h : ∀ t, text ≠ '\'' :: '\'' :: t) :
    Toml.longLiteral? ('\'' :: text) = consRead (some '\'') (Toml.longLiteral? text) := by
  simp [Toml.longLiteral?, isPlain, h]

/-- Only at its end does a string have a quote before two more. -/
theorem quotes_of_literal {run : Nat} {cs rest t : List Char}
    (few : longestRun '\'' (run + 1) cs ≤ 2)
    (h : cs ++ closing '\'' rest = '\'' :: '\'' :: t) : cs = [] ∨ cs = ['\''] := by
  match cs with
  | [] => exact .inl rfl
  | [c] =>
    rw [List.cons_append, List.cons.injEq] at h
    exact .inr (h.1 ▸ rfl)
  | c :: d :: ds =>
    simp only [List.cons_append, List.cons.injEq] at h
    obtain ⟨rfl, rfl, -⟩ := h
    simp only [longestRun_cons_self] at few
    omega

theorem longLiteral?_self {run : Nat} {cs : List Char} (rest : List Char)
    (plain : ∀ c ∈ cs, isPlain c = true ∨ c = '\n') (few : longestRun '\'' run cs ≤ 2) :
    Toml.longLiteral? (cs ++ closing '\'' rest) = some (cs, '\n' :: rest) := by
  induction cs generalizing run with
  | nil => simp [closing, Toml.longLiteral?]
  | cons c cs ih =>
    rw [List.forall_mem_cons] at plain
    by_cases hc : c = '\''
    · subst hc
      rw [longestRun_cons_self, Nat.max_le] at few
      have more := ih plain.2 few.2
      by_cases hquotes : ∃ t, cs ++ closing '\'' rest = '\'' :: '\'' :: t
      · obtain ⟨t, ht⟩ := hquotes
        rcases quotes_of_literal few.2 ht with rfl | rfl <;> simp [closing, Toml.longLiteral?]
      · rw [List.cons_append, longLiteral?_quote fun t ht => hquotes ⟨t, ht⟩, more]
        rfl
    · have hr : c ≠ '\r' := by
        rintro rfl
        exact absurd plain.1 (by decide)
      rw [longestRun_cons_of_ne run cs hc] at few
      simp [Toml.longLiteral?, hc, hr, plain.1, ih plain.2 few, consRead]

/-! ## Written strings -/

/-- A long string keeps what stands behind its quotes, unless that is a line break. -/
theorem dropBreak_of_plain {text : List Char} (h : ∀ c ∈ text.head?, isPlain c = true) :
    dropBreak text = text := by
  match text with
  | [] => rfl
  | c :: cs =>
    have hn : c ≠ '\n' := by rintro rfl; exact absurd (h _ rfl) (by decide)
    have hr : c ≠ '\r' := by rintro rfl; exact absurd (h _ rfl) (by decide)
    simp [dropBreak, lineBreak?, hn, hr]

/-- The break that opens a string with line breaks is dropped. -/
theorem dropBreak_opening {cs text : List Char}
    (h : '\n' ∉ cs → ∀ c ∈ text.head?, isPlain c = true) :
    dropBreak ((if cs.contains '\n' then "\n" else "").toList ++ text) = text := by
  by_cases hn : '\n' ∈ cs
  · simp [hn, dropBreak, lineBreak?]
  · simpa [hn] using dropBreak_of_plain (h hn)

theorem string?_basic (cs rest : List Char) :
    string? ((StringForm.basic.write cs).toList ++ '\n' :: rest) = some (cs, '\n' :: rest) := by
  have more := basic?_body cs ('\n' :: rest) 0
  have written : (StringForm.basic.write cs).toList ++ '\n' :: rest =
      '"' :: (body false 0 cs ++ '"' :: '\n' :: rest) := by
    simp [StringForm.write, body]
  have one : ∀ t, body false 0 cs ++ '"' :: '\n' :: rest ≠ '"' :: '"' :: t := by
    intro t ht
    cases cs with
    | nil => simp at ht
    | cons c cs =>
      obtain ⟨u, next, piece, hbody⟩ := body_cons false 0 c cs
      cases piece with
      | stands h =>
        obtain ⟨d, v, rfl, -, quote⟩ := h.opening
        rw [hbody] at ht
        exact quote (List.cons.inj ht).1
      | lineBreak isLong | quote isLong few => cases isLong
  rw [written, string?, more]
  exact one

theorem string?_literal {cs : List Char} (rest : List Char) (plain : ∀ c ∈ cs, isPlain c = true)
    (quote : '\'' ∉ cs) :
    string? ((StringForm.literal.write cs).toList ++ '\n' :: rest) = some (cs, '\n' :: rest) := by
  have written : (StringForm.literal.write cs).toList ++ '\n' :: rest =
      '\'' :: (cs ++ '\'' :: '\n' :: rest) := by
    simp [StringForm.write]
  rw [written, string?, literal?_self _ plain quote]
  intro t ht
  cases cs with
  | nil => simp at ht
  | cons c cs => exact quote ((List.cons.inj ht).1 ▸ List.mem_cons_self)

theorem string?_longBasic (cs rest : List Char) :
    string? ((StringForm.longBasic.write cs).toList ++ '\n' :: rest) =
      some (cs, '\n' :: rest) := by
  have written : (StringForm.longBasic.write cs).toList ++ '\n' :: rest =
      '"' :: '"' :: '"' :: ((if cs.contains '\n' then "\n" else "").toList ++
        (body true 0 cs ++ closing '"' rest)) := by
    simp [StringForm.write, body, closing]
  have opening : '\n' ∉ cs → ∀ c ∈ (body true 0 cs ++ closing '"' rest).head?,
      isPlain c = true := by
    intro hn
    cases cs with
    | nil => simp [closing, isPlain]
    | cons c cs =>
      obtain ⟨u, next, piece, hbody⟩ := body_cons true 0 c cs
      rw [hbody]
      cases piece with
      | stands h =>
        obtain ⟨d, v, rfl, plain, -⟩ := h.opening
        simpa using plain
      | lineBreak _ => exact absurd List.mem_cons_self hn
      | quote _ _ => simp [isPlain]
  have enough : cs.length < (body true 0 cs ++ closing '"' rest).length + 1 := by
    have := length_le_body true 0 cs
    rw [List.length_append]
    omega
  rw [written, string?, dropBreak_opening opening]
  exact longBasic?_body enough

theorem string?_longLiteral {cs : List Char} (rest : List Char)
    (plain : ∀ c ∈ cs, isPlain c = true ∨ c = '\n') (few : longestRun '\'' 0 cs ≤ 2) :
    string? ((StringForm.longLiteral.write cs).toList ++ '\n' :: rest) =
      some (cs, '\n' :: rest) := by
  have written : (StringForm.longLiteral.write cs).toList ++ '\n' :: rest =
      '\'' :: '\'' :: '\'' :: ((if cs.contains '\n' then "\n" else "").toList ++
        (cs ++ closing '\'' rest)) := by
    simp [StringForm.write, closing]
  have opening : '\n' ∉ cs → ∀ c ∈ (cs ++ closing '\'' rest).head?, isPlain c = true := by
    intro hn
    cases cs with
    | nil => simp [closing, isPlain]
    | cons c cs =>
      rintro _ ⟨⟩
      exact (plain c List.mem_cons_self).resolve_right fun h => hn (h ▸ List.mem_cons_self)
  rw [written, string?, dropBreak_opening opening, longLiteral?_self rest plain few]

theorem StringTraits.of_form_literal {t : StringTraits} (h : t.form = .literal) :
    t.control = false ∧ t.singleQuotes = 0 ∧ t.lineBreak = false := by
  grind [StringTraits.form]

theorem StringTraits.of_form_longLiteral {t : StringTraits} (h : t.form = .longLiteral) :
    t.control = false ∧ t.singleQuotes ≤ 2 := by
  grind [StringTraits.form]

theorem plain_of_traits {cs : List Char} (control : (StringTraits.of cs).control = false) :
    ∀ c ∈ cs, isPlain c = true ∨ c = '\n' := by
  intro c hc
  by_cases lineBreak : c = '\n'
  · exact .inr lineBreak
  · refine .inl (isPlain_of_not_control ?_ lineBreak)
    exact Bool.eq_false_iff.mpr (List.any_eq_false.mp control c hc)

/-- A string at the end of a line is read back from its plainest form. -/
theorem string?_writeString (s : String) (rest : List Char) :
    string? ((writeString s).toList ++ '\n' :: rest) = some (s.toList, '\n' :: rest) := by
  rw [show writeString s = (StringTraits.of s.toList).form.write s.toList from rfl]
  cases hform : (StringTraits.of s.toList).form with
  | basic => exact string?_basic s.toList rest
  | literal =>
    obtain ⟨control, quotes, lineBreak⟩ := StringTraits.of_form_literal hform
    have noBreak : '\n' ∉ s.toList := by simpa [StringTraits.of] using lineBreak
    refine string?_literal rest (fun c hc => ?_) (longestRun_eq_zero_iff.mp quotes)
    exact (plain_of_traits control c hc).resolve_right fun h => noBreak (h ▸ hc)
  | longBasic => exact string?_longBasic s.toList rest
  | longLiteral =>
    obtain ⟨control, quotes⟩ := StringTraits.of_form_longLiteral hform
    exact string?_longLiteral rest (plain_of_traits control) quotes

end Toml

end Leasehold
