import Leasehold.Proofs.Toml.Scalars
import Leasehold.Toml.Document

/-!
# Documents are read back

A document that is one header with entries of different names is read as the one table of that
name with these entries, in their order (`document?_section`).  It is read in three steps: each
line is one statement, the lines are all statements, and carried out one after another the
statements fill the section of the header.
-/

namespace Leasehold

namespace Toml

/-! ## Keys without quotes -/

/-- A name that is a key without quotes. -/
structure IsBare (name : String) : Prop where
  nonempty : name.toList ≠ []
  chars : ∀ c ∈ name.toList, isKeyChar c = true

variable {name : String}

theorem isBare_iff : (!name.toList.isEmpty && name.toList.all isKeyChar) = true ↔ IsBare name := by
  simp only [Bool.and_eq_true, Bool.not_eq_true', List.isEmpty_eq_false_iff, List.all_eq_true]
  exact ⟨fun h => ⟨h.1, h.2⟩, fun h => ⟨h.nonempty, h.chars⟩⟩

instance (name : String) : Decidable (IsBare name) := decidable_of_iff _ isBare_iff

/-- No name begins like a blank, a quoted key or a header, and none like a comment. -/
theorem IsBare.opening (h : IsBare name) : ∃ c cs, name.toList = c :: cs ∧
    c ∉ [' ', '\t', '\n', '\r', '#', '[', '"', '\''] := by
  match hname : name.toList, h.nonempty with
  | c :: cs, _ =>
    have hc := h.chars c (hname ▸ List.mem_cons_self)
    refine ⟨c, cs, rfl, fun mem => ?_⟩
    simp only [List.mem_cons, List.not_mem_nil, or_false] at mem
    rcases mem with rfl | rfl | rfl | rfl | rfl | rfl | rfl | rfl <;> cases hc

theorem skipBlanks_of_head {c : Char} {cs : List Char} (h : c ≠ ' ' ∧ c ≠ '\t') :
    skipBlanks (c :: cs) = c :: cs := by
  simp [skipBlanks, h]

theorem IsBare.skipBlanks (h : IsBare name) (rest : List Char) :
    Toml.skipBlanks (name.toList ++ rest) = name.toList ++ rest := by
  obtain ⟨c, cs, hname, other⟩ := h.opening
  simp only [List.mem_cons, not_or] at other
  rw [hname]
  exact skipBlanks_of_head ⟨other.1, other.2.1⟩

theorem keyPart?_bare (h : IsBare name) {d : Char} {rest : List Char}
    (stop : isKeyChar d = false) :
    keyPart? (name.toList ++ d :: rest) = some (name, d :: rest) := by
  obtain ⟨c, cs, hname, other⟩ := h.opening
  have taken : (name.toList ++ d :: rest).takeWhile isKeyChar = name.toList := by
    rw [List.takeWhile_append_of_pos h.chars]
    simp [stop]
  have left : (name.toList ++ d :: rest).dropWhile isKeyChar = d :: rest := by
    rw [List.dropWhile_append_of_pos h.chars]
    simp [stop]
  rw [keyPart?]
  · simp [taken, left, h.nonempty]
  all_goals
    intro t ht
    rw [hname] at ht
    cases ht
    simp at other

theorem key?_bare (h : IsBare name) (n : Nat) {d e : Char} {rest rest' : List Char}
    (stop : isKeyChar d = false) (next : Toml.skipBlanks (d :: rest) = e :: rest')
    (last : e ≠ '.') : key? (n + 1) (name.toList ++ d :: rest) = some (⟨[], name⟩, e :: rest') := by
  simp [key?, h.skipBlanks, keyPart?_bare h stop, next, last]

/-! ## Lines -/

@[simp] theorem endLine?_break (rest : List Char) : endLine? ('\n' :: rest) = some rest := rfl

/-- The line of a header. -/
def headerLine (name : String) : String := "[" ++ name ++ "]\n"

theorem header?_bare (h : IsBare name) (rest : List Char) :
    header? false (name.toList ++ ']' :: '\n' :: rest) =
      some (.header false ⟨[], name⟩, rest) := by
  have key : key? deepest (name.toList ++ ']' :: '\n' :: rest) =
      some (⟨[], name⟩, ']' :: '\n' :: rest) :=
    key?_bare h 79 rfl (skipBlanks_of_head (by decide)) (by decide)
  simp [header?, key]

theorem statement?_header (h : IsBare name) (rest : List Char) :
    statement? ((headerLine name).toList ++ rest) =
      some (some (.header false ⟨[], name⟩), rest) := by
  have header := header?_bare h rest
  have line : (headerLine name).toList ++ rest = '[' :: (name.toList ++ ']' :: '\n' :: rest) := by
    simp [headerLine]
  obtain ⟨c, cs, hname, other⟩ := h.opening
  simp only [List.mem_cons, not_or] at other
  rw [hname, List.cons_append] at header line
  rw [line, statement?, skipBlanks_of_head (by decide)]
  simp [other, header]

/-- An entry of a section: its name, the text of its value, and the value. -/
structure Entry where
  name : String
  text : String
  value : Toml

namespace Entry

/-- The line of an entry. -/
def line (e : Entry) : String := writeEntry e.name e.text

/-- The name is a key, and the text is that of the value. -/
structure Fits (e : Entry) : Prop where
  bare : IsBare e.name
  written : Written e.text e.value

/-- What the line of an entry says. -/
def statement (e : Entry) : Statement := .entry ⟨[], e.name⟩ e.value

variable {e : Entry}

theorem Fits.value? (h : e.Fits) (n : Nat) (rest : List Char) :
    Toml.value? (n + 1) (Toml.skipBlanks (' ' :: (e.text.toList ++ '\n' :: rest))) =
      some (e.value, '\n' :: rest) := by
  have read := h.written.read rest
  obtain ⟨c, cs, htext, other⟩ := h.written.opening
  simp only [List.mem_cons, not_or] at other
  rw [htext, List.cons_append] at read ⊢
  have skip : Toml.skipBlanks (' ' :: c :: (cs ++ '\n' :: rest)) = c :: (cs ++ '\n' :: rest) := by
    simp [Toml.skipBlanks, other]
  rw [skip]
  simp [Toml.value?, other, read]

theorem Fits.entry? (h : e.Fits) (rest : List Char) :
    Toml.entry? (Toml.value? deepest)
        (e.name.toList ++ ' ' :: '=' :: ' ' :: (e.text.toList ++ '\n' :: rest)) =
      some ((⟨[], e.name⟩, e.value), '\n' :: rest) := by
  have key : key? deepest (e.name.toList ++ ' ' :: '=' :: ' ' :: (e.text.toList ++ '\n' :: rest)) =
      some (⟨[], e.name⟩, '=' :: ' ' :: (e.text.toList ++ '\n' :: rest)) :=
    key?_bare h.bare 79 rfl rfl (by decide)
  have value := h.value? 79 rest
  simp only [Toml.entry?, key, Option.bind_eq_bind, Option.bind_some]
  rw [show deepest = 79 + 1 from rfl, value]
  rfl

theorem Fits.statement? (h : e.Fits) (rest : List Char) :
    Toml.statement? (e.line.toList ++ rest) = some (some e.statement, rest) := by
  have entry := h.entry? rest
  have skip := h.bare.skipBlanks (' ' :: '=' :: ' ' :: (e.text.toList ++ '\n' :: rest))
  have line : e.line.toList ++ rest =
      e.name.toList ++ ' ' :: '=' :: ' ' :: (e.text.toList ++ '\n' :: rest) := by
    simp [Entry.line, writeEntry]
  obtain ⟨c, cs, hname, other⟩ := h.bare.opening
  simp only [List.mem_cons, not_or] at other
  rw [hname, List.cons_append] at entry line skip
  rw [line, Toml.statement?, skip]
  simp [other, entry, Entry.statement]

theorem length_line_pos (e : Entry) : 0 < e.line.toList.length := by
  have sign : " = ".toList.length = 3 := rfl
  simp only [Entry.line, writeEntry, String.toList_append, List.length_append, sign]
  omega

end Entry

/-! ## All lines -/

/-- A section with its header and a line for each entry. -/
def sectionText (name : String) (l : List Entry) : String :=
  headerLine name ++ String.join (l.map Entry.line)

theorem statements?_line {cs rest : List Char} {s : Option Statement} {n : Nat}
    (h : statement? cs = some (s, rest)) (nonempty : cs ≠ []) :
    statements? (n + 1) cs = (statements? n rest).map (s.toList ++ ·) := by
  cases cs with
  | nil => exact absurd rfl nonempty
  | cons c cs => simp [statements?, h]

theorem statements?_entries {l : List Entry} {n : Nat} (fits : ∀ e ∈ l, e.Fits)
    (enough : (l.flatMap fun e => e.line.toList).length ≤ n) :
    statements? n (l.flatMap fun e => e.line.toList) = some (l.map Entry.statement) := by
  induction l generalizing n with
  | nil => cases n <;> rfl
  | cons e l ih =>
    rw [List.forall_mem_cons] at fits
    rw [List.flatMap_cons, List.length_append] at enough
    have one := e.length_line_pos
    obtain ⟨m, rfl⟩ : ∃ m, n = m + 1 := ⟨n - 1, by omega⟩
    have nonempty : e.line.toList ++ l.flatMap (fun e => e.line.toList) ≠ [] :=
      List.append_ne_nil_of_left_ne_nil (List.length_pos_iff.mp one) _
    rw [List.flatMap_cons, statements?_line (fits.1.statement? _) nonempty, ih fits.2 (by omega)]
    rfl

/-! ## The section of a header -/

theorem Members.get?_eq_none_iff {α : Type} {ms : Members α} :
    ms.get? name = none ↔ name ∉ ms.map (·.1) := by
  simp [Members.get?]
  grind

/-- A document with one section, which holds some entries. -/
def Section.filled (name : String) (l : List Entry) : Section :=
  ⟨.header, [(name, .table .header (l.map fun e => (e.name, .value e.value)))]⟩

theorem Section.carryOut_entry {l : List Entry} {e : Entry} (new : e.name ∉ l.map Entry.name) :
    Section.carryOut (.filled name l, [name]) e.statement =
      some (.filled name (l ++ [e]), [name]) := by
  have free : Members.get? e.name (l.map fun e => (e.name, Item.value e.value)) = none :=
    Members.get?_eq_none_iff.mpr (by simpa using new)
  have put : Section.insert [] e.name e.value ⟨.header, l.map fun e => (e.name, .value e.value)⟩ =
      some ⟨.header, (l ++ [e]).map fun e => (e.name, .value e.value)⟩ := by
    simp only [Section.insert, Section.edit, Section.insertHere, free]
    simp
  have edited : Section.edit false (Section.insert [] e.name e.value) [name] (.filled name l) =
      some (.filled name (l ++ [e])) := by
    have there (i : Item) : Members.get? name [(name, i)] = some i := by simp [Members.get?]
    simp only [Section.filled, Section.edit, there, put]
    simp [Members.put]
  simp [Section.carryOut, Entry.statement, edited]

theorem Section.foldlM_entries {l done : List Entry}
    (distinct : ((done ++ l).map Entry.name).Nodup) :
    (l.map Entry.statement).foldlM Section.carryOut (Section.filled name done, [name]) =
      some (.filled name (done ++ l), [name]) := by
  induction l generalizing done with
  | nil => simp
  | cons e l ih =>
    have split : done ++ e :: l = done ++ [e] ++ l := by simp
    have new : e.name ∉ done.map Entry.name := by
      rw [List.map_append, List.nodup_append] at distinct
      exact fun mem => distinct.2.2 _ mem _ List.mem_cons_self rfl
    rw [split] at distinct
    rw [List.map_cons, List.foldlM_cons, Section.carryOut_entry new, Option.bind_eq_bind,
      Option.bind_some, ih distinct, split]

theorem Section.ofStatements?_section {l : List Entry} (distinct : (l.map Entry.name).Nodup) :
    Section.ofStatements? (.header false ⟨[], name⟩ :: l.map Entry.statement) =
      some (.filled name l) := by
  have opened : Section.carryOut (Section.empty, []) (.header false ⟨[], name⟩) =
      some (.filled name [], [name]) := rfl
  have filled := @Section.foldlM_entries name l [] distinct
  rw [Section.ofStatements?, List.foldlM_cons, opened, Option.bind_eq_bind, Option.bind_some,
    filled]
  rfl

theorem Section.finish_filled (l : List Entry) :
    (Section.filled name l).finish = [(name, .table (l.map fun e => (e.name, e.value)))] := by
  have members : Item.finishMembers (l.map fun e => (e.name, Item.value e.value)) =
      l.map fun e => (e.name, e.value) := by
    induction l with
    | nil => rfl
    | cons e l ih => simp [Item.finishMembers, Item.finish, ih]
  simp [Section.finish, Section.filled, Item.finishMembers, Item.finish, members]

theorem toList_sectionText (name : String) (l : List Entry) :
    (sectionText name l).toList = (headerLine name).toList ++ l.flatMap fun e => e.line.toList := by
  simp [sectionText, String.toList_join, List.flatMap_map]

theorem dropByteOrderMark_sectionText (name : String) (l : List Entry) :
    dropByteOrderMark (sectionText name l).toList = (sectionText name l).toList := by
  simp [toList_sectionText, headerLine, dropByteOrderMark]

theorem document?_section {l : List Entry} (bare : IsBare name) (fits : ∀ e ∈ l, e.Fits)
    (distinct : (l.map Entry.name).Nodup) :
    document? (sectionText name l) = some [(name, .table (l.map fun e => (e.name, e.value)))] := by
  have text := toList_sectionText name l
  have header : statement? (sectionText name l).toList =
      some (some (.header false ⟨[], name⟩), l.flatMap fun e => e.line.toList) :=
    text ▸ statement?_header bare _
  have read : statements? (sectionText name l).toList.length (sectionText name l).toList =
      some (.header false ⟨[], name⟩ :: l.map Entry.statement) := by
    have size : (sectionText name l).toList.length =
        name.toList.length + 2 + (l.flatMap fun e => e.line.toList).length + 1 := by
      simp [text, headerLine]
      omega
    have nonempty : (sectionText name l).toList ≠ [] := by
      rw [← List.length_pos_iff]
      omega
    rw [size, statements?_line header nonempty, statements?_entries fits (by omega)]
    rfl
  simp only [document?, dropByteOrderMark_sectionText, read, Option.bind_eq_bind, Option.bind_some,
    Section.ofStatements?_section distinct, Option.map_some, Section.finish_filled]

end Toml

end Leasehold
