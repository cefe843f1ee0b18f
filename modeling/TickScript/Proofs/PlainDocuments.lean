import TickScript.Toml.Reader

/-! Plain documents: sections with blank lines between them and an entry on each line, with bare
names, integers, truth values and texts without escapes. They are read as they are written. -/
namespace TickScript.Toml

abbrev Section := String × List (String × Toml)

def spell : Toml → List Char
  | .int n => (toString n).toList
  | .bool b => (toString b).toList
  | .str s => '"' :: (s.toList ++ ['"'])
  | _ => []

def entryLine (entry : String × Toml) : List Char :=
  entry.1.toList ++ ' ' :: '=' :: ' ' :: (spell entry.2 ++ ['\n'])

def sectionLines (part : Section) : List Char :=
  '[' :: (part.1.toList ++ ']' :: '\n' :: part.2.flatMap entryLine)

/-- The text of a document, with a blank line before every section but the first. -/
def documentText : List Section → List Char
  | [] => []
  | first :: rest => sectionLines first ++ rest.flatMap fun part => '\n' :: sectionLines part

def Spelled : Toml → Prop
  | .int n => Literal.isInt64 n = true
  | .bool _ => True
  | .str s => ∀ c ∈ s.toList, isPlain c = true ∧ c ≠ '"' ∧ c ≠ '\\'
  | _ => False

def IsBare (name : List Char) : Prop := name ≠ [] ∧ ∀ c ∈ name, isKeyChar c = true

structure Section.Plain (part : Section) : Prop where
  named : IsBare part.1.toList
  entries : ∀ entry ∈ part.2, IsBare entry.1.toList ∧ Spelled entry.2
  distinct : (part.2.map Prod.fst).Nodup

structure PlainDocument (document : List Section) : Prop where
  sections : ∀ part ∈ document, part.Plain
  distinct : (document.map Prod.fst).Nodup

/-! ### Keys -/

theorem skipBlanks_cons {c : Char} (visible : isBlank c = false) (rest : List Char) :
    skipBlanks (c :: rest) = c :: rest := by
  simp only [skipBlanks, List.dropWhile_cons, visible, Bool.false_eq_true, if_false]

/-- A character of a class is none of those outside of it. -/
theorem not_mem_of_class {p : Char → Bool} {c : Char} (inside : p c = true) {others : List Char}
    (outside : others.all (fun other => !p other) = true) : c ∉ others := by
  intro among
  have fails := List.all_eq_true.mp outside c among
  rw [inside] at fails
  contradiction

theorem isBlank_eq_false {c : Char} (other : c ∉ [' ', '\t']) : isBlank c = false := by
  simpa [isBlank] using other

theorem keyPart?_bare {name : List Char} (bare : IsBare name) {c : Char}
    (ends : isKeyChar c = false) (rest : List Char) :
    keyPart? (name ++ c :: rest) = some (String.ofList name, c :: rest) := by
  obtain ⟨filled, letters⟩ := bare
  have front : (name ++ c :: rest).takeWhile isKeyChar = name := by
    rw [List.takeWhile_append_of_pos letters, List.takeWhile_cons, ends]
    exact List.append_nil _
  have unquoted {quote : Char} (other : isKeyChar quote = false) (text : List Char) :
      name ++ c :: rest ≠ quote :: text := by
    intro same
    cases name with
    | nil => exact filled rfl
    | cons d name =>
      obtain ⟨rfl, _⟩ := List.cons.inj same
      exact Bool.false_ne_true (other.symm.trans (letters _ List.mem_cons_self))
  unfold keyPart?
  split
  case h_1 same => exact absurd same (unquoted (by decide) _)
  case h_2 same => exact absurd same (unquoted (by decide) _)
  case h_3 =>
    have some_letter : name.isEmpty = false := List.isEmpty_eq_false_iff.mpr filled
    simp only [front, some_letter, List.drop_left, Bool.false_eq_true, if_false]

/-- A bare key, then something other than a dot after blanks. -/
theorem keyPath?_bare {name : List Char} (bare : IsBare name) {c : Char}
    (ends : isKeyChar c = false) (rest : List Char)
    (undotted : ∀ others, skipBlanks (c :: rest) ≠ '.' :: others) :
    keyPath? (name ++ c :: rest) = some ([String.ofList name], skipBlanks (c :: rest)) := by
  have visible : skipBlanks (name ++ c :: rest) = name ++ c :: rest := by
    obtain ⟨filled, letters⟩ := bare
    cases name with
    | nil => exact absurd rfl filled
    | cons d name =>
      have letter := letters d List.mem_cons_self
      exact skipBlanks_cons (isBlank_eq_false (not_mem_of_class letter (by decide))) _
  have read : key? ((name ++ c :: rest).length + 1) (name ++ c :: rest) =
      some ([String.ofList name], skipBlanks (c :: rest)) := by
    rw [key?, visible, keyPart?_bare bare ends]
    simp only [Option.bind_eq_bind, Option.bind_some]
  have single : [String.ofList name].length < maxParts := by
    rw [List.length_singleton]
    decide
  rw [keyPath?, read, Option.bind_eq_bind, Option.bind_some]
  exact if_pos single

/-! ### Values -/

theorem scalar?_flag (b : Bool) (rest : List Char) :
    scalar? ((toString b).toList ++ rest) = some (.bool b, rest) := by
  cases b <;> rfl

theorem basic?_plain {text : List Char}
    (plain : ∀ c ∈ text, isPlain c = true ∧ c ≠ '"' ∧ c ≠ '\\') (rest acc : List Char)
    (more : Nat) :
    basic? (text.length + (more + 1)) acc (text ++ '"' :: rest) =
      some (String.ofList (acc.reverse ++ text), rest) := by
  induction text generalizing acc with
  | nil =>
    rw [List.length_nil, Nat.zero_add, List.nil_append, basic?, if_pos rfl, List.append_nil]
  | cons c text ih =>
    obtain ⟨⟨visible, unquoted, unescaped⟩, plain⟩ := List.forall_mem_cons.mp plain
    rw [List.length_cons, Nat.add_right_comm, List.cons_append, basic?, if_neg unquoted,
      if_neg unescaped, if_pos visible, ih plain, List.reverse_cons, List.append_assoc]
    rfl

/-- Text after a single quote mark. Three of them would open a text of several lines. -/
theorem string?_single {body : List Char} (single : ∀ others, body ≠ '"' :: '"' :: others) :
    string? ('"' :: body) = basic? (body.length + 1) [] body := by
  unfold string?
  split
  case h_1 same => exact absurd (List.cons.inj same).2 (single _)
  case h_2 same => cases (List.cons.inj same).1
  case h_3 same =>
    cases same
    rfl
  case h_4 same => cases (List.cons.inj same).1
  case h_5 _ _ other _ => exact absurd rfl (other body)

theorem scalar?_text {s : String} (plain : ∀ c ∈ s.toList, isPlain c = true ∧ c ≠ '"' ∧ c ≠ '\\')
    (rest : List Char) :
    scalar? ('"' :: (s.toList ++ '"' :: '\n' :: rest)) = some (.str s, '\n' :: rest) := by
  have single : ∀ others, s.toList ++ '"' :: '\n' :: rest ≠ '"' :: '"' :: others := by
    intro others same
    cases chars : s.toList with
    | nil =>
      rw [chars] at same
      cases same
    | cons c text =>
      rw [chars] at same plain
      exact (plain c List.mem_cons_self).2.1 (List.cons.inj same).1
  have read : string? ('"' :: (s.toList ++ '"' :: '\n' :: rest)) = some (s, '\n' :: rest) := by
    rw [string?_single single, List.length_append, Nat.add_assoc, List.length_cons,
      basic?_plain plain]
    simp
  simp only [scalar?, read]
  rfl

theorem grouped?_cons {c : Char} (digit : c.isDigit = true) {text : List Char}
    (single : ∀ after, text ≠ '_' :: after) :
    grouped? Char.isDigit (c :: text) =
      match grouped? Char.isDigit text with
      | some (digits, rest) => some (c :: digits, rest)
      | none => some ([c], text) :=
  (grouped?.eq_3 Char.isDigit c text single).trans (if_pos digit)

/-- Digits up to the end of the line. -/
theorem grouped?_digits {digits : List Char} (filled : digits ≠ [])
    (all : ∀ c ∈ digits, c.isDigit = true) (rest : List Char) :
    grouped? Char.isDigit (digits ++ '\n' :: rest) = some (digits, '\n' :: rest) := by
  induction digits with
  | nil => exact absurd rfl filled
  | cons c digits ih =>
    obtain ⟨digit, all⟩ := List.forall_mem_cons.mp all
    cases digits with
    | nil =>
      have ends : grouped? Char.isDigit ('\n' :: rest) = none := by
        unfold grouped?
        exact if_neg (by decide)
      rw [List.cons_append, List.nil_append, grouped?_cons digit (by simp), ends]
    | cons d digits =>
      have single : ∀ after, d :: digits ++ '\n' :: rest ≠ '_' :: after := by
        intro after same
        cases (List.cons.inj same).1
        exact absurd (all _ List.mem_cons_self) (by decide)
      rw [List.cons_append, grouped?_cons digit single, ih (List.cons_ne_nil _ _) all]

/-- What follows some of the digits of a line is a digit or the end of the line. -/
theorem digits?_after {digits rest after : List Char} {count value : Nat}
    (all : ∀ c ∈ digits, c.isDigit = true)
    (read : digits? count (digits ++ '\n' :: rest) = some (value, after)) :
    ∃ c others, after = c :: others ∧ (c.isDigit = true ∨ c = '\n') := by
  unfold digits? at read
  dsimp only at read
  split at read
  case isFalse => contradiction
  case isTrue both =>
    cases read
    have front := List.all_eq_true.mp (Bool.and_eq_true_iff.mp both).2
    clear both
    induction count generalizing digits with
    | zero =>
      cases digits with
      | nil => exact ⟨'\n', rest, rfl, .inr rfl⟩
      | cons c digits => exact ⟨c, _, rfl, .inl (all c List.mem_cons_self)⟩
    | succ count ih =>
      cases digits with
      | nil => exact absurd (front '\n' List.mem_cons_self) (by decide)
      | cons c digits =>
        exact ih (List.forall_mem_cons.mp all).2 fun d member =>
          front d (List.mem_cons_of_mem _ member)

theorem digits?_mark {digits rest after : List Char} {count value : Nat}
    (all : ∀ c ∈ digits, c.isDigit = true)
    (read : digits? count (digits ++ '\n' :: rest) = some (value, after)) {mark : Char}
    (other : mark.isDigit = false ∧ mark ≠ '\n') : char? mark after = none := by
  obtain ⟨c, others, rfl, digit | rfl⟩ := digits?_after all read
  · refine if_neg fun same => ?_
    subst same
    exact Bool.false_ne_true (other.1.symm.trans digit)
  · exact if_neg other.2

/-- Digits up to the end of the line are not the start of a date or a time. -/
theorem moment?_digits {digits : List Char} (all : ∀ c ∈ digits, c.isDigit = true)
    (rest : List Char) : moment? (digits ++ '\n' :: rest) = none := by
  have no_date : date? (digits ++ '\n' :: rest) = none := by
    unfold date?
    cases read : digits? 4 (digits ++ '\n' :: rest) with
    | none => rfl
    | some found =>
      have unmarked : char? '-' found.2 = none := digits?_mark all read (by decide)
      simp only [Option.bind_eq_bind, Option.bind_some, unmarked, Option.bind_none]
  have no_clock : clock? 23 (digits ++ '\n' :: rest) = none := by
    unfold clock?
    cases read : digits? 2 (digits ++ '\n' :: rest) with
    | none => rfl
    | some found =>
      have unmarked : char? ':' found.2 = none := digits?_mark all read (by decide)
      simp only [Option.bind_eq_bind, Option.bind_some, unmarked, Option.bind_none]
  rw [moment?, no_date]
  simp only [no_clock, Option.map_none]

theorem moment?_negative (text : List Char) : moment? ('-' :: text) = none := by
  have no_digits (count : Nat) : digits? (count + 1) ('-' :: text) = none := by
    refine if_neg fun both => ?_
    obtain ⟨_, front⟩ := Bool.and_eq_true_iff.mp both
    exact absurd (List.all_eq_true.mp front '-' List.mem_cons_self) (by decide)
  have no_date : date? ('-' :: text) = none := by
    unfold date?
    rw [no_digits 3]
    rfl
  have no_clock : clock? 23 ('-' :: text) = none := by
    unfold clock?
    rw [no_digits 1]
    rfl
  rw [moment?, no_date]
  simp only [no_clock, Option.map_none]

/-- A number without sign, up to the end of the line. -/
theorem decimal?_toDigits (negative : Bool) {n : Nat}
    (fits : Literal.isInt64 (if negative then -(n : Int) else n) = true) (rest : List Char) :
    decimal? negative (Nat.toDigits 10 n ++ '\n' :: rest) =
      some (.int (if negative then -(n : Int) else n), '\n' :: rest) := by
  have whole : whole? (Nat.toDigits 10 n ++ '\n' :: rest) =
      some (Nat.toDigits 10 n, '\n' :: rest) := by
    have digits := grouped?_digits (Nat.toDigits_ne_nil (n := n) (b := 10))
      (fun _ => Literal.isDigit_toDigits) rest
    by_cases zero : n = 0
    · subst zero
      rfl
    · obtain ⟨c, others, same, _⟩ := Literal.toDigits_cons n
      have front := Literal.toDigits_front zero others
      rw [same] at digits front ⊢
      unfold whole?
      split
      case h_1 zero => exact absurd (congrArg (· :: others) (List.cons.inj zero).1) front
      case h_2 => exact digits
  simp only [decimal?, whole, Option.bind_eq_bind, Option.bind_some,
    Literal.digitsValue_toDigits, fitted?, if_pos fits]
  rfl

/-- A number that begins with a digit after its sign, and with no mark of another base. -/
theorem number?_signed {front text : List Char} {c : Char} {negative : Bool}
    (digit : c.isDigit = true) (signed : Literal.sign front = (negative, c :: text))
    (decimal : ∀ mark others, front = '0' :: mark :: others → mark ∉ ['x', 'o', 'b']) :
    number? front = decimal? negative (c :: text) := by
  unfold number?
  split
  case h_1 | h_2 | h_3 => exact absurd (by simp) (decimal _ _ rfl)
  case h_4 =>
    rw [signed]
    dsimp only
    split
    case h_1 same | h_2 same =>
      cases same
      exact absurd digit (by decide)
    case h_3 => rfl

/-- The numeral of an integer, up to the end of the line. -/
theorem scalar?_number {n : Int} (fits : Literal.isInt64 n = true) (rest : List Char) :
    scalar? ((toString n).toList ++ '\n' :: rest) = some (.int n, '\n' :: rest) := by
  obtain ⟨m, rfl, text⟩ | ⟨m, rfl, text⟩ := Literal.toList_toString n
  · have read : decimal? false (Nat.toDigits 10 m ++ '\n' :: rest) =
        some (.int m, '\n' :: rest) := decimal?_toDigits false fits rest
    have timeless := moment?_digits (fun _ => Literal.isDigit_toDigits (n := m)) rest
    obtain ⟨c, others, same, all⟩ := Literal.toDigits_cons m
    have digit := all c List.mem_cons_self
    rw [text]
    rw [same, List.cons_append] at read timeless ⊢
    have number : number? (c :: (others ++ '\n' :: rest)) = some (.int m, '\n' :: rest) := by
      refine (number?_signed digit (Literal.sign_digit digit _) ?_).trans read
      intro mark after begins
      cases others with
      | nil =>
        obtain rfl : '\n' = mark := (List.cons.inj (List.cons.inj begins).2).1
        decide
      | cons d others =>
        obtain rfl : d = mark := (List.cons.inj (List.cons.inj begins).2).1
        have digit := all d (List.mem_cons_of_mem _ List.mem_cons_self)
        exact not_mem_of_class digit (by decide)
    unfold scalar?
    split
    case h_1 same => cases same
    case h_2 same =>
      cases same
      exact absurd digit (by decide)
    case h_3 same =>
      cases same
      exact absurd digit (by decide)
    case h_4 same =>
      cases same
      have unquoted : ¬(c = '"' ∨ c = '\'') := by
        rintro (rfl | rfl) <;> exact absurd digit (by decide)
      rw [if_neg unquoted, timeless]
      exact number
  · have read : decimal? true (Nat.toDigits 10 m ++ '\n' :: rest) =
        some (.int (-m), '\n' :: rest) := decimal?_toDigits true fits rest
    obtain ⟨c, others, same, all⟩ := Literal.toDigits_cons m
    rw [text, List.cons_append]
    rw [same, List.cons_append] at read ⊢
    simp only [scalar?, moment?_negative]
    have signed : Literal.sign ('-' :: c :: (others ++ '\n' :: rest)) =
        (true, c :: (others ++ '\n' :: rest)) := rfl
    refine (number?_signed (all c List.mem_cons_self) signed ?_).trans read
    intro mark after begins
    cases (List.cons.inj begins).1

theorem scalar?_spell {value : Toml} (spelled : Spelled value) (rest : List Char) :
    scalar? (spell value ++ '\n' :: rest) = some (value, '\n' :: rest) := by
  cases value with
  | int n => exact scalar?_number spelled rest
  | bool b => exact scalar?_flag b _
  | str s =>
    rw [spell, List.cons_append, List.append_assoc]
    exact scalar?_text spelled rest
  | float | moment | array | table => exact spelled.elim

theorem spell_front {value : Toml} (spelled : Spelled value) :
    ∃ c text, spell value = c :: text ∧ c ∉ ['[', '\x7b', ' ', '\t'] := by
  cases value with
  | int n =>
    obtain ⟨m, _, text⟩ | ⟨m, _, text⟩ := Literal.toList_toString n
    · obtain ⟨c, others, same, all⟩ := Literal.toDigits_cons m
      have digit := all c List.mem_cons_self
      exact ⟨c, others, text.trans same, not_mem_of_class digit (by decide)⟩
    · exact ⟨'-', _, text, by decide⟩
  | bool b => cases b <;> exact ⟨_, _, rfl, by decide⟩
  | str s => exact ⟨'"', _, rfl, by decide⟩
  | float | moment | array | table => exact spelled.elim

theorem value?_spell {value : Toml} (spelled : Spelled value) (steps depth : Nat)
    (rest : List Char) :
    value? (steps + 1) depth (spell value ++ '\n' :: rest) = some (value, '\n' :: rest) := by
  have read := scalar?_spell spelled rest
  obtain ⟨c, text, same, other⟩ := spell_front spelled
  rw [same, List.cons_append] at read ⊢
  unfold value?
  split
  case h_1 same | h_2 same | h_3 same | h_4 same =>
    cases same
    exact absurd (by decide) other
  case h_5 => exact read

/-! ### Lines -/

theorem skipLines_front {c : Char} (visible : isBlank c = false) (other : c ∉ ['#', '\n', '\r'])
    (steps : Nat) (rest : List Char) : skipLines steps (c :: rest) = c :: rest := by
  cases steps with
  | zero => rfl
  | succ steps =>
    have front : skipComment (skipBlanks (c :: rest)) = c :: rest := by
      rw [skipBlanks_cons visible]
      unfold skipComment
      split
      case h_1 same =>
        cases same
        exact absurd (by decide) other
      case h_2 => rfl
    have more : newline? (c :: rest) = none := by
      unfold newline?
      split
      case h_1 same | h_2 same =>
        cases same
        exact absurd (by decide) other
      case h_3 => rfl
    rw [skipLines]
    simp only [front, more]

theorem key_front {name : List Char} (bare : IsBare name) :
    ∃ c others, name = c :: others ∧ isBlank c = false ∧ c ∉ ['#', '\n', '\r'] ∧ c ≠ '[' := by
  obtain ⟨filled, letters⟩ := bare
  cases name with
  | nil => exact absurd rfl filled
  | cons c others =>
    have letter := letters c List.mem_cons_self
    have visible := isBlank_eq_false (not_mem_of_class letter (by decide))
    refine ⟨c, others, rfl, visible, not_mem_of_class letter (by decide), ?_⟩
    rintro rfl
    exact absurd letter (by decide)

variable {header : List String} {draft : Draft} {name : String} (steps : Nat)

theorem lines?_entry (bare : IsBare name.toList) {value : Toml} (spelled : Spelled value)
    (rest : List Char) :
    lines? (steps + 1) header draft (entryLine (name, value) ++ rest) =
      (setUnder header [name] value draft).bind fun draft => lines? steps header draft rest := by
  have key := keyPath?_bare bare (c := ' ') (by decide)
    ('=' :: ' ' :: (spell value ++ '\n' :: rest)) (by simp [skipBlanks, isBlank])
  have equals : skipBlanks (' ' :: '=' :: ' ' :: (spell value ++ '\n' :: rest)) =
      '=' :: ' ' :: (spell value ++ '\n' :: rest) := rfl
  have blank : skipBlanks (' ' :: (spell value ++ '\n' :: rest)) = spell value ++ '\n' :: rest := by
    obtain ⟨c, text, same, other⟩ := spell_front spelled
    have visible : c ∉ [' ', '\t'] := fun among =>
      other (List.mem_cons_of_mem _ (List.mem_cons_of_mem _ among))
    rw [same]
    exact skipBlanks_cons (isBlank_eq_false visible) _
  have ends : lineEnd? ('\n' :: rest) = some rest := rfl
  have text : entryLine (name, value) ++ rest =
      name.toList ++ ' ' :: '=' :: ' ' :: (spell value ++ '\n' :: rest) := by
    simp [entryLine]
  obtain ⟨c, others, same, front, plain, unbracketed⟩ := key_front bare
  rw [text]
  rw [equals, String.ofList_toList] at key
  rw [same, List.cons_append] at key ⊢
  rw [lines?, skipLines_front front plain]
  split
  case h_1 other => cases other
  case h_2 other | h_3 other => exact absurd (List.cons.inj other).1 unbracketed
  case h_4 =>
    rw [key]
    simp only [Option.bind_eq_bind, Option.bind_some, blank, value?_spell spelled, ends]

/-- A header opens a table and is above the lines that follow. -/
theorem lines?_header (bare : IsBare name.toList) (rest : List Char) :
    lines? (steps + 1) header draft ('[' :: (name.toList ++ ']' :: '\n' :: rest)) =
      (openTable name draft).bind fun draft => lines? steps [name] draft rest := by
  have key := keyPath?_bare bare (c := ']') (by decide) ('\n' :: rest)
    (by simp [skipBlanks, isBlank])
  have bracket : skipBlanks (']' :: '\n' :: rest) = ']' :: '\n' :: rest := rfl
  have ends : lineEnd? ('\n' :: rest) = some rest := rfl
  rw [bracket, String.ofList_toList] at key
  obtain ⟨c, others, same, _, _, unbracketed⟩ := key_front bare
  rw [lines?, skipLines_front (by decide) (by decide)]
  split
  case h_1 other => cases other
  case h_2 other =>
    rw [same] at other
    exact absurd (List.cons.inj (List.cons.inj other).2).1 unbracketed
  case h_3 same =>
    cases same
    rw [key]
    simp only [Option.bind_eq_bind, Option.bind_some, ends]
    rfl
  case h_4 other => exact absurd rfl (other _)

theorem lines?_blank {c : Char} (visible : isBlank c = false) (other : c ∉ ['#', '\n', '\r'])
    (rest : List Char) :
    lines? (steps + 1) header draft ('\n' :: c :: rest) =
      lines? (steps + 1) header draft (c :: rest) := by
  have skipped : skipLines (('\n' :: c :: rest).length + 1) ('\n' :: c :: rest) = c :: rest :=
    skipLines_front visible other _ _
  simp only [lines?, skipped, skipLines_front visible other]

/-! ### Tables -/

theorem lookup_absent {α : Type} {key : String} {fields : List (String × α)}
    (absent : key ∉ fields.map Prod.fst) : fields.lookup key = none := by
  refine List.lookup_eq_none_iff.mpr fun field member => ?_
  exact bne_iff_ne.mpr fun same => absent (same ▸ List.mem_map_of_mem member)

theorem assign_last {α : Type} {key : String} {before : List (String × α)}
    (absent : key ∉ before.map Prod.fst) (old new : α) :
    assign key new (before ++ [(key, old)]) = before ++ [(key, new)] := by
  induction before with
  | nil => exact if_pos rfl
  | cons field before ih =>
    rw [List.map_cons] at absent
    rw [List.cons_append, assign, if_neg (List.ne_of_not_mem_cons absent).symm,
      ih (List.not_mem_of_not_mem_cons absent), List.cons_append]

theorem openTable_new {fields : List (String × Node)} (absent : name ∉ fields.map Prod.fst)
    (kind : Kind) :
    openTable name (kind, fields) = some (kind, fields ++ [(name, .table .opened [])]) := by
  simp only [openTable, lookup_absent absent]

theorem setUnder_last {before inner : List (String × Node)} {key : String} {value : Toml}
    (outside : name ∉ before.map Prod.fst) (absent : key ∉ inner.map Prod.fst) (kind : Kind) :
    setUnder [name] [key] value (kind, before ++ [(name, .table .opened inner)]) =
      some (kind, before ++ [(name, .table .opened (inner ++ [(key, .value value)]))]) := by
  have found : (before ++ [(name, Node.table .opened inner)]).lookup name =
      some (.table .opened inner) := by
    rw [List.lookup_append, lookup_absent outside, Option.none_or, List.lookup_cons,
      beq_self_eq_true]
  have set : setPath [key] value (.opened, inner) =
      some (.opened, inner ++ [(key, .value value)]) := by
    have fresh : (inner.lookup key).isSome = false := by rw [lookup_absent absent]; rfl
    simp only [setPath, List.reverse_cons, List.reverse_nil, List.nil_append, descend, setKey,
      fresh]
    rfl
  simp only [setUnder, descend, found]
  rw [if_neg (by decide), set]
  simp only [Option.bind_eq_bind, Option.bind_some, assign_last outside]

/-- A section as a table under construction. -/
def node (part : Section) : String × Node :=
  (part.1, .table .opened (part.2.map fun entry => (entry.1, .value entry.2)))

theorem toFields_nodes (document : List Section) :
    Node.toFields (document.map node) = document.map fun part => (part.1, .table part.2) := by
  have entries (fields : List (String × Toml)) :
      Node.toFields (fields.map fun entry => (entry.1, .value entry.2)) = fields := by
    induction fields with
    | nil => rfl
    | cons entry rest ih =>
      rw [List.map_cons, Node.toFields, ih]
      rfl
  induction document with
  | nil => rfl
  | cons part rest ih =>
    rw [List.map_cons, node, Node.toFields, ih, Node.toToml, entries, List.map_cons]

/-! ### Documents -/

theorem lines?_entries {before : List (String × Node)} (outside : name ∉ before.map Prod.fst)
    {entries done : List (String × Toml)}
    (plain : ∀ entry ∈ entries, IsBare entry.1.toList ∧ Spelled entry.2)
    (distinct : ((done ++ entries).map Prod.fst).Nodup) (rest : List Char) :
    lines? (steps + entries.length) [name] (.opened, before ++ [node (name, done)])
        (entries.flatMap entryLine ++ rest) =
      lines? steps [name] (.opened, before ++ [node (name, done ++ entries)]) rest := by
  induction entries generalizing done with
  | nil => rw [List.append_nil]; rfl
  | cons entry entries ih =>
    obtain ⟨⟨bare, spelled⟩, plain⟩ := List.forall_mem_cons.mp plain
    have shifted : done ++ entry :: entries = done ++ [entry] ++ entries := by
      rw [List.append_assoc, List.singleton_append]
    have absent : entry.1 ∉ (done.map fun entry => (entry.1, Node.value entry.2)).map Prod.fst := by
      rw [List.map_map]
      rw [shifted, List.map_append, List.map_append] at distinct
      have apart := (List.nodup_append.mp (List.nodup_append.mp distinct).1).2.2
      exact fun among => apart _ among _ (List.mem_singleton_self _) rfl
    rw [List.length_cons, ← Nat.add_assoc, List.flatMap_cons, List.append_assoc,
      lines?_entry _ bare spelled, node, setUnder_last outside absent, Option.bind_some, shifted,
      ← ih plain (shifted ▸ distinct), node, List.map_append]
    rfl

theorem lines?_section {part : Section} (plain : part.Plain) {before : List (String × Node)}
    (outside : part.1 ∉ before.map Prod.fst) (rest : List Char) :
    lines? (steps + (part.2.length + 1)) header (.opened, before) (sectionLines part ++ rest) =
      lines? steps [part.1] (.opened, before ++ [node part]) rest := by
  have text : sectionLines part ++ rest =
      '[' :: (part.1.toList ++ ']' :: '\n' :: (part.2.flatMap entryLine ++ rest)) := by
    simp [sectionLines]
  rw [text, ← Nat.add_assoc, lines?_header _ plain.named, openTable_new outside, Option.bind_some]
  have distinct : (([] ++ part.2).map Prod.fst).Nodup := plain.distinct
  exact lines?_entries steps outside plain.entries distinct rest

/-- How many lines a document has, blank ones apart. -/
def lineCount : List Section → Nat
  | [] => 0
  | part :: rest => part.2.length + 1 + lineCount rest

theorem lines?_sections {document : List Section} {before : List (String × Node)}
    (plain : ∀ part ∈ document, part.Plain)
    (distinct : (before.map Prod.fst ++ document.map Prod.fst).Nodup) :
    lines? (steps + 1 + lineCount document) header (.opened, before)
        (document.flatMap fun part => '\n' :: sectionLines part) =
      some (.opened, before ++ document.map node) := by
  induction document generalizing before header with
  | nil =>
    rw [List.map_nil, List.append_nil]
    rfl
  | cons part document ih =>
    obtain ⟨here, there⟩ := List.forall_mem_cons.mp plain
    have outside : part.1 ∉ before.map Prod.fst := fun among =>
      (List.nodup_append.mp distinct).2.2 _ among _ List.mem_cons_self rfl
    have following : ((before ++ [node part]).map Prod.fst ++ document.map Prod.fst).Nodup := by
      rw [List.map_append, List.append_assoc]
      exact distinct
    have fuel : steps + 1 + lineCount (part :: document) =
        steps + 1 + lineCount document + (part.2.length + 1) := by
      rw [lineCount]
      omega
    rw [fuel, List.flatMap_cons, List.cons_append]
    refine (lines?_blank _ (by decide) (by decide) _).trans ?_
    refine (lines?_section _ here outside _).trans ((ih there following).trans ?_)
    rw [List.append_assoc]
    rfl

theorem length_sectionLines (part : Section) : part.2.length + 1 ≤ (sectionLines part).length := by
  have entries (fields : List (String × Toml)) :
      fields.length ≤ (fields.flatMap entryLine).length := by
    induction fields with
    | nil => exact Nat.le_refl _
    | cons field rest ih =>
      simp only [List.flatMap_cons, List.length_append, List.length_cons, entryLine]
      omega
  have inside := entries part.2
  simp only [sectionLines, List.length_cons, List.length_append]
  omega

theorem lineCount_le (document : List Section) :
    lineCount document ≤ (document.flatMap fun part => '\n' :: sectionLines part).length := by
  induction document with
  | nil => exact Nat.le_refl _
  | cons part rest ih =>
    have here := length_sectionLines part
    rw [lineCount, List.flatMap_cons, List.length_append, List.length_cons]
    omega

theorem withoutMark_documentText (document : List Section) :
    Text.withoutMark (documentText document) = documentText document := by
  cases document <;> rfl

/-- A plain document is read as it is written. -/
theorem read?_plain {document : List Section} (plain : PlainDocument document) :
    read? (String.ofList (documentText document)) =
      some (document.map fun part => (part.1, .table part.2)) := by
  cases document with
  | nil => rfl
  | cons first rest =>
    obtain ⟨here, there⟩ := List.forall_mem_cons.mp plain.sections
    have enough := Nat.add_le_add (length_sectionLines first) (lineCount_le rest)
    rw [← List.length_append] at enough
    obtain ⟨more, length⟩ := Nat.exists_eq_add_of_le enough
    have fuel : (documentText (first :: rest)).length + 1 =
        more + 1 + lineCount rest + (first.2.length + 1) := by
      rw [documentText, length]
      omega
    have lines : lines? ((documentText (first :: rest)).length + 1) [] (.opened, [])
        (documentText (first :: rest)) = some (.opened, (first :: rest).map node) := by
      rw [fuel, documentText]
      refine (lines?_section _ here List.not_mem_nil _).trans ?_
      exact lines?_sections more there plain.distinct
    rw [read?, String.toList_ofList, withoutMark_documentText, lines, Option.map_some]
    exact congrArg some (toFields_nodes _)

end TickScript.Toml
