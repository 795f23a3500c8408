import Vitae.Json.Printer
import Vitae.Json.Reader

/-! Reading a JSON value undoes writing it. Both written forms are one form with blanks of their own where blanks may
stand, and the readers pass over blanks there, whatever they are. Numbers are left out: no content holds any. -/

namespace Vitae.Json

section strings

private theorem hexValue?_hexDigit {value : Nat} (small : value < 16) : hexValue? (hexDigit value) = some value := by
  have all : ∀ value, value < 16 → hexValue? (hexDigit value) = some value := by decide
  exact all value small

/-- A character that is written as a backslash and a sign of its own. -/
private theorem readString_pair {sign c : Char} (known : simpleEscape? sign = some c) (read rest : List Char) :
    readString ⟨read, none, false⟩ ('\\' :: sign :: rest) = readString ⟨c :: read, none, false⟩ rest := by
  have other : sign ≠ 'u' := by
    rintro rfl
    have none : simpleEscape? 'u' = Option.none := by decide
    rw [none] at known
    contradiction
  rw [readString]
  · simp only [known]
    rfl
  · exact fun _ _ _ _ _ same _ => other same

/-- A character below the space is written as its code. -/
private theorem readString_code {c : Char} (low : c < ' ') (read rest : List Char) :
    readString ⟨read, none, false⟩
        ('\\' :: 'u' :: '0' :: '0' :: hexDigit (c.toNat / 16) :: hexDigit (c.toNat % 16) :: rest) =
      readString ⟨c :: read, none, false⟩ rest := by
  have small : c.toNat < 32 := low
  have zero : hexValue? '0' = some 0 := by decide
  have unit : codeUnit? '0' '0' (hexDigit (c.toNat / 16)) (hexDigit (c.toNat % 16)) = some c.toNat := by
    have high : hexValue? (hexDigit (c.toNat / 16)) = some (c.toNat / 16) := hexValue?_hexDigit (by omega)
    have last : hexValue? (hexDigit (c.toNat % 16)) = some (c.toNat % 16) := hexValue?_hexDigit (by omega)
    simp only [codeUnit?, zero, high, last, Option.bind_eq_bind, Option.bind_some, Option.pure_def, Option.some.injEq]
    omega
  have pushed : Partial.pushUnit ⟨read, none, false⟩ c.toNat = ⟨c :: read, none, false⟩ := by
    rw [Partial.pushUnit, if_neg (by omega), if_neg (by omega)]
    simp [Partial.push]
  rw [readString]
  simp only [unit, pushed]

/-- The three ways to write a character. -/
theorem escapedChar_cases (c : Char) :
    (∃ sign, simpleEscape? sign = some c ∧ escapedChar c = ['\\', sign]) ∨
    (c < ' ' ∧ escapedChar c = ['\\', 'u', '0', '0', hexDigit (c.toNat / 16), hexDigit (c.toNat % 16)]) ∨
    (c ≠ '"' ∧ c ≠ '\\' ∧ ¬ c < ' ' ∧ escapedChar c = [c]) := by
  unfold escapedChar
  iterate 7
    split
    next same =>
      subst same
      exact .inl ⟨_, by decide, rfl⟩
  split
  next low => exact .inr (.inl ⟨low, rfl⟩)
  next noQuote noSlash _ _ _ _ _ high => exact .inr (.inr ⟨noQuote, noSlash, high, rfl⟩)

private theorem readString_escapedChar (c : Char) (read rest : List Char) :
    readString ⟨read, none, false⟩ (escapedChar c ++ rest) = readString ⟨c :: read, none, false⟩ rest := by
  rcases escapedChar_cases c with ⟨sign, known, same⟩ | ⟨low, same⟩ | ⟨noQuote, noSlash, high, same⟩
  · rw [same]
    exact readString_pair known read rest
  · rw [same]
    exact readString_code low read rest
  · rw [same, List.singleton_append, readString]
    · rw [if_neg (by simp [high, noSlash])]
      rfl
    all_goals simp [noQuote, noSlash]

/-- A written string is read back, whatever its characters. -/
theorem readString_quoted (text read rest : List Char) :
    readString ⟨read, none, false⟩ (text.flatMap escapedChar ++ '"' :: rest) =
      some (some (.ofList (read.reverse ++ text)), rest) := by
  induction text generalizing read with
  | nil => simp [readString]
  | cons c text ih =>
    rw [List.flatMap_cons, List.append_assoc, readString_escapedChar, ih]
    simp

end strings

section blanks

private theorem skipBlanks_append {blanks : List Char} (blank : ∀ c ∈ blanks, isBlank c = true) (text : List Char) :
    skipBlanks (blanks ++ text) = skipBlanks text :=
  List.dropWhile_append_of_pos blank

private theorem skipBlanks_cons {c : Char} (shown : isBlank c = false) (rest : List Char) :
    skipBlanks (c :: rest) = c :: rest :=
  List.dropWhile_cons_of_neg (by simp [shown])

private theorem readValue_blanks {blanks : List Char} (blank : ∀ c ∈ blanks, isBlank c = true) (steps : Nat)
    (text : List Char) : readValue steps (blanks ++ text) = readValue steps text := by
  cases steps with
  | zero => rfl
  | succ steps => rw [readValue, readValue, skipBlanks_append blank]

end blanks

section layout

variable (gap : Nat → List Char) (space : List Char)

mutual

/-- The text of a value with a gap before every member and before the closing bracket, and a space behind
every colon. -/
def spacedText (level : Nat) : Json → List Char
  | .array [] => ['[', ']']
  | .array (item :: rest) => '[' :: (spacedItems (level + 1) (item :: rest) ++ (gap level ++ [']']))
  | .object [] => ['\x7b', '\x7d']
  | .object (member :: rest) => '\x7b' :: (spacedMembers (level + 1) (member :: rest) ++ (gap level ++ ['\x7d']))
  | value => scalar value
termination_by structural value => value

def spacedItems (level : Nat) : List Json → List Char
  | [] => []
  | item :: rest =>
    gap level ++ (spacedText level item ++ ((if rest.isEmpty then [] else [',']) ++ spacedItems level rest))
termination_by structural items => items

def spacedMembers (level : Nat) : List (String × Json) → List Char
  | [] => []
  | (name, value) :: rest =>
    gap level ++ (quoted name ++ ':' :: (space ++ (spacedText level value ++
      ((if rest.isEmpty then [] else [',']) ++ spacedMembers level rest))))
termination_by structural members => members

end

end layout

mutual

private theorem compactText_eq (level : Nat) (value : Json) :
    compactText value = spacedText (fun _ => []) [] level value := by
  cases value with
  | array items =>
    cases items with
    | nil => rfl
    | cons item rest => simp [compactText, spacedText, compactItems_eq (level + 1) (item :: rest)]
  | object members =>
    cases members with
    | nil => rfl
    | cons member rest => simp [compactText, spacedText, compactMembers_eq (level + 1) (member :: rest)]
  | null | bool | number | string | halfPair => rfl
termination_by structural value

private theorem compactItems_eq (level : Nat) (items : List Json) :
    compactItems items = spacedItems (fun _ => []) [] level items := by
  cases items with
  | nil => rfl
  | cons item rest => simp [compactItems, spacedItems, compactText_eq level item, compactItems_eq level rest]
termination_by structural items

private theorem compactMembers_eq (level : Nat) (members : List (String × Json)) :
    compactMembers members = spacedMembers (fun _ => []) [] level members := by
  cases members with
  | nil => rfl
  | cons member rest =>
    obtain ⟨name, value⟩ := member
    simp [compactMembers, spacedMembers, compactText_eq level value, compactMembers_eq level rest]
termination_by structural members

end

mutual

private theorem indentedText_eq (level : Nat) (value : Json) :
    indentedText level value = spacedText newLine [' '] level value := by
  cases value with
  | array items =>
    cases items with
    | nil => rfl
    | cons item rest => simp [indentedText, spacedText, indentedItems_eq (level + 1) (item :: rest)]
  | object members =>
    cases members with
    | nil => rfl
    | cons member rest => simp [indentedText, spacedText, indentedMembers_eq (level + 1) (member :: rest)]
  | null | bool | number | string | halfPair => rfl
termination_by structural value

private theorem indentedItems_eq (level : Nat) (items : List Json) :
    indentedItems level items = spacedItems newLine [' '] level items := by
  cases items with
  | nil => rfl
  | cons item rest => simp [indentedItems, spacedItems, indentedText_eq level item, indentedItems_eq level rest]
termination_by structural items

private theorem indentedMembers_eq (level : Nat) (members : List (String × Json)) :
    indentedMembers level members = spacedMembers newLine [' '] level members := by
  cases members with
  | nil => rfl
  | cons member rest =>
    obtain ⟨name, value⟩ := member
    simp [indentedMembers, spacedMembers, indentedText_eq level value, indentedMembers_eq level rest]
termination_by structural members

end

mutual

/-- Holds where neither a number occurs nor a string that is no text. -/
def Textual : Json → Prop
  | .number _ | .halfPair => False
  | .array items => AllTextual items
  | .object members => MembersTextual members
  | _ => True
termination_by structural value => value

def AllTextual : List Json → Prop
  | [] => True
  | item :: rest => Textual item ∧ AllTextual rest
termination_by structural items => items

def MembersTextual : List (String × Json) → Prop
  | [] => True
  | (_, value) :: rest => Textual value ∧ MembersTextual rest
termination_by structural members => members

end

section reading

/-- No value begins with a blank, nor with what closes an array. -/
theorem exists_spacedText (gap : Nat → List Char) (space : List Char) (level : Nat) {value : Json} (textual : Textual value) :
    ∃ c later, spacedText gap space level value = c :: later ∧ isBlank c = false ∧ c ≠ ']' := by
  cases value with
  | array items => cases items <;> exact ⟨'[', _, rfl, by decide, by decide⟩
  | object members => cases members <;> exact ⟨'\x7b', _, rfl, by decide, by decide⟩
  | null => exact ⟨'n', _, rfl, by decide, by decide⟩
  | bool truth => cases truth <;> exact ⟨_, _, rfl, by decide, by decide⟩
  | string text => exact ⟨'"', _, rfl, by decide, by decide⟩
  | number | halfPair => exact textual.elim

private theorem ofMembers_named (members : List (String × Json)) :
    ofMembers (members.map fun member => (some member.1, member.2)) = .object members := by
  have named : (members.map fun member => (some member.1, member.2)).mapM
      (fun member : Option String × Json => member.1.map fun text => (text, member.2)) = some members := by
    induction members with
    | nil => rfl
    | cons member rest ih => simp [List.mapM_cons, ih]
  simp [ofMembers, named]

variable {gap : Nat → List Char} {space : List Char}

/-- Gaps and spaces hold blanks only. -/
structure Blank (gap : Nat → List Char) (space : List Char) : Prop where
  gap : ∀ level, ∀ c ∈ gap level, isBlank c = true
  space : ∀ c ∈ space, isBlank c = true

variable (blank : Blank gap space)
include blank

private theorem exists_spacedItems (level : Nat) {item : Json} (textual : Textual item) (items : List Json)
    (tail : List Char) :
    ∃ c later, skipBlanks (spacedItems gap space level (item :: items) ++ tail) = c :: later ∧ c ≠ ']' := by
  obtain ⟨c, later, start, shown, noBracket⟩ := exists_spacedText gap space level textual
  refine ⟨c, later ++ ((if items.isEmpty then [] else [',']) ++ spacedItems gap space level items) ++ tail, ?_, noBracket⟩
  simp only [spacedItems, List.append_assoc]
  rw [skipBlanks_append (blank.gap level), start, List.cons_append, skipBlanks_cons shown]

private theorem exists_spacedMembers (level : Nat) (member : String × Json) (members : List (String × Json))
    (tail : List Char) :
    ∃ later, skipBlanks (spacedMembers gap space level (member :: members) ++ tail) = '"' :: later := by
  simp only [spacedMembers, List.append_assoc]
  rw [skipBlanks_append (blank.gap level)]
  exact ⟨_, rfl⟩

mutual

/-- A written value is read back, whatever is behind it: it takes fewer steps than it has characters. -/
theorem readValue_spacedText (level : Nat) {value : Json} (textual : Textual value) (rest : List Char) (steps : Nat)
    (enough : (spacedText gap space level value).length ≤ steps) :
    readValue steps (spacedText gap space level value ++ rest) = some (value, rest) := by
  obtain ⟨c, later, start, -⟩ := exists_spacedText gap space level textual
  cases steps with
  | zero => simp [start] at enough
  | succ steps =>
    cases value with
    | null => rfl
    | bool truth => cases truth <;> rfl
    | number | halfPair => exact textual.elim
    | string text =>
      have read := readString_quoted text.toList [] rest
      change readValue (steps + 1) (quoted text ++ rest) = _
      rw [quoted, List.cons_append, readValue, skipBlanks_cons (by decide)]
      simp [read]
    | array items =>
      cases items with
      | nil => rfl
      | cons item items =>
        simp only [spacedText, List.length_cons, List.length_append] at enough
        have read := readItems_spacedItems (level + 1) (item :: items) (by simp) textual (blank.gap level) rest steps (by omega)
        obtain ⟨d, behind, first, noBracket⟩ :=
          exists_spacedItems blank (level + 1) textual.1 items (gap level ++ ']' :: rest)
        rw [spacedText, List.cons_append, readValue, skipBlanks_cons (by decide)]
        simp only [List.append_assoc, List.singleton_append]
        split
        next same => exact absurd (List.cons.inj (first.symm.trans same)).1 noBracket
        next => rw [read, Option.map_some]
    | object members =>
      cases members with
      | nil => rfl
      | cons member members =>
        simp only [spacedText, List.length_cons, List.length_append] at enough
        have read := readMembers_spacedMembers (level + 1) (member :: members) (by simp) textual (blank.gap level) rest
          steps (by omega)
        obtain ⟨behind, first⟩ := exists_spacedMembers blank (level + 1) member members (gap level ++ '\x7d' :: rest)
        rw [spacedText, List.cons_append, readValue, skipBlanks_cons (by decide)]
        simp only [List.append_assoc, List.singleton_append]
        split
        next same => exact absurd (List.cons.inj (first.symm.trans same)).1 (by decide)
        next => rw [read, Option.map_some, ofMembers_named]
termination_by structural value

/-- The blanks before the closing bracket are those of the level around. -/
theorem readItems_spacedItems (level : Nat) (items : List Json) (filled : items ≠ []) (textual : AllTextual items)
    {blanks : List Char} (closing : ∀ c ∈ blanks, isBlank c = true) (rest : List Char) (steps : Nat)
    (enough : (spacedItems gap space level items).length < steps) :
    readItems steps (spacedItems gap space level items ++ (blanks ++ ']' :: rest)) = some (items, rest) := by
  cases items with
  | nil => contradiction
  | cons item items =>
    cases steps with
    | zero => simp at enough
    | succ steps =>
      simp only [spacedItems, List.length_append] at enough
      have first (behind : List Char) := readValue_spacedText level textual.1 behind steps (by omega)
      rw [spacedItems, readItems, List.append_assoc, readValue_blanks (blank.gap level), List.append_assoc, first]
      cases items with
      | nil =>
        have stop : isBlank ']' = false := by decide
        simp [spacedItems, skipBlanks_append closing, skipBlanks_cons stop]
      | cons second items =>
        have comma : isBlank ',' = false := by decide
        simp only [List.isEmpty_cons, Bool.false_eq_true, if_false, List.length_singleton] at enough
        have later := readItems_spacedItems level (second :: items) (by simp) textual.2 closing rest steps (by omega)
        simp [skipBlanks_cons comma, later]
termination_by structural items

private theorem readMembers_spacedMembers (level : Nat) (members : List (String × Json)) (filled : members ≠ [])
    (textual : MembersTextual members) {blanks : List Char} (closing : ∀ c ∈ blanks, isBlank c = true) (rest : List Char)
    (steps : Nat) (enough : (spacedMembers gap space level members).length < steps) :
    readMembers steps (spacedMembers gap space level members ++ (blanks ++ '\x7d' :: rest)) =
      some (members.map fun member => (some member.1, member.2), rest) := by
  cases members with
  | nil => contradiction
  | cons member members =>
    obtain ⟨name, value⟩ := member
    cases steps with
    | zero => simp at enough
    | succ steps =>
      have quote : isBlank '"' = false := by decide
      have colon : isBlank ':' = false := by decide
      simp only [spacedMembers, List.length_append, List.length_cons] at enough
      have named (behind : List Char) := readString_quoted name.toList [] behind
      have first (behind : List Char) := readValue_spacedText level textual.1 behind steps (by omega)
      rw [spacedMembers, readMembers, List.append_assoc, skipBlanks_append (blank.gap level)]
      simp only [quoted, List.cons_append, List.append_assoc, skipBlanks_cons quote]
      rw [named]
      simp only [Option.bind_eq_bind, Option.bind_some, skipBlanks_cons colon, List.reverse_nil, List.nil_append,
        String.ofList_toList]
      rw [readValue_blanks blank.space, first]
      cases members with
      | nil =>
        have stop : isBlank '\x7d' = false := by decide
        simp [spacedMembers, skipBlanks_append closing, skipBlanks_cons stop]
      | cons second members =>
        have comma : isBlank ',' = false := by decide
        simp only [List.isEmpty_cons, Bool.false_eq_true, if_false, List.length_singleton] at enough
        have later := readMembers_spacedMembers level (second :: members) (by simp) textual.2 closing rest steps (by omega)
        simp [skipBlanks_cons comma, later]
termination_by structural members

end

private theorem read_spacedText (level : Nat) {value : Json} (textual : Textual value) :
    read (.ofList (spacedText gap space level value)) = some value := by
  have whole := readValue_spacedText blank level textual [] (2 * (spacedText gap space level value).length + 1) (by omega)
  rw [List.append_nil] at whole
  rw [read, String.length_ofList, String.toList_ofList, whole]
  rfl

end reading

theorem read_compact {value : Json} (textual : Textual value) : read value.compact = some value := by
  have blank : Blank (fun _ => []) [] := ⟨by simp, by simp⟩
  rw [compact, compactText_eq 0]
  exact read_spacedText blank 0 textual

theorem read_indented {value : Json} (textual : Textual value) : read value.indented = some value := by
  have blank : Blank newLine [' '] := by
    refine ⟨fun level c member => ?_, List.forall_mem_singleton.mpr rfl⟩
    rcases List.mem_cons.mp member with rfl | space
    · rfl
    · rw [List.eq_of_mem_replicate space]
      rfl
  rw [indented, indentedText_eq]
  exact read_spacedText blank 0 textual

end Vitae.Json
