import Vitae.Markup.Construct

/-! Text whose braces are balanced: looking for a closing brace passes over it as a whole. Groups,
arguments and commands over such text are read exactly as they are written. -/

namespace Vitae.Markup

/-- The closing brace of a group is never found in the text, nor moved by it. -/
def Balanced (text : List Char) : Prop :=
  ∀ depth rest, closingBrace? depth (text ++ rest) = closingBrace? depth rest

def braced (text : List Char) : List Char :=
  '{' :: text ++ ['}']

theorem balanced_nil : Balanced [] :=
  fun _ _ => rfl

theorem Balanced.append {first second : List Char} (one : Balanced first) (two : Balanced second) :
    Balanced (first ++ second) := by
  intro depth rest
  rw [List.append_assoc, one, two]

theorem Balanced.braced {text : List Char} (balanced : Balanced text) : Balanced (braced text) := by
  intro depth rest
  have opening : Markup.braced text ++ rest = '{' :: (text ++ '}' :: rest) := by simp [Markup.braced]
  rw [opening]
  calc
    closingBrace? depth ('{' :: (text ++ '}' :: rest)) = closingBrace? (depth + 1) (text ++ '}' :: rest) := rfl
    _ = closingBrace? (depth + 1) ('}' :: rest) := balanced (depth + 1) _
    _ = closingBrace? depth rest := rfl

theorem closingBrace?_cons {c : Char} (noSlash : c ≠ '\\') (noOpening : c ≠ '{') (noClosing : c ≠ '}')
    (depth : Nat) (rest : List Char) : closingBrace? depth (c :: rest) = closingBrace? depth rest := by
  rw [closingBrace?]
  all_goals simp_all

theorem balanced_of_forall {text : List Char} (plain : ∀ c ∈ text, c ≠ '\\' ∧ c ≠ '{' ∧ c ≠ '}') : Balanced text := by
  intro depth rest
  induction text with
  | nil => rfl
  | cons c text ih =>
    obtain ⟨noSlash, noOpening, noClosing⟩ := plain c (by simp)
    rw [List.cons_append, closingBrace?_cons noSlash noOpening noClosing]
    exact ih fun d member => plain d (by simp [member])

def commandText (name : String) : List Char :=
  '\\' :: name.toList

theorem plain_of_letters {text : List Char} (letters : text.all Char.isAlpha = true) :
    ∀ c ∈ text, c ≠ '\\' ∧ c ≠ '{' ∧ c ≠ '}' := by
  intro c member
  have letter := List.all_eq_true.mp letters c member
  refine ⟨?_, ?_, ?_⟩ <;> rintro rfl <;> exact absurd letter (by decide)

theorem balanced_of_letters {text : List Char} (letters : text.all Char.isAlpha = true) : Balanced text :=
  balanced_of_forall (plain_of_letters letters)

/-- A command of letters, which cannot be read any other way than by its whole name. -/
def Named (name : String) : Prop :=
  name ≠ "" ∧ name.toList.all Char.isAlpha = true

instance (name : String) : Decidable (Named name) :=
  inferInstanceAs (Decidable (_ ∧ _))

/-- A backslash takes the first letter of a name with it. -/
theorem balanced_commandText {name : String} (named : Named name) : Balanced (commandText name) := by
  obtain ⟨shown, letters⟩ := named
  intro depth rest
  unfold commandText
  cases spelled : name.toList with
  | nil => exact absurd (String.toList_eq_nil_iff.mp spelled) shown
  | cons c name =>
    rw [spelled, List.all_cons, Bool.and_eq_true] at letters
    exact balanced_of_letters letters.2 depth rest

/-- What stands in front of a mark is the text up to the length of what is left behind the mark. -/
theorem take_enclosed (inner : List Char) (mark : Char) (after : List Char) :
    (inner ++ mark :: after).take ((inner ++ mark :: after).length - after.length - 1) = inner := by
  have count : (inner ++ mark :: after).length - after.length - 1 = inner.length := by
    simp only [List.length_append, List.length_cons]
    omega
  rw [count, List.take_left]

theorem group?_braced {text : List Char} (balanced : Balanced text) (rest : List Char) :
    group? (braced text ++ rest) = some (⟨text, true⟩, rest) := by
  have opening : braced text ++ rest = '{' :: (text ++ '}' :: rest) := by simp [braced]
  have closing : closingBrace? 0 (text ++ '}' :: rest) = some rest := balanced 0 ('}' :: rest)
  rw [opening, group?, closing]
  simp only [take_enclosed]

theorem argument?_braced {text : List Char} (balanced : Balanced text) {skips : Char → Bool}
    (stops : skips '{' = false) (rest : List Char) :
    argument? skips (braced text ++ rest) = some (⟨text, true⟩, rest) := by
  have start : (braced text ++ rest).dropWhile skips = braced text ++ rest := by
    simp [braced, stops]
  rw [argument?, start, group?_braced balanced]

theorem argumentOr_braced {text : List Char} (balanced : Balanced text) {skips : Char → Bool}
    (stops : skips '{' = false) (rest : List Char) :
    argumentOr skips (braced text ++ rest) = (some ⟨text, true⟩, rest) := by
  rw [argumentOr, argument?_braced balanced stops]

/-- What may follow a name without becoming part of the command. -/
def EndsName (rest : List Char) : Prop :=
  ∀ c later, rest = c :: later → c.isAlpha = false ∧ c ≠ '*'

theorem endsName_braced (text rest : List Char) : EndsName (braced text ++ rest) := by
  rintro c later same
  obtain rfl : '{' = c := (List.cons.inj same).1
  decide

theorem endsName_commandText (name : String) (rest : List Char) : EndsName (commandText name ++ rest) := by
  rintro c later same
  obtain rfl : '\\' = c := (List.cons.inj same).1
  decide

theorem command?_commandText {name : String} (named : Named name) {rest : List Char} (ends : EndsName rest) :
    command? (commandText name ++ rest) = some ⟨name, commandText name ++ rest, rest⟩ := by
  obtain ⟨shown, alphabetic⟩ := named
  have letters : ∀ c ∈ name.toList, c.isAlpha := List.all_eq_true.mp alphabetic
  have noName : name.toList ≠ [] := fun none => shown (String.toList_eq_nil_iff.mp none)
  have first : rest.takeWhile Char.isAlpha = [] ∧ rest.dropWhile Char.isAlpha = rest := by
    cases rest with
    | nil => exact ⟨rfl, rfl⟩
    | cons c later =>
      have other := (ends c later rfl).1
      exact ⟨List.takeWhile_cons_of_neg (by simp [other]), List.dropWhile_cons_of_neg (by simp [other])⟩
  have taken : (name.toList ++ rest).takeWhile Char.isAlpha = name.toList := by
    rw [List.takeWhile_append_of_pos letters, first.1, List.append_nil]
  have dropped : (name.toList ++ rest).dropWhile Char.isAlpha = rest := by
    rw [List.dropWhile_append_of_pos letters, first.2]
  have star : expect? ['*'] rest = none := by
    cases rest with
    | nil => rfl
    | cons c later =>
      rw [expect?, if_neg]
      exact fun same => (ends c later rfl).2 same.symm
  unfold commandText command?
  simp only [List.cons_append, taken, dropped, star]
  cases spelled : name.toList with
  | nil => exact absurd spelled noName
  | cons c later => simp [← spelled]

theorem nextCommand?_commandText {name : String} (named : Named name) {rest : List Char} (ends : EndsName rest) :
    nextCommand? (commandText name ++ rest) = some ⟨name, commandText name ++ rest, rest⟩ := by
  rw [nextCommand?_here rfl]
  · exact command?_commandText named ends
  · exact fun _ group => absurd group (by simp [commandText])

theorem nextCommand?_braced {text : List Char} (balanced : Balanced text) (rest : List Char) :
    nextCommand? (braced text ++ rest) = nextCommand? rest := by
  have closing : closingBrace? 0 (text ++ '}' :: rest) = some rest := balanced 0 ('}' :: rest)
  have opening : braced text ++ rest = '{' :: (text ++ '}' :: rest) := by simp [braced]
  rw [opening]
  exact nextCommand?_group rfl closing

end Vitae.Markup
