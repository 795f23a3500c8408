import Vitae.Markup.Normal

/-! Blank lines. Counting them does not depend on where the count begins, and collapsing them once leaves
fewer than two behind every line, which collapsing keeps. -/

namespace Vitae.Markup

private theorem length_rest_lt {text rest : List Char} (line : dropBlanks text = '\n' :: rest) :
    rest.length < text.length := by
  have shorter := length_dropBlanks_le text
  rw [line] at shorter
  exact shorter

private theorem blankLines_eq (count : Nat) (text : List Char) :
    blankLines count text = (count + (blankLines 0 text).1, (blankLines 0 text).2) := by
  rw [blankLines.eq_def count text, blankLines.eq_def 0 text]
  split
  · rename_i rest found
    have shorter := length_rest_lt found
    rw [blankLines_eq (count + 1) rest, blankLines_eq (0 + 1) rest]
    simp only [Prod.mk.injEq, and_true]
    omega
  · rfl
termination_by text.length
decreasing_by all_goals exact shorter

/-- How many blank lines a text begins with. -/
def blankCount (text : List Char) : Nat :=
  (blankLines 0 text).1

/-- The text behind those blank lines. -/
def behindBlank (text : List Char) : List Char :=
  (blankLines 0 text).2

private theorem blankLines_newline {text rest : List Char} (line : dropBlanks text = '\n' :: rest) :
    blankCount text = blankCount rest + 1 ∧ behindBlank text = behindBlank rest := by
  unfold blankCount behindBlank
  rw [blankLines.eq_def 0 text]
  split
  next later same =>
    obtain rfl : later = rest := (List.cons.inj (same.symm.trans line)).2
    rw [blankLines_eq]
    exact ⟨by simp only; omega, rfl⟩
  next other => exact absurd line (other rest)

private theorem blankLines_other {text : List Char} (line : ∀ rest, dropBlanks text ≠ '\n' :: rest) :
    blankCount text = 0 ∧ behindBlank text = text := by
  unfold blankCount behindBlank
  rw [blankLines.eq_def]
  split
  next rest same => exact absurd same (line rest)
  next => exact ⟨rfl, rfl⟩

/-- Blank lines end where a text begins that is none, right behind a line feed. -/
theorem behindBlank_spec (text : List Char) :
    blankCount (behindBlank text) = 0 ∧
      (behindBlank text = text ∨ ∃ gap, text = gap ++ '\n' :: behindBlank text) := by
  by_cases line : ∃ rest, dropBlanks text = '\n' :: rest
  · obtain ⟨rest, line⟩ := line
    have shorter := length_rest_lt line
    obtain ⟨blanks, whole⟩ := dropBlanks_suffix text
    rw [line] at whole
    obtain ⟨zero, place⟩ := behindBlank_spec rest
    rw [(blankLines_newline line).2]
    refine ⟨zero, .inr ?_⟩
    rcases place with same | ⟨gap, same⟩
    · exact ⟨blanks, by rw [same, whole]⟩
    · exact ⟨blanks ++ '\n' :: gap, by rw [← whole, List.append_assoc, List.cons_append, ← same]⟩
  · have other : ∀ rest, dropBlanks text ≠ '\n' :: rest := fun rest same => line ⟨rest, same⟩
    have same := blankLines_other other
    rw [same.2]
    exact ⟨same.1, .inl rfl⟩
termination_by text.length
decreasing_by exact shorter

theorem collapseBlankLines_newline (rest : List Char) :
    collapseBlankLines ('\n' :: rest) =
      if 2 ≤ blankCount rest then '\n' :: '\n' :: collapseBlankLines (behindBlank rest)
      else '\n' :: collapseBlankLines rest := by
  rw [collapseBlankLines]
  rfl

theorem collapseBlankLines_other {c : Char} (other : c ≠ '\n') (rest : List Char) :
    collapseBlankLines (c :: rest) = c :: collapseBlankLines rest := by
  rw [collapseBlankLines]
  exact fun same => other same

private theorem dropBlanks_collapseBlankLines (text : List Char) :
    dropBlanks (collapseBlankLines text) = collapseBlankLines (dropBlanks text) := by
  induction text with
  | nil => simp [collapseBlankLines, dropBlanks]
  | cons c rest ih =>
    by_cases line : c = '\n'
    · subst line
      have kept : dropBlanks ('\n' :: rest) = '\n' :: rest := rfl
      rw [kept, collapseBlankLines_newline]
      split <;> rfl
    · rw [collapseBlankLines_other line]
      unfold dropBlanks at ih ⊢
      by_cases blank : Text.isInlineSpace c
      · rw [List.dropWhile_cons_of_pos blank, List.dropWhile_cons_of_pos blank, ih]
      · rw [List.dropWhile_cons_of_neg blank, List.dropWhile_cons_of_neg blank, collapseBlankLines_other line]

/-- Where fewer than two blank lines begin a text they stay. -/
theorem blankCount_collapseBlankLines {text : List Char} (few : blankCount text < 2) :
    blankCount (collapseBlankLines text) = blankCount text := by
  have none {text : List Char} (other : ∀ rest, dropBlanks text ≠ '\n' :: rest) :
      ∀ rest, dropBlanks (collapseBlankLines text) ≠ '\n' :: rest := by
    intro rest same
    rw [dropBlanks_collapseBlankLines] at same
    cases shown : dropBlanks text with
    | nil => simp [shown, collapseBlankLines] at same
    | cons c later =>
      have line : c ≠ '\n' := fun line => other later (line ▸ shown)
      rw [shown, collapseBlankLines_other line] at same
      exact line (List.cons.inj same).1
  by_cases line : ∃ rest, dropBlanks text = '\n' :: rest
  · obtain ⟨rest, line⟩ := line
    have last : blankCount rest = 0 := by
      have more := (blankLines_newline line).1
      omega
    have otherRest : ∀ later, dropBlanks rest ≠ '\n' :: later := by
      intro later same
      have more := (blankLines_newline same).1
      omega
    have collapsed : dropBlanks (collapseBlankLines text) = '\n' :: collapseBlankLines rest := by
      rw [dropBlanks_collapseBlankLines, line, collapseBlankLines_newline, if_neg (by omega)]
    rw [(blankLines_newline line).1, (blankLines_newline collapsed).1, last, (blankLines_other (none otherRest)).1]
  · have other : ∀ rest, dropBlanks text ≠ '\n' :: rest := fun rest same => line ⟨rest, same⟩
    rw [(blankLines_other other).1, (blankLines_other (none other)).1]

/-- Behind every line feed of a collapsed text there are fewer than two blank lines. -/
theorem blankCount_collapsed {text rest : List Char} (place : '\n' :: rest <:+ collapseBlankLines text) :
    blankCount rest < 2 := by
  fun_induction collapseBlankLines text with
  | case1 => simp at place
  | case2 text many ih =>
    have none : blankCount (collapseBlankLines (behindBlank text)) = 0 := by
      have zero := (behindBlank_spec text).1
      rw [blankCount_collapseBlankLines (by omega), zero]
    change '\n' :: rest <:+ '\n' :: '\n' :: collapseBlankLines (behindBlank text) at place
    rcases List.suffix_cons_iff.mp place with same | place
    · obtain rfl := (List.cons.inj same).2
      have line : dropBlanks ('\n' :: collapseBlankLines (behindBlank text)) =
          '\n' :: collapseBlankLines (behindBlank text) := rfl
      rw [(blankLines_newline line).1, none]
      decide
    · rcases List.suffix_cons_iff.mp place with same | place
      · obtain rfl := (List.cons.inj same).2
        omega
      · exact ih place
  | case3 text few ih =>
    rcases List.suffix_cons_iff.mp place with same | place
    · obtain rfl := (List.cons.inj same).2
      have few : blankCount text < 2 := Nat.lt_of_not_le few
      rwa [blankCount_collapseBlankLines few]
    · exact ih place
  | case4 c text other ih =>
    rcases List.suffix_cons_iff.mp place with same | place
    · exact absurd (List.cons.inj same).1.symm other
    · exact ih place

private theorem collapseBlankLines_eq_self {text : List Char}
    (few : ∀ rest, '\n' :: rest <:+ text → blankCount rest < 2) : collapseBlankLines text = text := by
  induction text with
  | nil => simp [collapseBlankLines]
  | cons c rest ih =>
    have later : collapseBlankLines rest = rest := ih fun later place => few later (place.trans (List.suffix_cons c rest))
    by_cases line : c = '\n'
    · subst line
      have here := few rest (List.suffix_refl _)
      rw [collapseBlankLines_newline, if_neg (by omega), later]
    · rw [collapseBlankLines_other line, later]

theorem collapseBlankLines_idempotent (text : List Char) :
    collapseBlankLines (collapseBlankLines text) = collapseBlankLines text :=
  collapseBlankLines_eq_self fun _ place => blankCount_collapsed place

section counts

variable {c : Char} (visible : Text.isInlineSpace c = false) (line : c ≠ '\n')
include visible line

private theorem count_behindBlank (text : List Char) : (behindBlank text).count c = text.count c := by
  have blanks (text : List Char) : (dropBlanks text).count c = text.count c := by
    unfold dropBlanks
    induction text with
    | nil => rfl
    | cons d rest ih =>
      rw [List.dropWhile_cons]
      split
      next blank =>
        have other : d ≠ c := by
          rintro rfl
          simp [visible] at blank
        rw [ih, List.count_cons_of_ne other]
      next => rfl
  unfold behindBlank
  fun_induction blankLines 0 text with
  | case1 count text rest found ih => rw [ih, ← blanks text, found, List.count_cons_of_ne line.symm]
  | case2 => rfl

theorem count_collapseBlankLines (text : List Char) : (collapseBlankLines text).count c = text.count c := by
  have newline (rest : List Char) : ('\n' :: rest).count c = rest.count c := List.count_cons_of_ne line.symm
  fun_induction collapseBlankLines text with
  | case1 => rfl
  | case2 rest many ih =>
    rw [newline, newline, newline]
    exact ih.trans (count_behindBlank visible line rest)
  | case3 rest few ih => rw [newline, newline, ih]
  | case4 d rest _ ih => rw [List.count_cons, List.count_cons, ih]

end counts

private theorem blankCount_line {blanks : List Char} (blank : ∀ c ∈ blanks, Text.isInlineSpace c) (rest : List Char) :
    blankCount (blanks ++ '\n' :: rest) = blankCount rest + 1 := by
  have line : dropBlanks (blanks ++ '\n' :: rest) = '\n' :: rest := by
    rw [dropBlanks, List.dropWhile_append_of_pos blank]
    rfl
  exact (blankLines_newline line).1

/-- Holds where three line feeds stand with nothing but spaces and tabs between them. -/
def HasBlankLines (text : List Char) : Prop :=
  ∃ first second, (∀ c ∈ first, Text.isInlineSpace c) ∧ (∀ c ∈ second, Text.isInlineSpace c) ∧
    '\n' :: (first ++ '\n' :: (second ++ ['\n'])) <:+: text

theorem not_hasBlankLines_collapseBlankLines (text : List Char) : ¬ HasBlankLines (collapseBlankLines text) := by
  rintro ⟨first, second, blank, blanks, before, after, whole⟩
  have place : '\n' :: (first ++ '\n' :: (second ++ '\n' :: after)) <:+ collapseBlankLines text :=
    ⟨before, by rw [← whole]; simp⟩
  have fewer := blankCount_collapsed place
  rw [blankCount_line blank, blankCount_line blanks] at fewer
  omega

end Vitae.Markup
