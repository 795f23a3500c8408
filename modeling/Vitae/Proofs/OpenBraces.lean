import Vitae.Proofs.ReadingSteps

/-! Braces that are never closed. A reader of markup either leaves such a brace to the text behind what it
read or runs into it and reads to the end. -/

namespace Vitae.Markup

/-- How many groups are open at the end of a text that begins inside `depth` of them. -/
def openBraces (depth : Nat) : List Char → Nat
  | [] => depth
  | '\\' :: [] => depth
  | '\\' :: _ :: rest => openBraces depth rest
  | '{' :: rest => openBraces (depth + 1) rest
  | '}' :: rest => openBraces (depth - 1) rest
  | _ :: rest => openBraces depth rest

/-- Some brace that is not escaped opens a group without an end. -/
def Unclosed (text : List Char) : Prop :=
  0 < openBraces 0 text

instance (text : List Char) : Decidable (Unclosed text) :=
  inferInstanceAs (Decidable (_ < _))

/-- The brace is still ahead, or nothing is. -/
def Ahead (text : List Char) : Prop :=
  text = [] ∨ Unclosed text

theorem not_unclosed_nil : ¬ Unclosed [] :=
  Nat.lt_irrefl 0

theorem Unclosed.ahead {text : List Char} (unclosed : Unclosed text) : Ahead text :=
  .inr unclosed

private theorem openBraces_cons {c : Char} (noSlash : c ≠ '\\') (noOpening : c ≠ '{') (noClosing : c ≠ '}')
    (depth : Nat) (rest : List Char) : openBraces depth (c :: rest) = openBraces depth rest := by
  rw [openBraces]
  all_goals simp_all

/-- A closing brace outside all groups closes nothing. -/
theorem Unclosed.tail {c : Char} {rest : List Char} (noSlash : c ≠ '\\') (noOpening : c ≠ '{')
    (unclosed : Unclosed (c :: rest)) : Unclosed rest := by
  by_cases closing : c = '}'
  · subst closing
    exact unclosed
  · rwa [Unclosed, openBraces_cons noSlash noOpening closing] at unclosed

theorem Unclosed.dropWhile {drops : Char → Bool} (noSlash : drops '\\' = false) (noOpening : drops '{' = false)
    {text : List Char} (unclosed : Unclosed text) : Unclosed (text.dropWhile drops) := by
  induction text with
  | nil => exact unclosed
  | cons c rest ih =>
    by_cases dropped : drops c
    · rw [List.dropWhile_cons_of_pos dropped]
      refine ih (unclosed.tail ?_ ?_)
      · rintro rfl
        exact absurd dropped (by simp [noSlash])
      · rintro rfl
        exact absurd dropped (by simp [noOpening])
    · rwa [List.dropWhile_cons_of_neg dropped]

private theorem openBraces_of_closingBrace? {depth : Nat} {text after : List Char}
    (found : closingBrace? depth text = some after)
    (outside : Nat) : openBraces (depth + 1 + outside) text = openBraces outside after := by
  fun_induction closingBrace? depth text with
  | case1 | case2 => contradiction
  | case3 depth c rest ih => exact ih found
  | case4 depth rest ih =>
    rw [← ih found, openBraces]
    congr 1
    omega
  | case5 rest =>
    obtain rfl := Option.some.inj found
    rw [openBraces]
    congr 1
    omega
  | case6 rest depth ih =>
    rw [← ih found, openBraces]
    congr 1
    omega
  | case7 depth c rest noEnd noSlash noOpening noClosing ih =>
    rw [← ih found, openBraces]
    all_goals simp_all

/-- An option is read outside all groups, and the groups in it are closed. -/
theorem openBraces_of_closingBracket? {depth : Nat} {text after : List Char}
    (found : closingBracket? depth text = some after) : openBraces depth text = openBraces 0 after := by
  fun_induction closingBracket? depth text with
  | case1 | case2 => contradiction
  | case3 depth c rest ih => exact ih found
  | case4 depth rest ih => exact ih found
  | case5 depth rest ih => exact ih found
  | case6 rest =>
    obtain rfl := Option.some.inj found
    rfl
  | case7 depth rest _ ih => exact ih found
  | case8 depth c rest noEnd noSlash noOpening noClosing _ ih =>
    rw [← ih found, openBraces]
    all_goals simp_all

section readers

/-- The brace is behind the part that has been read, or the part runs into it. -/
def Met (part : Enclosed) (after : List Char) : Prop :=
  Unclosed after ∨ part.closed = false ∧ after = []

theorem Met.ahead {part : Enclosed} {after : List Char} (met : Met part after) : Ahead after :=
  met.elim .inr fun ran => .inl ran.2

variable {text after : List Char} (unclosed : Unclosed text)
include unclosed

theorem met_group? {group : Enclosed} (found : group? text = some (group, after)) : Met group after := by
  unfold group? at found
  split at found
  next rest =>
    split at found
    next later closing =>
      obtain ⟨rfl, rfl⟩ := Prod.mk.inj (Option.some.inj found)
      have same : openBraces 1 rest = openBraces 0 later := openBraces_of_closingBrace? closing 0
      left
      rwa [Unclosed, openBraces, same] at unclosed
    next =>
      obtain ⟨rfl, rfl⟩ := Prod.mk.inj (Option.some.inj found)
      exact .inr ⟨rfl, rfl⟩
  next => contradiction

theorem met_argument? {skips : Char → Bool} (noSlash : skips '\\' = false) (noOpening : skips '{' = false)
    {group : Enclosed} (found : argument? skips text = some (group, after)) : Met group after :=
  met_group? (unclosed.dropWhile noSlash noOpening) found

private theorem unclosed_option? {inner : List Char} (found : option? text = some (inner, after)) : Unclosed after := by
  have blanks : Unclosed (dropBlanks text) := unclosed.dropWhile (by decide) (by decide)
  unfold option? at found
  split at found
  next rest same =>
    rw [same] at blanks
    simp only [Option.map_eq_some_iff, Prod.mk.injEq] at found
    obtain ⟨later, closing, -, rfl⟩ := found
    have inside := blanks.tail (by decide) (by decide)
    rwa [Unclosed, openBraces_of_closingBracket? closing] at inside
  next => contradiction

theorem unclosed_skipOption : Unclosed (skipOption text) := by
  unfold skipOption
  cases found : option? text with
  | none => exact unclosed
  | some pair => exact unclosed_option? unclosed found

theorem unclosed_command? {command : Command} (found : command? text = some command) : Unclosed command.rest := by
  unfold command? at found
  split at found
  next rest =>
    split at found
    next short =>
      split at found
      next => exact absurd unclosed (by decide)
      next c later =>
        obtain rfl := Option.some.inj found
        exact unclosed
    next letters =>
      obtain rfl := Option.some.inj found
      cases rest with
      | nil => exact absurd rfl letters
      | cons c later =>
        have first : c.isAlpha := by
          refine Decidable.byContradiction fun other => letters ?_
          exact List.takeWhile_cons_of_neg other
        have inside : Unclosed later := unclosed
        have behind : Unclosed ((c :: later).dropWhile Char.isAlpha) := by
          rw [List.dropWhile_cons_of_pos first]
          exact inside.dropWhile (by decide) (by decide)
        cases star : expect? ['*'] ((c :: later).dropWhile Char.isAlpha) with
        | none => exact behind
        | some starred =>
          rw [expect?_eq_some_iff.mp star] at behind
          exact behind.tail (by decide) (by decide)
  next => contradiction

end readers

/-- Where steps lead, the brace is still ahead: a group that is passed over is closed. -/
theorem Ahead.leadsTo {text after : List Char} (ahead : Ahead text) (leads : LeadsTo text after) : Ahead after := by
  induction leads with
  | here => exact ahead
  | stop => exact .inl rfl
  | char noSlash noOpening _ ih => exact ih ((ahead.resolve_left (by simp)).tail noSlash noOpening).ahead
  | escape c _ ih => exact ih (.inr (ahead.resolve_left (by simp)))
  | @group rest later after closes _ ih =>
    have unclosed : Unclosed ('{' :: rest) := ahead.resolve_left (by simp)
    have skipped : openBraces 1 rest = openBraces 0 later := openBraces_of_closingBrace? closes 0
    exact ih (.inr (by rwa [Unclosed, openBraces, skipped] at unclosed))

end Vitae.Markup
