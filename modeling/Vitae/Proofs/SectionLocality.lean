import Vitae.Proofs.SealedConstruct
import Vitae.Proofs.UnclosedGroup

/-! Sections are local. What stands before a section command is read as if nothing followed, and the section as if
nothing stood before it, unless the text in front reaches over its own end or is warned about. -/

namespace Vitae.Markup

/-- The depth of braces at the end of a text that begins inside `level` groups, none where it falls below zero. -/
def braceLevel? (level : Nat) : List Char → Option Nat
  | [] => some level
  | '\\' :: [] => some level
  | '\\' :: _ :: rest => braceLevel? level rest
  | '{' :: rest => braceLevel? (level + 1) rest
  | '}' :: rest =>
    match level with
    | 0 => none
    | level + 1 => braceLevel? level rest
  | _ :: rest => braceLevel? level rest

/-- Holds where the last character is a backslash that is not escaped itself. -/
def endsInEscape : List Char → Bool
  | [] => false
  | '\\' :: [] => true
  | '\\' :: _ :: rest => endsInEscape rest
  | _ :: rest => endsInEscape rest

/-- The brackets that are not escaped, each with the depth of braces it stands at. -/
def brackets (level : Nat) : List Char → List (Char × Nat)
  | [] => []
  | '\\' :: [] => []
  | '\\' :: _ :: rest => brackets level rest
  | '{' :: rest => brackets (level + 1) rest
  | '}' :: rest => brackets (level - 1) rest
  | '[' :: rest => ('[', level) :: brackets level rest
  | ']' :: rest => (']', level) :: brackets level rest
  | _ :: rest => brackets level rest

/-- Every opening bracket has a closing one behind it at its depth. -/
def BracketsClose : List (Char × Nat) → Prop
  | [] => True
  | (bracket, level) :: later => (bracket = '[' → (']', level) ∈ later) ∧ BracketsClose later

instance : (marks : List (Char × Nat)) → Decidable (BracketsClose marks)
  | [] => inferInstanceAs (Decidable True)
  | (_, _) :: later =>
    have := instDecidableBracketsClose later
    inferInstanceAs (Decidable (_ ∧ _))

/-- Text that reaches over its end in no way: its braces are balanced, its brackets close at the depth they open at,
and it does not end in a backslash. -/
structure SelfContained (text : List Char) : Prop where
  balanced : braceLevel? 0 text = some 0
  complete : text.getLast? ≠ some '\\'
  bracketed : BracketsClose (brackets 0 text)

instance (text : List Char) : Decidable (SelfContained text) :=
  decidable_of_iff (braceLevel? 0 text = some 0 ∧ text.getLast? ≠ some '\\' ∧ BracketsClose (brackets 0 text))
    ⟨fun ⟨balanced, complete, bracketed⟩ => ⟨balanced, complete, bracketed⟩,
      fun contained => ⟨contained.balanced, contained.complete, contained.bracketed⟩⟩

section contained

variable {c : Char} {level : Nat} {text rest after : List Char}

theorem braceLevel?_cons (noSlash : c ≠ '\\') (noOpening : c ≠ '{') (noClosing : c ≠ '}') :
    braceLevel? level (c :: rest) = braceLevel? level rest := by
  rw [braceLevel?]
  all_goals simp_all

theorem endsInEscape_cons (noSlash : c ≠ '\\') : endsInEscape (c :: rest) = endsInEscape rest := by
  rw [endsInEscape]
  all_goals simp_all

theorem not_endsInEscape (complete : text.getLast? ≠ some '\\') : endsInEscape text = false := by
  have later (first : List Char) {text : List Char} (complete : (first ++ text).getLast? ≠ some '\\') :
      text.getLast? ≠ some '\\' := by
    intro last
    exact complete (by rw [List.getLast?_append, last, Option.some_or])
  fun_induction endsInEscape text with
  | case1 => rfl
  | case2 => exact absurd rfl complete
  | case3 c rest ih => exact ih (later ['\\', c] complete)
  | case4 c rest _ _ ih => exact ih (later [c] complete)

/-- Over text that reaches a level, the level it reaches stands for it in the count of groups. -/
theorem closingBrace?_of_braceLevel? {out : Nat} (found : braceLevel? level text = some out)
    (complete : endsInEscape text = false) (depth : Nat) (rest : List Char) :
    closingBrace? (level + depth) (text ++ rest) = closingBrace? (out + depth) rest := by
  fun_induction braceLevel? level text with
  | case1 level =>
    obtain rfl := Option.some.inj found
    rfl
  | case2 => contradiction
  | case3 level c text ih => exact ih found complete
  | case4 level text ih =>
    have inside := ih found complete
    rw [Nat.add_right_comm] at inside
    exact inside
  | case5 => contradiction
  | case6 text level ih =>
    have outside := ih found complete
    rw [Nat.succ_add]
    exact outside
  | case7 level c text noEnd noEscape noOpening noClosing ih =>
    have noSlash := ne_slash noEnd noEscape
    have behind := ih found (endsInEscape_cons noSlash ▸ complete)
    rw [List.cons_append, closingBrace?_cons noSlash noOpening noClosing, behind]

private theorem brackets_suffix_cons (noSlash : c ≠ '\\') (noOpening : c ≠ '{') (noClosing : c ≠ '}') :
    brackets level rest <:+ brackets level (c :: rest) := by
  rw [brackets.eq_def level (c :: rest)]
  split <;> simp_all

theorem exists_closingBrace? (balanced : braceLevel? (level + 1) text = some 0) :
    ∃ after, closingBrace? level text = some after ∧ braceLevel? 0 after = some 0 := by
  fun_induction closingBrace? level text with
  | case1 | case2 => simp [braceLevel?] at balanced
  | case3 _ _ _ ih => exact ih balanced
  | case4 _ _ ih => exact ih balanced
  | case5 rest => exact ⟨rest, rfl, balanced⟩
  | case6 _ _ ih => exact ih balanced
  | case7 depth c rest noEnd noEscape noOpening noClosing ih =>
    exact ih ((braceLevel?_cons (ne_slash noEnd noEscape) noOpening noClosing).symm.trans balanced)

/-- The brackets behind a group are the last of those from inside it on. -/
theorem brackets_of_closingBrace? (found : closingBrace? level text = some after) :
    brackets 0 after <:+ brackets (level + 1) text := by
  fun_induction closingBrace? level text with
  | case1 | case2 => contradiction
  | case3 _ _ _ ih => exact ih found
  | case4 _ _ ih => exact ih found
  | case5 rest =>
    obtain rfl := Option.some.inj found
    exact List.suffix_rfl
  | case6 _ _ ih => exact ih found
  | case7 depth c rest noEnd noEscape noOpening noClosing ih =>
    exact (ih found).trans (brackets_suffix_cons (ne_slash noEnd noEscape) noOpening noClosing)

private theorem closingBracket?_isSome
    (closes : (']', 0) ∈ brackets level text) : (closingBracket? level text).isSome = true := by
  fun_induction closingBracket? level text with
  | case1 | case2 => simp [brackets] at closes
  | case3 _ _ _ ih => exact ih closes
  | case4 _ _ ih => exact ih closes
  | case5 _ _ ih => exact ih closes
  | case6 => rfl
  | case7 depth rest inside ih =>
    rw [brackets, List.mem_cons] at closes
    rcases closes with same | later
    · exact absurd (Prod.mk.inj same).2.symm inside
    · exact ih later
  | case8 depth c rest noEnd noEscape noOpening noClosing noBracket ih =>
    refine ih ?_
    rw [brackets.eq_def] at closes
    split at closes <;> simp_all

theorem BracketsClose.suffix {later marks : List (Char × Nat)} (close : BracketsClose marks) (behind : later <:+ marks) :
    BracketsClose later := by
  obtain ⟨before, rfl⟩ := behind
  induction before with
  | nil => exact close
  | cons mark before ih => exact ih close.2

theorem SelfContained.suffix (contained : SelfContained text) (balanced : braceLevel? 0 after = some 0)
    (behind : after <:+ text) (bracketed : brackets 0 after <:+ brackets 0 text) : SelfContained after := by
  refine ⟨balanced, fun last => ?_, contained.bracketed.suffix bracketed⟩
  obtain ⟨before, rfl⟩ := behind
  refine contained.complete ?_
  rw [List.getLast?_append, last]
  rfl

theorem SelfContained.tail (contained : SelfContained (c :: rest)) (noSlash : c ≠ '\\') (noOpening : c ≠ '{')
    (noClosing : c ≠ '}') : SelfContained rest := by
  refine contained.suffix ?_ (List.suffix_cons _ _) (brackets_suffix_cons noSlash noOpening noClosing)
  rw [← contained.balanced, braceLevel?_cons noSlash noOpening noClosing]

end contained

private theorem SelfContained.isSealed {text : List Char} (contained : SelfContained text) : Sealed text := by
  match text with
  | [] => exact .nil
  | c :: rest =>
    by_cases slash : c = '\\'
    · subst slash
      cases rest with
      | nil => exact absurd rfl contained.complete
      | cons d later =>
        have behind : SelfContained later := contained.suffix contained.balanced ⟨['\\', d], rfl⟩ List.suffix_rfl
        exact .escaped d behind.isSealed
    by_cases opening : c = '{'
    -- A group is passed as a whole, so the recursion is on the length of what is left.
    · subst opening
      obtain ⟨after, closes, balanced⟩ := exists_closingBrace? contained.balanced
      have shorter := length_closingBrace? closes
      obtain ⟨inner, same, -⟩ := exists_of_closingBrace? closes
      have behind := contained.suffix balanced ⟨'{' :: inner, by simp [same]⟩ (brackets_of_closingBrace? closes)
      exact .group closes behind.isSealed
    by_cases closing : c = '}'
    · subst closing
      exact absurd contained.balanced (by simp [braceLevel?])
    have behind := contained.tail slash opening closing
    by_cases bracket : c = '['
    · subst bracket
      exact .bracket (closingBracket?_isSome (contained.bracketed.1 rfl)) behind.isSealed
    · exact .other slash opening closing bracket behind.isSealed
termination_by text.length

end Vitae.Markup

namespace Vitae.Transpile

open Markup

variable {options : TranspileOptions} {levels : Nat}

private theorem pure_of_quiet {α : Type} {noted : Noted α} (quiet : noted.warnings = []) :
    noted = pure noted.value := by
  cases noted
  subst quiet
  rfl

private theorem parts_append {text tail : List Char} (whole : Sealed text) (opens : OpensSection tail)
    (quiet : (parts options levels true text).warnings = []) :
    parts options levels true (text ++ tail) =
      ((parts options levels true text).value ++ ·) <$> parts options levels true tail := by
  match text with
  | [] => simp
  | c :: rest =>
    rw [warnings_parts_cons, List.append_eq_nil_iff] at quiet
    obtain ⟨here, later⟩ := quiet
    have shorter := length_construct_le true c rest
    rcases stays_construct opens whole with told | ⟨behind, same⟩
    · exact absurd here (warnings_of_reports options _ told)
    · have others := parts_append behind opens later
      rw [List.cons_append, parts_of_construct options levels true same (pure_of_quiet here), others, parts_cons]
      simp
termination_by text.length

private theorem parts_opensSection {tail : List Char} (opens : OpensSection tail) :
    ∃ title later, (parts options levels true tail).value = .heading title :: later := by
  obtain ⟨rest, rfl⟩ := opens.slash
  obtain ⟨command, read, named⟩ := opens
  have shape : (construct true '\\' rest).1 = .heading (argumentOr Text.isInlineSpace command.rest).1 := by
    rw [construct, if_pos rfl, read]
    simp only [named]
    rfl
  rw [parts_cons, shape]
  cases (argumentOr Text.isInlineSpace command.rest).1 <;> exact ⟨_, _, rfl⟩

end Vitae.Transpile

namespace Vitae

open Markup Transpile

/-- A section behind markup that is complete in itself and without warnings changes nothing in front of it, and is
transpiled as it is alone. -/
theorem transpile_append_section (options : TranspileOptions) {before after : String}
    (contained : SelfContained before.toList) (quiet : (transpile options before).warnings = [])
    (opens : OpensSection after.toList) :
    transpile options (before ++ after) =
      ⟨(transpile options before).tree ++ (transpile options after).tree, (transpile options after).warnings⟩ := by
  have none : (parts options options.maxDepth true before.toList).warnings = [] := by
    simpa [transpile, sequence_succ] using quiet
  have whole := parts_append contained.isSealed opens none
  obtain ⟨title, later, start⟩ : ∃ title later,
      (parts options options.maxDepth true after.toList).value = .heading title :: later := parts_opensSection opens
  simp only [transpile, sequence_succ, String.toList_append, whole, Noted.value_map, Noted.warnings_map, start,
    arrange_append]

/-- A list in front of a section with a group that never ends. -/
theorem transpile_append_unclosedGroup :
    SelfContained "\\begin\x7bitemize\x7d\\item[a] Lean\\end\x7bitemize\x7d".toList ∧
      OpensSection "\\section*\x7bHobbies\x7d \x7bchess".toList ∧
      (transpile {} ("\\begin\x7bitemize\x7d\\item[a] Lean\\end\x7bitemize\x7d" ++
        "\\section*\x7bHobbies\x7d \x7bchess")).warnings = ["unterminated group runs to end of input"] := by
  have contained : SelfContained "\\begin\x7bitemize\x7d\\item[a] Lean\\end\x7bitemize\x7d".toList := by decide
  have opens : OpensSection "\\section*\x7bHobbies\x7d \x7bchess".toList := ⟨_, rfl, by decide⟩
  have quiet : (transpile {} "\\begin\x7bitemize\x7d\\item[a] Lean\\end\x7bitemize\x7d").warnings = [] := by
    decide +kernel
  refine ⟨contained, opens, ?_⟩
  rw [transpile_append_section {} contained quiet opens]
  decide +kernel

end Vitae
