import Vitae.Proofs.ItemList
import Vitae.Proofs.ReadingSteps

/-! Text whose groups and escapes end in it. With a command behind it, a reader that looks for groups and commands takes
from such text what it takes from it alone, and where steps lead over a text, what they have passed is such text. -/

namespace Vitae.Markup

/-- Text outside all groups in which no group and no escape reaches beyond the end. -/
inductive Whole : List Char → Prop
  | nil : Whole []
  | escaped (c : Char) {rest : List Char} (behind : Whole rest) : Whole ('\\' :: c :: rest)
  | group {rest after : List Char} (closes : closingBrace? 0 rest = some after) (behind : Whole after) :
      Whole ('{' :: rest)
  | other {c : Char} {rest : List Char} (noSlash : c ≠ '\\') (noOpening : c ≠ '{') (behind : Whole rest) :
      Whole (c :: rest)

/-- A text that begins with a command. -/
def OpensCommand (text : List Char) : Prop :=
  ∃ rest, text = '\\' :: rest

section results

variable {α : Type} (tail : List Char)

/-- What was read, with a tail behind the text that remains. -/
def withTail (read : α × List Char) : α × List Char :=
  (read.1, read.2 ++ tail)

def Command.withTail (command : Command) : Command :=
  ⟨command.name, command.start ++ tail, command.rest ++ tail⟩

end results

theorem Whole.tail {c : Char} {rest : List Char} (whole : Whole (c :: rest)) (noSlash : c ≠ '\\')
    (noOpening : c ≠ '{') : Whole rest := by
  cases whole with
  | escaped => exact absurd rfl noSlash
  | group => exact absurd rfl noOpening
  | other _ _ behind => exact behind

theorem Whole.closes {rest : List Char} (whole : Whole ('{' :: rest)) : ∃ after, closingBrace? 0 rest = some after := by
  cases whole with
  | group closes => exact ⟨_, closes⟩
  | other _ noOpening => exact absurd rfl noOpening

theorem Whole.behind {rest after : List Char} (whole : Whole ('{' :: rest)) (closes : closingBrace? 0 rest = some after) :
    Whole after := by
  cases whole with
  | group same behind =>
    obtain rfl := Option.some.inj (same.symm.trans closes)
    exact behind
  | other _ noOpening => exact absurd rfl noOpening

/-- Where steps lead, whole text stays whole. -/
theorem Whole.leadsTo {text after : List Char} (whole : Whole text) (leads : LeadsTo text after) : Whole after := by
  induction leads with
  | here => exact whole
  | stop => exact .nil
  | char noSlash noOpening _ ih => exact ih (whole.tail noSlash noOpening)
  | escape c _ ih =>
    cases whole with
    | escaped _ behind => exact ih behind
    | other noSlash => exact absurd rfl noSlash
  | group closes _ ih => exact ih (whole.behind closes)

theorem Whole.dropWhile {drops : Char → Bool} (noSlash : drops '\\' = false) (noOpening : drops '{' = false)
    {text : List Char} (whole : Whole text) : Whole (text.dropWhile drops) :=
  whole.leadsTo (leadsTo_dropWhile noSlash noOpening text)

section closing

variable {depth : Nat} {text after : List Char}

/-- A closing brace is found by what stands in front of it, whatever follows. -/
theorem exists_of_closingBrace? (found : closingBrace? depth text = some after) :
    ∃ inner, text = inner ++ after ∧ ∀ other, closingBrace? depth (inner ++ other) = some other := by
  fun_induction closingBrace? depth text with
  | case1 | case2 => contradiction
  | case3 _ c _ ih =>
    obtain ⟨inner, rfl, same⟩ := ih found
    exact ⟨'\\' :: c :: inner, rfl, same⟩
  | case4 _ _ ih =>
    obtain ⟨inner, rfl, same⟩ := ih found
    exact ⟨'{' :: inner, rfl, same⟩
  | case5 rest =>
    obtain rfl := Option.some.inj found
    exact ⟨['}'], rfl, fun _ => rfl⟩
  | case6 _ _ ih =>
    obtain ⟨inner, rfl, same⟩ := ih found
    exact ⟨'}' :: inner, rfl, same⟩
  | case7 depth c rest noEnd noEscape noOpening noClosing ih =>
    have noSlash := ne_slash noEnd noEscape
    obtain ⟨inner, rfl, same⟩ := ih found
    refine ⟨c :: inner, rfl, fun other => ?_⟩
    rw [List.cons_append, closingBrace?_cons noSlash noOpening noClosing, same]

private theorem closingBrace?_append (found : closingBrace? depth text = some after) (tail : List Char) :
    closingBrace? depth (text ++ tail) = some (after ++ tail) := by
  obtain ⟨inner, rfl, same⟩ := exists_of_closingBrace? found
  rw [List.append_assoc, same]

/-- A closing bracket is found by what stands in front of it, whatever follows. -/
theorem exists_of_closingBracket? (found : closingBracket? depth text = some after) :
    ∃ inner, text = inner ++ ']' :: after ∧ ∀ other, closingBracket? depth (inner ++ ']' :: other) = some other := by
  fun_induction closingBracket? depth text with
  | case1 | case2 => contradiction
  | case3 _ c _ ih =>
    obtain ⟨inner, rfl, same⟩ := ih found
    exact ⟨'\\' :: c :: inner, rfl, same⟩
  | case4 _ _ ih =>
    obtain ⟨inner, rfl, same⟩ := ih found
    exact ⟨'{' :: inner, rfl, same⟩
  | case5 _ _ ih =>
    obtain ⟨inner, rfl, same⟩ := ih found
    exact ⟨'}' :: inner, rfl, same⟩
  | case6 rest =>
    obtain rfl := Option.some.inj found
    exact ⟨[], rfl, fun _ => rfl⟩
  | case7 depth rest inside ih =>
    obtain ⟨inner, rfl, same⟩ := ih found
    refine ⟨']' :: inner, rfl, fun other => ?_⟩
    rw [List.cons_append, closingBracket?, if_neg inside, same]
  | case8 depth c rest noEnd noEscape noOpening noClosing noBracket ih =>
    have noSlash := ne_slash noEnd noEscape
    obtain ⟨inner, rfl, same⟩ := ih found
    refine ⟨c :: inner, rfl, fun other => ?_⟩
    rw [List.cons_append, closingBracket?_cons noSlash noOpening noClosing noBracket, same]

theorem closingBracket?_append (found : closingBracket? depth text = some after) (tail : List Char) :
    closingBracket? depth (text ++ tail) = some (after ++ tail) := by
  obtain ⟨inner, rfl, same⟩ := exists_of_closingBracket? found
  rw [List.append_assoc, List.cons_append, same]

end closing

/-- What steps pass before they end is whole. -/
theorem LeadsTo.exists_whole {text after : List Char} (leads : LeadsTo text after) (some : after ≠ []) :
    ∃ before, Whole before ∧ text = before ++ after := by
  induction leads with
  | here text => exact ⟨[], .nil, rfl⟩
  | stop => exact absurd rfl some
  | @char c rest after noSlash noOpening _ ih =>
    obtain ⟨before, whole, rfl⟩ := ih some
    exact ⟨c :: before, .other noSlash noOpening whole, rfl⟩
  | escape c _ ih =>
    obtain ⟨before, whole, rfl⟩ := ih some
    exact ⟨'\\' :: c :: before, .escaped c whole, rfl⟩
  | group closes _ ih =>
    obtain ⟨before, whole, rfl⟩ := ih some
    obtain ⟨inner, rfl, same⟩ := exists_of_closingBrace? closes
    exact ⟨'{' :: (inner ++ before), .group (same before) whole, by simp⟩

theorem LeadsTo.suffix {text after : List Char} (leads : LeadsTo text after) : after <:+ text := by
  by_cases nothing : after = []
  · exact nothing ▸ List.nil_suffix
  · obtain ⟨before, -, rfl⟩ := leads.exists_whole nothing
    exact List.suffix_append before after

section boundary

variable {tail : List Char} (opens : OpensCommand tail)
include opens

theorem dropWhile_append {drops : Char → Bool} (noSlash : drops '\\' = false) (text : List Char) :
    (text ++ tail).dropWhile drops = text.dropWhile drops ++ tail := by
  obtain ⟨rest, rfl⟩ := opens
  rw [List.dropWhile_append]
  split
  next nothing =>
    rw [List.isEmpty_iff.mp nothing, List.dropWhile_cons_of_neg (by simp [noSlash])]
    rfl
  next => rfl

theorem takeWhile_append {takes : Char → Bool} (noSlash : takes '\\' = false) (text : List Char) :
    (text ++ tail).takeWhile takes = text.takeWhile takes := by
  obtain ⟨rest, rfl⟩ := opens
  rw [List.takeWhile_append]
  split
  next all =>
    rw [List.takeWhile_cons_of_neg (by simp [noSlash]), List.append_nil]
    exact ((List.takeWhile_prefix takes).eq_of_length all).symm
  next => rfl

end boundary

theorem take_before {text after : List Char} (shorter : after.length < text.length) (tail : List Char) :
    (text ++ tail).take ((text ++ tail).length - (after ++ tail).length - 1) =
      text.take (text.length - after.length - 1) := by
  have count : (text ++ tail).length - (after ++ tail).length - 1 = text.length - after.length - 1 := by
    simp only [List.length_append]
    omega
  rw [count, List.take_append_of_le_length (by omega)]

theorem upTo_append {suffix text : List Char} (tail : List Char) :
    upTo (suffix ++ tail) (text ++ tail) = upTo suffix text := by
  have count : (text ++ tail).length - (suffix ++ tail).length = text.length - suffix.length := by
    simp only [List.length_append]
    omega
  rw [upTo, upTo, count, List.take_append_of_le_length (by omega)]

/-- The part before a suffix is what stands in front of it. -/
theorem upTo_append_self (before suffix : List Char) : upTo suffix (before ++ suffix) = before := by
  simp [upTo]

theorem group?_cons {c : Char} (noOpening : c ≠ '{') (rest : List Char) : group? (c :: rest) = none := by
  unfold group?
  split
  next same => exact absurd (List.cons.inj same).1 noOpening
  next => rfl

section readers

variable {text tail : List Char} (whole : Whole text) (opens : OpensCommand tail)

section groups

include whole opens

theorem group?_append : Markup.group? (text ++ tail) = (Markup.group? text).map (withTail tail) := by
  cases whole with
  | nil =>
    obtain ⟨rest, rfl⟩ := opens
    rfl
  | escaped => rfl
  | @group rest after closes =>
    rw [List.cons_append, Markup.group?, closingBrace?_append closes, Markup.group?, closes]
    simp only [take_before (length_closingBrace? closes), Option.map_some, withTail]
  | other _ noOpening => rw [List.cons_append, group?_cons noOpening, group?_cons noOpening]; rfl

variable {skips : Char → Bool} (noSlash : skips '\\' = false) (noOpening : skips '{' = false)
include noSlash noOpening

theorem argument?_append : argument? skips (text ++ tail) = (argument? skips text).map (withTail tail) := by
  rw [argument?, dropWhile_append opens noSlash, group?_append (whole.dropWhile noSlash noOpening) opens]
  rfl

end groups

theorem skipArgument_append (whole : Whole text) (opens : OpensCommand tail) :
    skipArgument (text ++ tail) = skipArgument text ++ tail := by
  rw [skipArgument, skipArgument, argument?_append whole opens (by decide) (by decide)]
  cases argument? Text.isInlineSpace text <;> rfl

/-- The star of a command is its own, since no command begins with one. -/
theorem star_append (opens : OpensCommand tail) (after : List Char) :
    (expect? ['*'] (after ++ tail)).getD (after ++ tail) = (expect? ['*'] after).getD after ++ tail := by
  cases after with
  | nil =>
    obtain ⟨rest, rfl⟩ := opens
    rfl
  | cons c later =>
    simp only [List.cons_append, expect?]
    split <;> rfl

include whole opens

theorem command?_append {command : Command} (found : command? text = some command) :
    command? (text ++ tail) = some (command.withTail tail) := by
  cases whole with
  | nil | group => contradiction
  | other noSlash => exact absurd found (by simp [command?_plain noSlash])
  | @escaped c rest behind =>
    have noLetter : Char.isAlpha '\\' = false := by decide
    have taken := takeWhile_append opens noLetter (c :: rest)
    have dropped := dropWhile_append opens noLetter (c :: rest)
    unfold Markup.command? at found ⊢
    simp only [List.cons_append] at found taken dropped ⊢
    simp only [taken, dropped, star_append opens]
    split at found
    next =>
      obtain rfl := Option.some.inj found
      rfl
    next letters =>
      obtain rfl := Option.some.inj found
      rfl

omit opens in
/-- A command is read at the end of the text only where the tail begins. -/
theorem start_of_boundary {command : Command} (none : command? text = none)
    (found : command? (text ++ tail) = some command) : text = [] := by
  cases whole with
  | nil => rfl
  | @escaped c rest =>
    obtain ⟨own, read⟩ := command?_slash (c :: rest)
    exact absurd none (by simp [read])
  | group => contradiction
  | other noSlash => exact absurd found (by simp [command?_plain noSlash])

end readers

section commands

private theorem toCommand_append {tail : List Char} (opens : OpensCommand tail) (text : List Char) :
    (text ++ tail).dropWhile (fun c => c != '\\' && c != '{') =
      text.dropWhile (fun c => c != '\\' && c != '{') ++ tail :=
  dropWhile_append opens (by simp) text

theorem OpensCommand.nextCommand? {tail : List Char} (opens : OpensCommand tail) : nextCommand? tail = command? tail := by
  obtain ⟨rest, rfl⟩ := opens
  obtain ⟨command, read⟩ := command?_slash rest
  rw [nextCommand?_slash read, read]

variable {text tail : List Char}

section groups

variable {rest after : List Char} (same : text.dropWhile (fun c => c != '\\' && c != '{') = '{' :: rest)
include same

private theorem nextCommand?_group_append (opens : OpensCommand tail) (closes : closingBrace? 0 rest = some after) :
    nextCommand? (text ++ tail) = nextCommand? (after ++ tail) := by
  have group := toCommand_append opens text
  rw [same, List.cons_append] at group
  exact nextCommand?_group group (closingBrace?_append closes tail)

private theorem Whole.atGroup (whole : Whole text) : Whole ('{' :: rest) :=
  same ▸ whole.dropWhile (by simp) (by simp)

end groups

variable (whole : Whole text) (opens : OpensCommand tail)
include whole

theorem Whole.nextCommand? {command : Command} (found : nextCommand? text = some command) :
    Whole command.start ∧ Whole command.rest :=
  ⟨whole.leadsTo (leadsTo_nextCommand? found).1, whole.leadsTo (leadsTo_nextCommand? found).2⟩

include opens

theorem nextCommand?_append {command : Command} (found : nextCommand? text = some command) :
    nextCommand? (text ++ tail) = some (command.withTail tail) := by
  fun_induction nextCommand? text with
  | case1 text rest same after closes ih =>
    rw [nextCommand?_group_append same opens closes, ih ((Whole.atGroup same whole).behind closes) found]
  | case2 => contradiction
  | case3 text other =>
    rw [nextCommand?_here (toCommand_append opens text)]
    · exact command?_append (whole.dropWhile (by simp) (by simp)) opens found
    · intro rest group
      cases here : text.dropWhile fun c => c != '\\' && c != '{' with
      | nil => simp [here, Markup.command?] at found
      | cons c later =>
        rw [here, List.cons_append] at group
        obtain ⟨rfl, -⟩ := List.cons.inj group
        exact other later here

/-- Where no command is left in the text, that of the tail is the next. -/
theorem nextCommand?_boundary (none : nextCommand? text = none) : nextCommand? (text ++ tail) = command? tail := by
  fun_induction nextCommand? text with
  | case1 text rest same after closes ih =>
    rw [nextCommand?_group_append same opens closes, ih ((Whole.atGroup same whole).behind closes) none]
  | case2 text rest same unclosed =>
    obtain ⟨after, closes⟩ := (Whole.atGroup same whole).closes
    exact absurd (unclosed.symm.trans closes) (by simp)
  | case3 text other =>
    -- Without a command the text ends here: any backslash would begin one, and a brace belongs to the cases above.
    have stop := List.head?_dropWhile_not (fun c => c != '\\' && c != '{') text
    cases here : text.dropWhile fun c => c != '\\' && c != '{' with
    | nil =>
      obtain ⟨rest, rfl⟩ := opens
      rw [nextCommand?_here (toCommand_append ⟨rest, rfl⟩ text), here]
      · rfl
      · rw [here]
        exact fun _ group => absurd group (by simp)
    | cons c later =>
      rw [here] at none stop
      have noOpening : c ≠ '{' := fun opening => other later (opening ▸ here)
      obtain rfl : c = '\\' := by simpa [noOpening] using stop
      obtain ⟨command, read⟩ := command?_slash later
      exact absurd none (by simp [read])

omit whole in
private theorem role_append (delimiter : Delimiter) {command : Command} (whole : Whole command.rest) :
    delimiter.role (command.withTail tail) = withTail tail (delimiter.role command) := by
  cases delimiter with
  | commands => rfl
  | environment name =>
    unfold Delimiter.role Command.withTail
    by_cases named : command.name = "begin" ∨ command.name = "end"
    · simp only [if_pos named, argument?_append whole opens (by decide : Text.isInlineSpace '\\' = false) (by decide)]
      cases argument? Text.isInlineSpace command.rest with
      | none => rfl
      | some pair =>
        simp only [Option.map_some, withTail]
        split <;> rfl
    · simp only [if_neg named]
      rfl

theorem find?_append {delimiter : Delimiter} {depth : Nat} {start after : List Char}
    (found : delimiter.find? depth text = some (start, after)) :
    delimiter.find? depth (text ++ tail) = some (start ++ tail, after ++ tail) := by
  fun_induction Delimiter.find? delimiter depth text with
  | case1 => contradiction
  | case3 text command next role =>
    obtain ⟨rfl, rfl⟩ := Prod.mk.inj (Option.some.inj found)
    rw [find?_some (nextCommand?_append whole opens next), role_append opens delimiter (whole.nextCommand? next).2]
    simp only [withTail, role]
    rfl
  | case2 text command next depth role ih | case4 text command next depth role ih | case5 text command next depth role ih =>
    have behind : Whole command.rest := (whole.nextCommand? next).2
    rw [find?_some (nextCommand?_append whole opens next), role_append opens delimiter behind]
    simp only [withTail, role]
    exact ih (behind.leadsTo (leadsTo_role delimiter command)) found

/-- A block that is not closed in the text is closed by nothing before the tail. -/
theorem length_find?_append {delimiter : Delimiter} {depth : Nat} {start after : List Char}
    (none : delimiter.find? depth text = none) (found : delimiter.find? depth (text ++ tail) = some (start, after)) :
    start.length ≤ tail.length := by
  fun_induction Delimiter.find? delimiter depth text with
  | case1 depth text next =>
    have same : nextCommand? (text ++ tail) = nextCommand? tail :=
      (nextCommand?_boundary whole opens next).trans opens.nextCommand?.symm
    exact (length_find? ((find?_congr same).symm.trans found)).2
  | case3 => contradiction
  | case2 text command next depth role ih | case4 text command next depth role ih | case5 text command next depth role ih =>
    have behind : Whole command.rest := (whole.nextCommand? next).2
    rw [find?_some (nextCommand?_append whole opens next), role_append opens delimiter behind] at found
    simp only [withTail, role] at found
    exact ih (behind.leadsTo (leadsTo_role delimiter command)) none found

end commands

end Vitae.Markup
