import Vitae.Proofs.Balance

/-! Reading, step by step. Outside groups a text is read over a character, an escape or a whole group at a time. Whatever
reads the head of a text leaves one that such steps lead to, so the commands outside groups of what is left are commands
outside groups of the text. -/

namespace Vitae.Markup

/-- Steps outside groups lead from one text to another behind it, or to the end. -/
inductive LeadsTo : (text after : List Char) → Prop
  | here (text : List Char) : LeadsTo text text
  | stop (text : List Char) : LeadsTo text []
  | char {c : Char} {rest after : List Char} (noSlash : c ≠ '\\') (noOpening : c ≠ '{') (behind : LeadsTo rest after) :
      LeadsTo (c :: rest) after
  | escape (c : Char) {rest after : List Char} (behind : LeadsTo rest after) : LeadsTo ('\\' :: c :: rest) after
  | group {rest later after : List Char} (closes : closingBrace? 0 rest = some later) (behind : LeadsTo later after) :
      LeadsTo ('{' :: rest) after

theorem LeadsTo.trans {text later after : List Char} (first : LeadsTo text later) (second : LeadsTo later after) :
    LeadsTo text after := by
  induction first with
  | here => exact second
  | stop text =>
    cases second with
    | here | stop => exact .stop text
  | char noSlash noOpening _ ih => exact .char noSlash noOpening (ih second)
  | escape c _ ih => exact .escape c (ih second)
  | group closes _ ih => exact .group closes (ih second)

theorem LeadsTo.length_le {text after : List Char} (leads : LeadsTo text after) : after.length ≤ text.length := by
  induction leads with
  | here => exact Nat.le_refl _
  | stop => exact Nat.zero_le _
  | char | escape => simp only [List.length_cons]; omega
  | group closes =>
    have := length_closingBrace? closes
    simp only [List.length_cons]
    omega

section scanning

theorem leadsTo_dropWhile {drops : Char → Bool} (noSlash : drops '\\' = false) (noOpening : drops '{' = false)
    (text : List Char) : LeadsTo text (text.dropWhile drops) := by
  induction text with
  | nil => exact .here _
  | cons c rest ih =>
    cases dropped : drops c with
    | false =>
      rw [List.dropWhile_cons_of_neg (by simp [dropped])]
      exact .here _
    | true =>
      rw [List.dropWhile_cons_of_pos dropped]
      refine .char ?_ ?_ ih
      · rintro rfl
        exact absurd dropped (by simp [noSlash])
      · rintro rfl
        exact absurd dropped (by simp [noOpening])

theorem ne_slash {c : Char} {rest : List Char} (noEnd : c = '\\' → ¬ rest = [])
    (noEscape : ∀ d later, c = '\\' → ¬ rest = d :: later) : c ≠ '\\' := by
  intro slash
  cases rest with
  | nil => exact noEnd slash rfl
  | cons d later => exact noEscape d later slash rfl

theorem closingBracket?_cons {c : Char} (noSlash : c ≠ '\\') (noOpening : c ≠ '{') (noClosing : c ≠ '}')
    (noBracket : c ≠ ']') (depth : Nat) (rest : List Char) :
    closingBracket? depth (c :: rest) = closingBracket? depth rest := by
  rw [closingBracket?]
  all_goals simp_all

/-- A group is passed over in looking for a bracket. -/
theorem closingBracket?_of_closingBrace? {depth : Nat} {text after : List Char}
    (found : closingBrace? depth text = some after) : closingBracket? (depth + 1) text = closingBracket? 0 after := by
  fun_induction closingBrace? depth text with
  | case1 | case2 => contradiction
  | case3 _ _ _ ih => exact ih found
  | case4 _ _ ih => exact ih found
  | case5 rest =>
    obtain rfl := Option.some.inj found
    rfl
  | case6 _ _ ih => exact ih found
  | case7 depth c rest noEnd noEscape noOpening noClosing ih =>
    rw [← ih found]
    by_cases bracket : c = ']'
    · subst bracket
      rfl
    · exact closingBracket?_cons (ne_slash noEnd noEscape) noOpening noClosing bracket _ _

/-- A bracket that is found behind the end of a group shows where the group ends. -/
theorem closingBrace?_of_closingBracket? {depth : Nat} {text after : List Char}
    (found : closingBracket? (depth + 1) text = some after) :
    ∃ later, closingBrace? depth text = some later ∧ closingBracket? 0 later = some after := by
  suffices closes : ∃ later, closingBrace? depth text = some later by
    obtain ⟨later, closes⟩ := closes
    exact ⟨later, closes, (closingBracket?_of_closingBrace? closes).symm.trans found⟩
  fun_induction closingBrace? depth text with
  | case1 | case2 => simp [closingBracket?] at found
  | case3 _ _ _ ih => exact ih found
  | case4 _ _ ih => exact ih found
  | case5 rest => exact ⟨rest, rfl⟩
  | case6 _ _ ih => exact ih found
  | case7 depth c rest noEnd noEscape noOpening noClosing ih =>
    by_cases bracket : c = ']'
    · subst bracket
      exact ih found
    · rw [closingBracket?_cons (ne_slash noEnd noEscape) noOpening noClosing bracket] at found
      exact ih found

private theorem leadsTo_closingBracket? {text after : List Char} (found : closingBracket? 0 text = some after) :
    LeadsTo text after := by
  match text with
  | [] => simp [closingBracket?] at found
  | c :: rest =>
    by_cases slash : c = '\\'
    · subst slash
      cases rest with
      | nil => simp [closingBracket?] at found
      | cons d rest => exact .escape d (leadsTo_closingBracket? found)
    by_cases opening : c = '{'
    · subst opening
      obtain ⟨later, closes, beyond⟩ := closingBrace?_of_closingBracket? found
      have shorter := length_closingBrace? closes
      exact .group closes (leadsTo_closingBracket? beyond)
    refine .char slash opening ?_
    by_cases closing : c = '}'
    · subst closing
      exact leadsTo_closingBracket? found
    by_cases bracket : c = ']'
    · subst bracket
      obtain rfl := Option.some.inj found
      exact .here _
    · exact leadsTo_closingBracket? ((closingBracket?_cons slash opening closing bracket 0 rest).symm.trans found)
termination_by text.length

variable {text after : List Char}

theorem leadsTo_group? {group : Enclosed} (found : group? text = some (group, after)) : LeadsTo text after := by
  unfold group? at found
  split at found
  next rest =>
    split at found
    next later closes =>
      obtain ⟨-, rfl⟩ := Prod.mk.inj (Option.some.inj found)
      exact .group closes (.here _)
    next =>
      obtain ⟨-, rfl⟩ := Prod.mk.inj (Option.some.inj found)
      exact .stop _
  next => contradiction

section arguments

variable {skips : Char → Bool} (noSlash : skips '\\' = false) (noOpening : skips '{' = false)
include noSlash noOpening

theorem leadsTo_argument? {group : Enclosed} (found : argument? skips text = some (group, after)) : LeadsTo text after :=
  (leadsTo_dropWhile noSlash noOpening text).trans (leadsTo_group? found)

private theorem leadsTo_argumentOr (text : List Char) : LeadsTo text (argumentOr skips text).2 := by
  unfold argumentOr
  split
  next found => exact leadsTo_argument? noSlash noOpening found
  next => exact .here _

end arguments

theorem leadsTo_skipOption (text : List Char) : LeadsTo text (skipOption text) := by
  have blanks : LeadsTo text (dropBlanks text) := leadsTo_dropWhile (by decide) (by decide) text
  unfold skipOption option?
  split
  next rest same =>
    rw [same] at blanks
    cases found : closingBracket? 0 rest with
    | none => exact .here _
    | some later => exact blanks.trans (.char (by decide) (by decide) (leadsTo_closingBracket? found))
  next => exact .here _

theorem leadsTo_skipArgument (text : List Char) : LeadsTo text (skipArgument text) := by
  unfold skipArgument
  cases found : argument? Text.isInlineSpace text with
  | none => exact .here _
  | some pair => exact leadsTo_argument? (by decide) (by decide) found

theorem leadsTo_command? {command : Command} (found : command? text = some command) : LeadsTo text command.rest := by
  unfold command? at found
  split at found
  next rest =>
    split at found
    next =>
      split at found
      next =>
        obtain rfl := Option.some.inj found
        exact .stop _
      next =>
        obtain rfl := Option.some.inj found
        exact .escape _ (.here _)
    next letters =>
      obtain rfl := Option.some.inj found
      cases rest with
      | nil => exact absurd rfl letters
      | cons c later =>
        have first : c.isAlpha = true := Decidable.byContradiction fun other => letters (List.takeWhile_cons_of_neg other)
        have behind : LeadsTo later (later.dropWhile Char.isAlpha) := leadsTo_dropWhile (by decide) (by decide) later
        rw [List.dropWhile_cons_of_pos first]
        refine .escape c (behind.trans ?_)
        cases star : expect? ['*'] (later.dropWhile Char.isAlpha) with
        | none => exact .here _
        | some rest =>
          rw [expect?_eq_some_iff.mp star]
          exact .char (by decide) (by decide) (.here _)
  next => contradiction

theorem leadsTo_nextCommand? {command : Command} (found : nextCommand? text = some command) :
    LeadsTo text command.start ∧ LeadsTo text command.rest := by
  have toCommand (text : List Char) : LeadsTo text (text.dropWhile fun c => c != '\\' && c != '{') :=
    leadsTo_dropWhile (by simp) (by simp) text
  fun_induction nextCommand? text with
  | case1 text rest same later closes ih =>
    have behind : LeadsTo text later := (toCommand text).trans (same ▸ .group closes (.here _))
    exact ⟨behind.trans (ih found).1, behind.trans (ih found).2⟩
  | case2 => contradiction
  | case3 text =>
    refine ⟨?_, (toCommand text).trans (leadsTo_command? found)⟩
    rw [(length_command? found).2]
    exact toCommand text

end scanning

section blocks

theorem leadsTo_role (delimiter : Delimiter) (command : Command) :
    LeadsTo command.rest (delimiter.role command).2 := by
  unfold Delimiter.role
  split
  · split
    · split
      next found =>
        have behind := leadsTo_argument? (by decide) (by decide) found
        split <;> exact behind
      next => exact .here _
    · exact .here _
  · exact .here _

theorem leadsTo_find? {delimiter : Delimiter} {depth : Nat} {text start after : List Char}
    (found : delimiter.find? depth text = some (start, after)) : LeadsTo text after := by
  fun_induction Delimiter.find? delimiter depth text with
  | case1 => contradiction
  | case3 text command next role =>
    obtain ⟨-, rfl⟩ := Prod.mk.inj (Option.some.inj found)
    exact (leadsTo_nextCommand? next).2.trans (leadsTo_role delimiter command)
  | case2 text command next depth role ih | case4 text command next depth role ih | case5 text command next depth role ih =>
    exact ((leadsTo_nextCommand? next).2.trans (leadsTo_role delimiter command)).trans (ih found)

theorem leadsTo_body (delimiter : Delimiter) (text : List Char) : LeadsTo text (delimiter.body text).2 := by
  unfold Delimiter.body
  split
  next found => exact leadsTo_find? found
  next => exact .stop _

private theorem leadsTo_minipage (text : List Char) : LeadsTo text (minipage text).2 :=
  ((leadsTo_skipOption text).trans (leadsTo_skipArgument _)).trans (leadsTo_body _ _)

theorem leadsTo_opened? {command : Command} {name after : List Char} (found : opened? command = some (name, after)) :
    LeadsTo command.rest after := by
  unfold opened? at found
  split at found
  next =>
    obtain ⟨pair, read, same⟩ := Option.map_eq_some_iff.mp found
    obtain ⟨-, rfl⟩ := Prod.mk.inj same
    exact leadsTo_argument? (by decide) (by decide) read
  next => contradiction

theorem leadsTo_openedMinipage? {command : Command} {after : List Char} (found : openedMinipage? command = some after) :
    LeadsTo command.rest after := by
  unfold openedMinipage? at found
  split at found
  next name rest opened =>
    split at found
    next =>
      obtain rfl := Option.some.inj found
      exact leadsTo_opened? opened
    next => contradiction
  next => contradiction

private theorem leadsTo_skipColumnSpacing (text : List Char) : LeadsTo text (skipColumnSpacing text) := by
  have spaces (text : List Char) : LeadsTo text (text.dropWhile Text.isSpace) :=
    leadsTo_dropWhile (by decide) (by decide) text
  fun_induction skipColumnSpacing text with
  | case1 text command found _ ih => exact ((spaces text).trans (leadsTo_command? found)).trans ih
  | case2 text command found _ _ ih =>
    exact (((spaces text).trans (leadsTo_command? found)).trans (leadsTo_skipArgument _)).trans ih
  | case3 | case4 => exact spaces _

theorem leadsTo_minipages (text : List Char) : LeadsTo text (minipages text).2 := by
  fun_induction minipages text with
  | case1 text next found ih =>
    simp only [Option.bind_eq_bind, Option.bind_eq_some_iff] at found
    obtain ⟨command, read, opened⟩ := found
    have behind := (leadsTo_minipage text).trans (leadsTo_skipColumnSpacing _)
    exact ((behind.trans (leadsTo_command? read)).trans (leadsTo_openedMinipage? opened)).trans ih
  | case2 text => exact leadsTo_minipage text

end blocks

section constructs

private theorem leadsTo_arguments (count : Nat) (text : List Char) : LeadsTo text (arguments count text).2 := by
  induction count generalizing text with
  | zero => exact .here _
  | succ count ih =>
    rw [arguments]
    split
    next found => exact (leadsTo_argument? (by decide) (by decide) found).trans (ih _)
    next => exact .here _

theorem leadsTo_skipArguments (count : Nat) (text : List Char) : LeadsTo text (skipArguments count text) := by
  induction count generalizing text with
  | zero => exact .here _
  | succ count ih =>
    have behind := leadsTo_skipOption text
    rw [skipArguments]
    split
    next found => exact (behind.trans (leadsTo_argument? (by decide) (by decide) found)).trans (ih _)
    next => exact behind

private theorem leadsTo_looseItems (text : List Char) : LeadsTo text (looseItems text).2 := by
  have argument (text : List Char) : LeadsTo text (argumentOr Text.isSpace text).2 :=
    leadsTo_argumentOr (by decide) (by decide) text
  fun_induction looseItems text with
  | case1 text command found _ ih =>
    have spaces : LeadsTo (argumentOr Text.isSpace text).2 ((argumentOr Text.isSpace text).2.dropWhile Text.isSpace) :=
      leadsTo_dropWhile (by decide) (by decide) _
    exact (((argument text).trans spaces).trans (leadsTo_command? found)).trans ih
  | case2 | case3 => exact argument _

theorem leadsTo_fromStructure (text : List Char) : LeadsTo text (fromStructure text) := by
  fun_induction fromStructure text with
  | case1 text command found => exact (leadsTo_nextCommand? found).1
  | case2 text command found _ ih => exact (leadsTo_nextCommand? found).2.trans ih
  | case3 => exact .stop _

section readings

variable {top : Bool} {read : Construct} {after : List Char}

theorem EnvironmentReading.leadsTo {name text : List Char} (block : EnvironmentReading name text read after) :
    LeadsTo text after := by
  have option := leadsTo_skipOption text
  cases block with
  | center | document => exact leadsTo_body _ text
  | minipages => exact leadsTo_minipages text
  | list | unknown => exact option.trans (leadsTo_body _ _)

theorem CommandReading.leadsTo {name : String} {text : List Char} (opened : CommandReading top name text read after) :
    LeadsTo text after := by
  have argument (text : List Char) : LeadsTo text (argumentOr Text.isInlineSpace text).2 :=
    leadsTo_argumentOr (by decide) (by decide) text
  have option := leadsTo_skipOption text
  cases opened with
  | silent | unmatchedListEnd | unnamedBegin | symbol => exact .here _
  | styled | heading | noTarget | url | color | unmatchedEnd => exact argument text
  | declaration | colored => exact .stop _
  | banner => exact (argument text).trans (leadsTo_fromStructure _)
  | href => exact (argument text).trans (argument _)
  | entry => exact leadsTo_arguments 4 text
  | itemList => exact leadsTo_body Markup.itemList text
  | looseItems => exact leadsTo_looseItems text
  | itemOutsideList => exact option
  | environment found block => exact (leadsTo_argument? (by decide) (by decide) found).trans block.leadsTo
  | dropped => exact leadsTo_skipArguments _ text
  | unknown => exact option.trans (argument _)

theorem Reading.leadsTo {c : Char} {rest : List Char} (reads : Reading top c rest read after) :
    LeadsTo (c :: rest) after := by
  cases reads with
  | command found opened => exact (leadsTo_command? found).trans opened.leadsTo
  | group found => exact leadsTo_group? found
  | sign plain => exact .char plain.1 plain.2 (.here _)
  | run plain => exact .char plain.1 plain.2 (leadsTo_dropWhile (by decide) (by decide) rest)

end readings

/-- What a construct leaves is led to from the text it stands at the head of. -/
theorem leadsTo_construct (top : Bool) (c : Char) (rest : List Char) : LeadsTo (c :: rest) (construct top c rest).2 :=
  (reading top c rest).leadsTo

end constructs

section commands

theorem nextCommand?_nil : nextCommand? [] = none := by
  rw [nextCommand?.eq_def]
  rfl

/-- No command is read in a group that is never closed. -/
theorem nextCommand?_unclosed {text rest : List Char}
    (same : text.dropWhile (fun c => c != '\\' && c != '{') = '{' :: rest) (unclosed : closingBrace? 0 rest = none) :
    nextCommand? text = none := by
  rw [nextCommand?.eq_def]
  split
  next inner here =>
    obtain rfl : rest = inner := (List.cons.inj (same.symm.trans here)).2
    split
    next closes => exact absurd (unclosed.symm.trans closes) (by simp)
    next => rfl
  next other => exact absurd same (other _)

/-- The next command is read at the first backslash or group. -/
theorem nextCommand?_congr {text other : List Char}
    (same : (text.dropWhile fun c => c != '\\' && c != '{') = other.dropWhile fun c => c != '\\' && c != '{') :
    nextCommand? text = nextCommand? other := by
  rw [nextCommand?.eq_def text]
  split
  next rest group =>
    have also := same.symm.trans group
    split
    next after closes => exact (nextCommand?_group also closes).symm
    next unclosed => exact (nextCommand?_unclosed also unclosed).symm
  next noGroup =>
    rw [same] at noGroup ⊢
    exact (nextCommand?_here rfl noGroup).symm

private theorem nextCommand?_char {c : Char} (noSlash : c ≠ '\\') (noOpening : c ≠ '{') (rest : List Char) :
    nextCommand? (c :: rest) = nextCommand? rest :=
  nextCommand?_congr (List.dropWhile_cons_of_pos (by simp [noSlash, noOpening]))

theorem nextCommand?_dropWhile {drops : Char → Bool} (noSlash : drops '\\' = false) (noOpening : drops '{' = false)
    (text : List Char) : nextCommand? (text.dropWhile drops) = nextCommand? text := by
  induction text with
  | nil => rfl
  | cons c rest ih =>
    cases dropped : drops c with
    | false => rw [List.dropWhile_cons_of_neg (by simp [dropped])]
    | true =>
      rw [List.dropWhile_cons_of_pos dropped, ih, nextCommand?_char]
      · rintro rfl
        exact absurd dropped (by simp [noSlash])
      · rintro rfl
        exact absurd dropped (by simp [noOpening])

theorem nextCommand?_slash {rest : List Char} {command : Command} (read : command? ('\\' :: rest) = some command) :
    nextCommand? ('\\' :: rest) = some command :=
  (nextCommand?_here rfl fun _ group => absurd group (by simp)).trans read

/-- The name of a command and its star are no place for another. -/
theorem nextCommand?_rest {c : Char} {rest : List Char} {command : Command}
    (read : command? ('\\' :: c :: rest) = some command) : nextCommand? command.rest = nextCommand? rest := by
  unfold command? at read
  simp only at read
  split at read
  next =>
    obtain rfl := Option.some.inj read
    rfl
  next letters =>
    obtain rfl := Option.some.inj read
    have first : c.isAlpha = true := Decidable.byContradiction fun other => letters (List.takeWhile_cons_of_neg other)
    have dropped : nextCommand? (rest.dropWhile Char.isAlpha) = nextCommand? rest :=
      nextCommand?_dropWhile (by decide) (by decide) rest
    simp only [List.dropWhile_cons_of_pos first]
    rw [← dropped]
    cases star : expect? ['*'] (rest.dropWhile Char.isAlpha) with
    | none => rfl
    | some later =>
      rw [expect?_eq_some_iff.mp star]
      exact (nextCommand?_char (by decide) (by decide) later).symm

/-- The names of the commands outside all groups. -/
def outerCommands (text : List Char) : List String :=
  match _found : nextCommand? text with
  | some command => command.name :: outerCommands command.rest
  | none => []
termination_by text.length
decreasing_by
  have := length_nextCommand? _found
  omega

theorem outerCommands_some {text : List Char} {command : Command} (next : nextCommand? text = some command) :
    outerCommands text = command.name :: outerCommands command.rest := by
  rw [outerCommands.eq_def]
  split
  next other found =>
    obtain rfl : command = other := Option.some.inj (next.symm.trans found)
    rfl
  next none => exact absurd (next.symm.trans none) (by simp)

private theorem outerCommands_none {text : List Char} (none : nextCommand? text = .none) : outerCommands text = [] := by
  rw [outerCommands.eq_def]
  split
  next found => exact absurd (none.symm.trans found) (by simp)
  next => rfl

private theorem outerCommands_congr {text other : List Char} (same : nextCommand? text = nextCommand? other) :
    outerCommands text = outerCommands other := by
  cases next : nextCommand? other with
  | none => rw [outerCommands_none next, outerCommands_none (same.trans next)]
  | some command => rw [outerCommands_some next, outerCommands_some (same.trans next)]

/-- The commands outside groups behind some steps are among those of the text. -/
theorem LeadsTo.outerCommands_subset {text after : List Char} (leads : LeadsTo text after) :
    outerCommands after ⊆ outerCommands text := by
  induction leads with
  | here => exact List.Subset.refl _
  | stop => rw [outerCommands_none nextCommand?_nil]; exact List.nil_subset _
  | char noSlash noOpening _ ih => rwa [outerCommands_congr (nextCommand?_char noSlash noOpening _)]
  | @escape c rest after _ ih =>
    obtain ⟨command, read⟩ := command?_slash (c :: rest)
    rw [outerCommands_some (nextCommand?_slash read), outerCommands_congr (nextCommand?_rest read)]
    exact List.subset_cons_of_subset _ ih
  | @group rest later after closes _ ih =>
    have behind : nextCommand? ('{' :: rest) = nextCommand? later := nextCommand?_group rfl closes
    rwa [outerCommands_congr behind]

end commands

end Vitae.Markup
