import Vitae.Proofs.SealedText

/-! Constructs at the start of sealed text. Each that is closed ends before a section that follows, whether it looks
for the end of a block, for another item or minipage, or for the next structure; one that is not closed is warned
about. -/

namespace Vitae.Markup

section blocks

private theorem skipColumnSpacing_some {text : List Char} {command : Command}
    (found : command? (text.dropWhile Text.isSpace) = some command) :
    skipColumnSpacing text =
      if command.name = "hfill" then skipColumnSpacing command.rest
      else if command.name = "hspace" then skipColumnSpacing (skipArgument command.rest)
      else text.dropWhile Text.isSpace := by
  rw [skipColumnSpacing.eq_def]
  split
  next other same =>
    obtain rfl : command = other := Option.some.inj (found.symm.trans same)
    rfl
  next none => exact absurd (found.symm.trans none) (by simp)

private theorem skipColumnSpacing_none {text : List Char} (none : command? (text.dropWhile Text.isSpace) = none) :
    skipColumnSpacing text = text.dropWhile Text.isSpace := by
  rw [skipColumnSpacing.eq_def]
  split
  next found => exact absurd (none.symm.trans found) (by simp)
  next => rfl

private theorem minipages_some {text next : List Char}
    (found : command? (skipColumnSpacing (minipage text).2) >>= openedMinipage? = some next) :
    minipages text = ((minipage text).1 :: (minipages next).1, (minipages next).2) := by
  rw [minipages.eq_def]
  split
  next other same =>
    obtain rfl : next = other := Option.some.inj (found.symm.trans same)
    rfl
  next none => exact absurd (found.symm.trans none) (by simp)

private theorem minipages_none {text : List Char}
    (none : command? (skipColumnSpacing (minipage text).2) >>= openedMinipage? = none) :
    minipages text = ([(minipage text).1], (minipage text).2) := by
  rw [minipages.eq_def]
  split
  next found => exact absurd (none.symm.trans found) (by simp)
  next => rfl

variable {text tail : List Char} (whole : Sealed text) (opens : OpensSection tail)
include whole opens

private theorem keeps_minipage (closed : (minipage text).1.closed = true) :
    Keeps tail (minipage text) (minipage (text ++ tail)) := by
  obtain ⟨pastOption, option⟩ := keeps_skipOption whole opens
  obtain ⟨pastArgument, argument⟩ := keeps_skipArgument pastOption opens
  unfold minipage at closed ⊢
  rw [option, argument]
  exact keeps_body pastArgument opens _ closed

private theorem keeps_skipColumnSpacing :
    Sealed (skipColumnSpacing text) ∧ skipColumnSpacing (text ++ tail) = skipColumnSpacing text ++ tail := by
  have spaces (text : List Char) : (text ++ tail).dropWhile Text.isSpace = text.dropWhile Text.isSpace ++ tail :=
    dropWhile_append opens.slash (by decide) text
  have past {text : List Char} (whole : Sealed text) : Sealed (text.dropWhile Text.isSpace) :=
    whole.dropWhile (by decide) (by decide)
  have next {text : List Char} {command : Command} (whole : Sealed text)
      (found : command? (text.dropWhile Text.isSpace) = some command) :
      command? ((text ++ tail).dropWhile Text.isSpace) = some (command.withTail tail) := by
    rw [spaces]
    exact command?_append (past whole).isWhole opens.slash found
  fun_induction skipColumnSpacing text with
  | case1 text command found named ih =>
    obtain ⟨behind, same⟩ := ih (Sealed.command? (past whole) found).2
    rw [skipColumnSpacing_some (next whole found)]
    exact ⟨behind, by simp [Command.withTail, named, same]⟩
  | case2 text command found _ named ih =>
    obtain ⟨pastArgument, argument⟩ := keeps_skipArgument (Sealed.command? (past whole) found).2 opens
    obtain ⟨behind, same⟩ := ih pastArgument
    rw [skipColumnSpacing_some (next whole found)]
    exact ⟨behind, by simp [Command.withTail, named, argument, same]⟩
  | case3 text command found noFill noSpace =>
    rw [skipColumnSpacing_some (next whole found)]
    exact ⟨past whole, by simp [Command.withTail, noFill, noSpace, spaces]⟩
  | case4 text none =>
    refine ⟨past whole, ?_⟩
    cases found : command? ((text ++ tail).dropWhile Text.isSpace) with
    | none => rw [skipColumnSpacing_none found, spaces]
    | some command =>
      rw [skipColumnSpacing_some found, spaces]
      rw [spaces] at found
      simp [command?_boundary (past whole) opens none found]

omit whole in
private theorem keeps_openedMinipage? {command : Command} (whole : Sealed command.rest) :
    (∀ after, openedMinipage? command = some after → Sealed after) ∧
      openedMinipage? (command.withTail tail) = (openedMinipage? command).map (· ++ tail) := by
  have argument : argument? Text.isInlineSpace (command.rest ++ tail) = _ :=
    argument?_append whole.isWhole opens.slash (by decide) (by decide)
  unfold openedMinipage? opened? Command.withTail
  by_cases named : command.name = "begin"
  · simp only [if_pos named, argument]
    cases found : argument? Text.isInlineSpace command.rest with
    | none => exact ⟨by simp, rfl⟩
    | some pair =>
      have behind := whole.argument? (by decide) (by decide) found
      simp only [Option.map_some, withTail]
      split
      next => exact ⟨by simpa using behind, rfl⟩
      next => exact ⟨by simp, rfl⟩
  · simp only [if_neg named]
    exact ⟨by simp, rfl⟩

/-- Whether another minipage comes next is seen from the text alone. -/
theorem keeps_nextMinipage :
    (∀ next, command? (skipColumnSpacing text) >>= openedMinipage? = some next → Sealed next) ∧
      command? (skipColumnSpacing (text ++ tail)) >>= openedMinipage? =
        (command? (skipColumnSpacing text) >>= openedMinipage?).map (· ++ tail) := by
  obtain ⟨behind, spacing⟩ := keeps_skipColumnSpacing whole opens
  rw [spacing]
  cases read : command? (skipColumnSpacing text) with
  | some command =>
    have opened := keeps_openedMinipage? opens (Sealed.command? behind read).2
    rwa [command?_append behind.isWhole opens.slash read]
  | none =>
    refine ⟨by simp, ?_⟩
    cases found : command? (skipColumnSpacing text ++ tail) with
    | none => rfl
    | some command =>
      have named := command?_boundary behind opens read found
      simp [openedMinipage?, opened?, named]

private theorem keeps_minipages (closed : ∀ body ∈ (minipages text).1, body.closed = true) :
    Keeps tail (minipages text) (minipages (text ++ tail)) := by
  fun_induction minipages text with
  | case1 text next found ih =>
    obtain ⟨first, later⟩ := List.forall_mem_cons.mp closed
    obtain ⟨behind, same⟩ := keeps_minipage whole opens first
    obtain ⟨pastOpening, opening⟩ := keeps_nextMinipage behind opens
    obtain ⟨remains, others⟩ := ih (pastOpening next found) later
    have beyond : command? (skipColumnSpacing (minipage (text ++ tail)).2) >>= openedMinipage? = some (next ++ tail) := by
      rw [same, withTail, opening, found]
      rfl
    rw [minipages_some beyond, same, others]
    exact ⟨remains, rfl⟩
  | case2 text none =>
    obtain ⟨behind, same⟩ := keeps_minipage whole opens (closed _ (by simp))
    have beyond : command? (skipColumnSpacing (minipage (text ++ tail)).2) >>= openedMinipage? = .none := by
      rw [same, withTail, (keeps_nextMinipage behind opens).2, none]
      rfl
    rw [minipages_none beyond, same]
    exact ⟨behind, rfl⟩

end blocks

section constructs

private theorem looseItems_item {text : List Char} {command : Command}
    (found : command? ((argumentOr Text.isSpace text).2.dropWhile Text.isSpace) = some command)
    (named : command.name = "resumeItem") :
    looseItems text =
      ((argumentOr Text.isSpace text).1 :: (looseItems command.rest).1, (looseItems command.rest).2) := by
  rw [looseItems.eq_def]
  split
  next other same =>
    obtain rfl : command = other := Option.some.inj (found.symm.trans same)
    rw [if_pos named]
  next none => exact absurd (found.symm.trans none) (by simp)

theorem looseItems_last {text : List Char}
    (last : ∀ command, command? ((argumentOr Text.isSpace text).2.dropWhile Text.isSpace) = some command →
      command.name ≠ "resumeItem") :
    looseItems text = ([(argumentOr Text.isSpace text).1], (argumentOr Text.isSpace text).2) := by
  rw [looseItems.eq_def]
  split
  next command found => rw [if_neg (last command found)]
  next => rfl

private theorem fromStructure_some {text : List Char} {command : Command} (next : nextCommand? text = some command) :
    fromStructure text =
      if command.name ∈ structuralCommands then command.start else fromStructure command.rest := by
  rw [fromStructure.eq_def]
  split
  next other found =>
    obtain rfl : command = other := Option.some.inj (next.symm.trans found)
    rfl
  next none => exact absurd (next.symm.trans none) (by simp)

variable {text tail : List Char} (whole : Sealed text) (opens : OpensSection tail)

/-- A construct is warned about, or ends before the tail. -/
def Stays (tail : List Char) (alone whole : Construct × List Char) : Prop :=
  alone.1.reports = true ∨ Keeps tail alone whole

include whole opens

private theorem keeps_arguments (count : Nat) : Keeps tail (arguments count text) (arguments count (text ++ tail)) := by
  induction count generalizing text with
  | zero => exact ⟨whole, rfl⟩
  | succ count ih =>
    have noSlash : Text.isSpace '\\' = false := by decide
    have noOpening : Text.isSpace '{' = false := by decide
    rw [arguments, arguments, argument?_append whole.isWhole opens.slash noSlash noOpening]
    cases found : argument? Text.isSpace text with
    | none => exact ⟨whole, rfl⟩
    | some pair =>
      obtain ⟨remains, same⟩ := ih (whole.argument? noSlash noOpening found)
      simp only [Option.map_some, withTail, same]
      exact ⟨remains, rfl⟩

private theorem keeps_skipArguments (count : Nat) :
    Sealed (skipArguments count text) ∧ skipArguments count (text ++ tail) = skipArguments count text ++ tail := by
  induction count generalizing text with
  | zero => exact ⟨whole, rfl⟩
  | succ count ih =>
    have noSlash : Text.isInlineSpace '\\' = false := by decide
    have noOpening : Text.isInlineSpace '{' = false := by decide
    obtain ⟨behind, option⟩ := keeps_skipOption whole opens
    rw [skipArguments, skipArguments, option, argument?_append behind.isWhole opens.slash noSlash noOpening]
    cases found : argument? Text.isInlineSpace (skipOption text) with
    | none => exact ⟨behind, rfl⟩
    | some pair => exact ih (behind.argument? noSlash noOpening found)

private theorem keeps_looseItems : Keeps tail (looseItems text) (looseItems (text ++ tail)) := by
  have noSlash : Text.isSpace '\\' = false := by decide
  have noOpening : Text.isSpace '{' = false := by decide
  have start {text : List Char} (whole : Sealed text) :
      (argumentOr Text.isSpace (text ++ tail)).2.dropWhile Text.isSpace =
        (argumentOr Text.isSpace text).2.dropWhile Text.isSpace ++ tail := by
    rw [(keeps_argumentOr whole opens noSlash noOpening).same, withTail, dropWhile_append opens.slash noSlash]
  fun_induction looseItems text with
  | case1 text command found named ih =>
    obtain ⟨behind, argument⟩ := keeps_argumentOr whole opens noSlash noOpening
    have past := behind.dropWhile noSlash noOpening
    have beyond := command?_append past.isWhole opens.slash found
    rw [← start whole] at beyond
    obtain ⟨remains, others⟩ := ih (Sealed.command? past found).2
    rw [looseItems_item beyond named, argument]
    simp only [Command.withTail, withTail, others]
    exact ⟨remains, rfl⟩
  | case2 text command found other =>
    obtain ⟨behind, argument⟩ := keeps_argumentOr whole opens noSlash noOpening
    have past := behind.dropWhile noSlash noOpening
    rw [looseItems_last, argument]
    · exact ⟨behind, rfl⟩
    · intro next read
      rw [start whole, command?_append past.isWhole opens.slash found] at read
      obtain rfl := Option.some.inj read
      exact other
  | case3 text none =>
    obtain ⟨behind, argument⟩ := keeps_argumentOr whole opens noSlash noOpening
    have past := behind.dropWhile noSlash noOpening
    rw [looseItems_last, argument]
    · exact ⟨behind, rfl⟩
    · intro next read
      rw [start whole] at read
      rw [command?_boundary past opens none read]
      decide

private theorem keeps_fromStructure :
    Sealed (fromStructure text) ∧ fromStructure (text ++ tail) = fromStructure text ++ tail := by
  fun_induction fromStructure text with
  | case1 text command found structural =>
    rw [fromStructure_some (nextCommand?_append whole.isWhole opens.slash found)]
    exact ⟨(whole.nextCommand? found).1, if_pos structural⟩
  | case2 text command found inside ih =>
    obtain ⟨behind, same⟩ := ih (whole.nextCommand? found).2
    rw [fromStructure_some (nextCommand?_append whole.isWhole opens.slash found)]
    exact ⟨behind, (if_neg inside).trans same⟩
  | case3 text none =>
    have boundary := nextCommand?_boundary whole.isWhole opens.slash none
    obtain ⟨own, read, named⟩ := opens
    have next := boundary.trans read
    rw [fromStructure_some next, (length_command? read).2, named]
    exact ⟨.nil, if_pos (by decide)⟩

private theorem stays_body (delimiter : Delimiter) {read : Enclosed → Construct}
    (reports : ∀ body, (read body).reports = !body.closed) :
    Stays tail (read (delimiter.body text).1, (delimiter.body text).2)
      (read (delimiter.body (text ++ tail)).1, (delimiter.body (text ++ tail)).2) := by
  by_cases closed : (delimiter.body text).1.closed = true
  · obtain ⟨remains, same⟩ := keeps_body whole opens delimiter closed
    rw [same]
    exact .inr ⟨remains, rfl⟩
  · exact .inl (by simpa [reports] using closed)

private theorem stays_environment (name : List Char) :
    Stays tail (environment name text) (environment name (text ++ tail)) := by
  obtain ⟨behind, option⟩ := keeps_skipOption whole opens
  unfold environment
  split
  next => exact stays_body whole opens _ fun _ => rfl
  split
  next =>
    by_cases closed : ∀ body ∈ (minipages text).1, body.closed = true
    · obtain ⟨remains, same⟩ := keeps_minipages whole opens closed
      rw [same]
      exact .inr ⟨remains, rfl⟩
    · exact .inl (by simpa [Construct.reports] using closed)
  split
  next =>
    -- Whether bullets are hidden is read from the option alone.
    rw [option?_append whole opens, Option.any_map, option]
    exact stays_body behind opens _ fun _ => rfl
  split
  next => exact stays_body whole opens _ fun _ => rfl
  next => exact .inl rfl

private theorem stays_commandConstruct (name : String) :
    Stays tail (commandConstruct true name text) (commandConstruct true name (text ++ tail)) := by
  have noSlash : Text.isInlineSpace '\\' = false := by decide
  have noOpening : Text.isInlineSpace '{' = false := by decide
  have argument {text : List Char} (whole : Sealed text) := keeps_argumentOr whole opens noSlash noOpening
  obtain ⟨behind, same⟩ := argument whole
  obtain ⟨pastOption, option⟩ := keeps_skipOption whole opens
  unfold commandConstruct
  split
  · simp only [same, withTail]
    split
    · split
      next =>
        -- The contacts of a banner end where a structure begins, and a section is one.
        obtain ⟨remains, structured⟩ := keeps_fromStructure behind opens
        rw [structured, upTo_append]
        exact .inr ⟨remains, rfl⟩
      next => exact .inr ⟨behind, rfl⟩
    · exact .inr ⟨behind, rfl⟩
  -- On the top level a declaration says nothing, so it does not reach into the tail.
  · exact .inr ⟨whole, rfl⟩
  · split
    · exact .inr ⟨whole, rfl⟩
    · rw [same]
      exact .inr ⟨behind, rfl⟩
    · rw [same]
      rcases read : argumentOr Text.isInlineSpace text with ⟨target?, after⟩
      rw [read] at behind
      cases target? with
      | none => exact .inr ⟨behind, rfl⟩
      | some target =>
        obtain ⟨remains, label⟩ := argument behind
        simp only [withTail, label]
        exact .inr ⟨remains, rfl⟩
    · rw [same]
      exact .inr ⟨behind, rfl⟩
    · rw [same]
      rcases read : argumentOr Text.isInlineSpace text with ⟨color?, after⟩
      rw [read] at behind
      cases color? with
      | none => exact .inr ⟨behind, rfl⟩
      | some color =>
        simp only [withTail]
        split
        all_goals exact .inr ⟨behind, rfl⟩
    · rw [(keeps_arguments whole opens 4).same]
      exact .inr ⟨(keeps_arguments whole opens 4).remains, rfl⟩
    · exact stays_body whole opens _ fun _ => rfl
    · rw [(keeps_looseItems whole opens).same]
      exact .inr ⟨(keeps_looseItems whole opens).remains, rfl⟩
    · exact .inr ⟨whole, rfl⟩
    · exact .inr ⟨whole, rfl⟩
    · exact .inr ⟨whole, rfl⟩
    · rw [option]
      exact .inr ⟨pastOption, rfl⟩
    · rw [argument?_append whole.isWhole opens.slash noSlash noOpening]
      cases found : argument? Text.isInlineSpace text with
      | none => exact .inr ⟨whole, rfl⟩
      | some pair => exact stays_environment (whole.argument? noSlash noOpening found) opens _
    · exact .inl rfl
    · split
      · exact .inr ⟨whole, rfl⟩
      · split
        next count _ =>
          obtain ⟨remains, skipped⟩ := keeps_skipArguments whole opens count
          rw [skipped]
          exact .inr ⟨remains, rfl⟩
        · exact .inr ⟨whole, rfl⟩
        · rw [option, (argument pastOption).same]
          exact .inr ⟨(argument pastOption).remains, rfl⟩

omit whole in
theorem stays_construct {c : Char} {rest : List Char} (whole : Sealed (c :: rest)) :
    Stays tail (construct true c rest) (construct true c (rest ++ tail)) := by
  unfold construct
  split
  next slash =>
    subst slash
    obtain ⟨command, read⟩ := command?_slash rest
    have beyond := command?_append whole.isWhole opens.slash read
    rw [List.cons_append] at beyond
    rw [read, beyond]
    exact stays_commandConstruct (Sealed.command? whole read).2 opens command.name
  split
  next opening =>
    subst opening
    have beyond := group?_append whole.isWhole opens.slash
    rw [List.cons_append] at beyond
    rw [beyond]
    cases found : group? ('{' :: rest) with
    | none =>
      obtain ⟨after, closes⟩ := whole.isWhole.closes
      exact absurd found (by simp [group?, closes])
    | some pair => exact .inr ⟨whole.group? found, rfl⟩
  next noSlash noOpening =>
    have behind := whole.tail noSlash noOpening
    split
    · exact .inr ⟨behind, rfl⟩
    split
    · exact .inr ⟨behind, rfl⟩
    split
    · exact .inr ⟨behind, rfl⟩
    split
    · exact .inr ⟨behind, rfl⟩
    · have stops : isPlain '\\' = false := by decide
      rw [takeWhile_append opens.slash stops, dropWhile_append opens.slash stops]
      exact .inr ⟨behind.dropWhile stops (by decide), rfl⟩

end constructs

end Vitae.Markup
