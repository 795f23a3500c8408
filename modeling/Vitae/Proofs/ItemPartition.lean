import Vitae.Proofs.WholeText

/-! The items of a list body make it up. Behind the lead every item is introduced where the one before it ends. No part
has an item of its own left: a block that the split steps over ends in the part in which it begins. -/

namespace Vitae.Markup

section spelling

variable {text after : List Char} {command : Command}

/-- A command is spelled by its name and the star it may carry. -/
theorem command?_spelled (read : command? text = some command) :
    ∃ star, (star = [] ∨ star = ['*']) ∧ text = commandText command.name ++ (star ++ command.rest) := by
  unfold command? at read
  split at read
  next rest =>
    split at read
    next =>
      split at read <;> obtain rfl := Option.some.inj read
      · exact ⟨[], .inl rfl, rfl⟩
      · exact ⟨[], .inl rfl, by simp [commandText, Char.toString]⟩
    next letters =>
      obtain rfl := Option.some.inj read
      have whole : rest = rest.takeWhile Char.isAlpha ++ rest.dropWhile Char.isAlpha :=
        (List.takeWhile_append_dropWhile ..).symm
      cases star : expect? ['*'] (rest.dropWhile Char.isAlpha) with
      | none => exact ⟨[], .inl rfl, by simp [commandText]⟩
      | some later =>
        rw [expect?_eq_some_iff.mp star] at whole
        exact ⟨['*'], .inr rfl, by simpa [commandText] using whole⟩
  next => contradiction

theorem command?_start (found : nextCommand? text = some command) : command? command.start = some command := by
  fun_induction nextCommand? text with
  | case1 _ _ _ _ _ ih => exact ih found
  | case2 => contradiction
  | case3 text => rw [(length_command? found).2, found]

private theorem skipOption_spelled (text : List Char) :
    skipOption text = text ∨ ∃ blanks inner, (∀ c ∈ blanks, Text.isInlineSpace c = true) ∧
      closingBracket? 0 (inner ++ [']']) = some [] ∧ text = blanks ++ '[' :: (inner ++ ']' :: skipOption text) := by
  unfold skipOption option?
  split
  next rest bracket =>
    cases closes : closingBracket? 0 rest with
    | none => exact .inl rfl
    | some after =>
      obtain ⟨inner, rfl, same⟩ := exists_of_closingBracket? closes
      have blank := List.all_eq_true.mp (List.all_takeWhile (p := Text.isInlineSpace) (l := text))
      refine .inr ⟨text.takeWhile Text.isInlineSpace, inner, blank, same [], ?_⟩
      have whole : text = text.takeWhile Text.isInlineSpace ++ dropBlanks text :=
        (List.takeWhile_append_dropWhile ..).symm
      rw [bracket] at whole
      exact whole
  next => exact .inl rfl

end spelling

/-- What introduces an item: `\resumeItem`, or `\item` with the label that it may carry. Either may have a star. -/
inductive Introducer : List Char → Prop
  | plain {name : String} {star : List Char} (known : name = "item" ∨ name = "resumeItem")
      (starred : star = [] ∨ star = ['*']) : Introducer (commandText name ++ star)
  | labelled {star blanks label : List Char} (starred : star = [] ∨ star = ['*'])
      (blank : ∀ c ∈ blanks, Text.isInlineSpace c = true) (closes : closingBracket? 0 (label ++ [']']) = some []) :
      Introducer (commandText "item" ++ (star ++ (blanks ++ '[' :: (label ++ [']']))))

/-- An introducer that is read as such in front of the content. -/
structure Introduces (introducer content : List Char) : Prop where
  spelled : Introducer introducer
  read : ∃ command, command? (introducer ++ content) = some command ∧ introduced? command = some content

/-- A text cut into items: each stands behind an introducer and reaches to the next, the last to the end. -/
inductive Cut : List Char → List (List Char) → Prop
  | nil : Cut [] []
  | cons {introducer item later : List Char} {items : List (List Char)}
      (introduces : Introduces introducer (item ++ later)) (behind : Cut later items) :
      Cut (introducer ++ (item ++ later)) (item :: items)

theorem Introducer.opens {introducer : List Char} (spelled : Introducer introducer) : OpensCommand introducer := by
  cases spelled <;> exact ⟨_, rfl⟩

private theorem exists_introducer {command : Command} {content : List Char}
    (read : command? command.start = some command) (item : introduced? command = some content) :
    ∃ introducer, Introduces introducer content ∧ command.start = introducer ++ content := by
  obtain ⟨star, starred, spelled⟩ := command?_spelled read
  have known {introducer : List Char} (same : command.start = introducer ++ content) (spells : Introducer introducer) :
      ∃ introducer, Introduces introducer content ∧ command.start = introducer ++ content :=
    ⟨introducer, ⟨spells, command, same ▸ read, item⟩, same⟩
  unfold introduced? at item
  split at item
  next named =>
    obtain rfl := Option.some.inj item
    rw [named] at spelled
    rcases skipOption_spelled command.rest with same | ⟨blanks, label, blank, closes, option⟩
    · refine known ?_ (.plain (.inl rfl) starred)
      rw [same, spelled, List.append_assoc]
    · refine known ?_ (.labelled starred blank closes)
      calc
        command.start = commandText "item" ++ (star ++ command.rest) := spelled
        _ = commandText "item" ++ (star ++ (blanks ++ '[' :: (label ++ ']' :: skipOption command.rest))) :=
          congrArg (fun rest => commandText "item" ++ (star ++ rest)) option
        _ = commandText "item" ++ (star ++ (blanks ++ '[' :: (label ++ [']']))) ++ skipOption command.rest := by simp
  next =>
    split at item
    next named =>
      obtain rfl := Option.some.inj item
      refine known ?_ (.plain (.inr named) starred)
      rw [spelled, List.append_assoc]
    next => contradiction

/-- The block that a command opens, and the text behind its opening. -/
def Command.block? (command : Command) : Option (Delimiter × List Char) :=
  if command.name = "resumeItemListStart" then some (itemList, command.rest)
  else (opened? command).map fun (name, after) => (.environment name, after)

/-- The text behind a block, or that behind its opening where it is not closed. -/
def Delimiter.over (delimiter : Delimiter) (text : List Char) : List Char :=
  (delimiter.find? 0 text).elim text (·.2)

private theorem overBlock_eq (command : Command) :
    overBlock command = command.block?.elim command.rest fun (delimiter, text) => delimiter.over text := by
  unfold overBlock overEnvironment Command.block?
  split
  · rfl
  · cases opened? command <;> rfl

private theorem leadsTo_block? {command : Command} {delimiter : Delimiter} {text : List Char}
    (opened : command.block? = some (delimiter, text)) : LeadsTo command.rest text := by
  unfold Command.block? at opened
  split at opened
  next =>
    obtain ⟨-, rfl⟩ := Prod.mk.inj (Option.some.inj opened)
    exact .here _
  next =>
    obtain ⟨⟨name, after⟩, read, same⟩ := Option.map_eq_some_iff.mp opened
    obtain ⟨-, rfl⟩ := Prod.mk.inj same
    exact leadsTo_opened? read

private theorem leadsTo_overBlock (command : Command) : LeadsTo command.rest (overBlock command) := by
  rw [overBlock_eq]
  cases opened : command.block? with
  | none => exact .here _
  | some block =>
    refine (leadsTo_block? opened).trans ?_
    simp only [Option.elim_some, Delimiter.over]
    cases found : block.1.find? 0 block.2 with
    | none => exact .here _
    | some pair => exact leadsTo_find? found

/-- The commands that are met on the level of a text, past the blocks in it. -/
inductive MetOutside : List Char → Command → Prop
  | here {text : List Char} {command : Command} (next : nextCommand? text = some command) : MetOutside text command
  | behind {text : List Char} {command other : Command} (next : nextCommand? text = some command)
      (later : MetOutside (overBlock command) other) : MetOutside text other

section introducers

variable {text tail start content : List Char} {later : List (List Char × List Char)}

private theorem introducers_eq_nil_iff :
    introducers text = [] ↔ ∀ command, MetOutside text command → introduced? command = none := by
  constructor
  · intro none command met
    induction met with
    | here next =>
      rw [introducers_some next] at none
      split at none
      next => contradiction
      next neither => exact neither
    | behind next _ ih =>
      rw [introducers_some next] at none
      split at none
      next => contradiction
      next => exact ih none
  · intro neither
    fun_induction introducers text with
    | case1 => rfl
    | case2 text command next content' item => exact absurd (neither command (.here next)) (by simp [item])
    | case3 text command next _ ih => exact ih fun other met => neither other (.behind next met)

private theorem leadsTo_introducers (found : introducers text = (start, content) :: later) :
    LeadsTo text start ∧ ∃ introducer, Introduces introducer content ∧ start = introducer ++ content := by
  fun_induction introducers text with
  | case1 => contradiction
  | case2 text command next content' item ih =>
    obtain ⟨same, -⟩ := List.cons.inj found
    obtain ⟨rfl, rfl⟩ := Prod.mk.inj same
    exact ⟨(leadsTo_nextCommand? next).1, exists_introducer (command?_start next) item⟩
  | case3 text command next item ih =>
    exact ⟨((leadsTo_nextCommand? next).2.trans (leadsTo_overBlock command)).trans (ih found).1, (ih found).2⟩

private theorem introducers_behind (found : introducers text = (start, content) :: later) :
    later = introducers content := by
  fun_induction introducers text with
  | case1 => contradiction
  | case2 =>
    obtain ⟨same, rfl⟩ := List.cons.inj found
    obtain ⟨rfl, rfl⟩ := Prod.mk.inj same
    rfl
  | case3 _ _ _ _ ih => exact ih found

end introducers

section parts

variable {part tail content : List Char} {later : List (List Char × List Char)}

private theorem introduced?_eq_none (command : Command) :
    introduced? command = none ↔ command.name ≠ "item" ∧ command.name ≠ "resumeItem" := by
  unfold introduced?
  split
  next item => simp [item]
  next noItem => simp [noItem]

variable (opens : OpensCommand tail)
include opens

theorem opened?_withTail {command : Command} (whole : Whole command.rest) :
    opened? (command.withTail tail) = (opened? command).map fun (name, text) => (name, text ++ tail) := by
  unfold opened? Command.withTail
  simp only [argument?_append whole opens (by decide : Text.isInlineSpace '\\' = false) (by decide)]
  split
  · cases argument? Text.isInlineSpace command.rest <;> rfl
  · rfl

private theorem block?_withTail {command : Command} (whole : Whole command.rest) :
    (command.withTail tail).block? = command.block?.map fun (delimiter, text) => (delimiter, text ++ tail) := by
  unfold Command.block?
  rw [opened?_withTail opens whole]
  unfold Command.withTail
  split
  · rfl
  · cases opened? command <;> rfl

/-- Where the tail is not reached into, a block of the text is passed over as in the text alone. -/
theorem over_append {delimiter : Delimiter} {text : List Char} (whole : Whole text)
    (reaches : tail.length ≤ (delimiter.over (text ++ tail)).length) :
    delimiter.over (text ++ tail) = delimiter.over text ++ tail := by
  unfold Delimiter.over at reaches ⊢
  cases found : delimiter.find? 0 text with
  | some pair =>
    rw [find?_append whole opens found]
    rfl
  | none =>
    cases beyond : delimiter.find? 0 (text ++ tail) with
    | none => rfl
    | some pair =>
      have start := length_find?_append whole opens found beyond
      have after := (length_find? beyond).1
      simp only [beyond, Option.elim_some] at reaches
      omega

private theorem overBlock_withTail {command : Command} (whole : Whole command.rest)
    (reaches : tail.length ≤ (overBlock (command.withTail tail)).length) :
    overBlock (command.withTail tail) = overBlock command ++ tail := by
  rw [overBlock_eq, block?_withTail opens whole] at reaches ⊢
  rw [overBlock_eq]
  cases opened : command.block? with
  | none => rfl
  | some block =>
    simp only [opened, Option.map_some, Option.elim_some] at reaches ⊢
    exact over_append opens (whole.leadsTo (leadsTo_block? opened)) reaches

/-- No command of a part in front of the first introducer introduces an item. -/
theorem introducers_before {command : Command} (whole : Whole part) (next : nextCommand? part = some command)
    (first : introducers (part ++ tail) = (tail, content) :: later) :
    introduced? command = none ∧ introducers (overBlock (command.withTail tail)) = (tail, content) :: later := by
  have here := introducers_some (nextCommand?_append whole opens next)
  cases same : introduced? (command.withTail tail) with
  | none =>
    rw [same] at here
    have named := (introduced?_eq_none (command.withTail tail)).mp same
    exact ⟨(introduced?_eq_none command).mpr named, here.symm.trans first⟩
  | some content' =>
    rw [same] at here
    obtain ⟨start, -⟩ := Prod.mk.inj (List.cons.inj (here.symm.trans first)).1
    have shown := (length_nextCommand? next).1
    have longer := congrArg List.length start
    simp only [Command.withTail, List.length_append] at longer
    omega

private theorem introducers_part (whole : Whole part) (first : introducers (part ++ tail) = (tail, content) :: later) :
    introducers part = [] := by
  fun_induction introducers part with
  | case1 => rfl
  | case2 part command next content' item =>
    obtain ⟨neither, -⟩ := introducers_before opens whole next first
    exact absurd (item.symm.trans neither) (by simp)
  | case3 part command next _ ih =>
    obtain ⟨-, behind⟩ := introducers_before opens whole next first
    have rest := (whole.nextCommand? next).2
    -- The tail is still to come behind the block, so the block is not closed in it.
    have within := overBlock_withTail opens rest (leadsTo_introducers behind).1.length_le
    exact ih (rest.leadsTo (leadsTo_overBlock command)) (within ▸ behind)

end parts

section splitting

variable {text part start content : List Char} {later : List (List Char × List Char)}

private theorem splitItems_none (none : introducers text = []) : splitItems text = ⟨text, []⟩ := by
  rw [splitItems, none]

private theorem unsplit_of_introducers (none : introducers text = []) :
    splitItems text = ⟨text, []⟩ ∧
      ∀ command, MetOutside text command → command.name ≠ "item" ∧ command.name ≠ "resumeItem" := by
  refine ⟨splitItems_none none, ?_⟩
  intro command met
  exact (introduced?_eq_none command).mp (introducers_eq_nil_iff.mp none command met)

/-- Behind the first introducer the items are those of its content, the first of them what is its lead. -/
theorem splitItems_cons (found : introducers (part ++ start) = (start, content) :: later) :
    splitItems (part ++ start) = ⟨part, (splitItems content).lead :: (splitItems content).items⟩ := by
  rw [splitItems, found, introducers_behind found]
  simp only [upTo_append_self, splitItems]
  cases introducers content <;> rfl

/-- The lead and the items make up the body, with the introducers between them. Each part has no items left, since no
command that is met in it introduces one. -/
theorem splitItems_partition (body : List Char) :
    (∃ behind, body = (splitItems body).lead ++ behind ∧ Cut behind (splitItems body).items) ∧
      ∀ part ∈ (splitItems body).lead :: (splitItems body).items, splitItems part = ⟨part, []⟩ ∧
        ∀ command, MetOutside part command → command.name ≠ "item" ∧ command.name ≠ "resumeItem" := by
  cases found : introducers body with
  | nil =>
    rw [splitItems_none found]
    exact ⟨⟨[], (List.append_nil body).symm, .nil⟩, List.forall_mem_singleton.mpr (unsplit_of_introducers found)⟩
  | cons first later =>
    obtain ⟨start, content⟩ := first
    obtain ⟨leads, introducer, introduces, rfl⟩ := leadsTo_introducers found
    obtain ⟨rest, shown⟩ := introduces.spelled.opens
    have opens : OpensCommand (introducer ++ content) := ⟨rest ++ content, by rw [shown]; rfl⟩
    obtain ⟨part, whole, rfl⟩ := leads.exists_whole (by simp [shown])
    -- The content is shorter than the body, since the introducer begins with a backslash.
    have shorter : content.length < (part ++ (introducer ++ content)).length := by
      simp only [shown, List.length_append, List.length_cons]
      omega
    obtain ⟨⟨behind, same, cut⟩, settled⟩ := splitItems_partition content
    rw [splitItems_cons found]
    refine ⟨⟨introducer ++ content, rfl, ?_⟩, ?_⟩
    · rw [same] at introduces
      have cuts : Cut (introducer ++ ((splitItems content).lead ++ behind)) _ := .cons introduces cut
      rwa [← same] at cuts
    · exact List.forall_mem_cons.mpr ⟨unsplit_of_introducers (introducers_part opens whole found), settled⟩
termination_by body.length

/-- The item of a list inside stays in the item that holds the list. -/
theorem splitItems_partition_nested :
    splitItems "a\\item[b] \\begin\x7bc\x7d\\item d\\end\x7bc\x7d\\resumeItem\x7be\x7d".toList =
        ⟨['a'], [" \\begin\x7bc\x7d\\item d\\end\x7bc\x7d".toList, "\x7be\x7d".toList]⟩ ∧
      splitItems " \\begin\x7bc\x7d\\item d\\end\x7bc\x7d".toList =
        ⟨" \\begin\x7bc\x7d\\item d\\end\x7bc\x7d".toList, []⟩ := by
  have split : splitItems "a\\item[b] \\begin\x7bc\x7d\\item d\\end\x7bc\x7d\\resumeItem\x7be\x7d".toList =
      ⟨['a'], [" \\begin\x7bc\x7d\\item d\\end\x7bc\x7d".toList, "\x7be\x7d".toList]⟩ := by
    decide +kernel
  have parts := (splitItems_partition "a\\item[b] \\begin\x7bc\x7d\\item d\\end\x7bc\x7d\\resumeItem\x7be\x7d".toList).2
  rw [split] at parts
  exact ⟨split, (parts _ (by simp)).1⟩

end splitting

end Vitae.Markup
