import Mathlib.Data.List.Infix
import Vitae.Proofs.SectionLocality

/-! Closing commands. The end of a block is looked for among the commands outside groups alone: it is the first that is
one closing command ahead of the opening ones. So a body whose own blocks of the name match up ends where it is closed,
whatever follows. -/

namespace Vitae.Markup

section level

/-- The name that an opening or closing command of an environment carries; other commands carry none. -/
def Command.blockName? (command : Command) : Option (List Char) :=
  if command.name = "begin" ∨ command.name = "end" then
    (argument? Text.isInlineSpace command.rest).map fun (group, _) => Text.trim group.inner
  else none

/-- The text behind a command and the argument that such a command takes. -/
def Command.behind (command : Command) : List Char :=
  if command.name = "begin" ∨ command.name = "end" then skipArgument command.rest else command.rest

private theorem Command.length_behind_le (command : Command) : command.behind.length ≤ command.rest.length := by
  unfold behind
  split
  · exact length_skipArgument_le command.rest
  · exact Nat.le_refl _

/-- The commands outside groups. -/
def levelCommands (text : List Char) : List Command :=
  match _found : nextCommand? text with
  | none => []
  | some command => command :: levelCommands command.behind
termination_by text.length
decreasing_by
  have := length_nextCommand? _found
  have := command.length_behind_le
  omega

private theorem levelCommands_none {text : List Char} (none : nextCommand? text = .none) : levelCommands text = [] := by
  rw [levelCommands.eq_def]
  split
  next => rfl
  next found => exact absurd (none.symm.trans found) (by simp)

private theorem levelCommands_some {text : List Char} {command : Command} (next : nextCommand? text = some command) :
    levelCommands text = command :: levelCommands command.behind := by
  rw [levelCommands.eq_def]
  split
  next none => exact absurd (next.symm.trans none) (by simp)
  next other found =>
    obtain rfl : command = other := Option.some.inj (next.symm.trans found)
    rfl

private theorem levelCommands_congr {text other : List Char} (same : nextCommand? text = nextCommand? other) :
    levelCommands text = levelCommands other := by
  cases next : nextCommand? other with
  | none => rw [levelCommands_none next, levelCommands_none (same.trans next)]
  | some command => rw [levelCommands_some next, levelCommands_some (same.trans next)]

/-- An argument is a group, and no command is read in it. -/
theorem nextCommand?_skipArgument (text : List Char) : nextCommand? (skipArgument text) = nextCommand? text := by
  have blanks : nextCommand? (text.dropWhile Text.isInlineSpace) = nextCommand? text :=
    nextCommand?_dropWhile (by decide) (by decide) text
  unfold skipArgument argument?
  cases found : group? (text.dropWhile Text.isInlineSpace) with
  | none => rfl
  | some pair =>
    rw [← blanks]
    unfold group? at found
    split at found
    next rest here =>
      rw [here]
      split at found
      next after closes =>
        obtain rfl := Option.some.inj found
        exact (nextCommand?_group rfl closes).symm
      next unclosed =>
        obtain rfl := Option.some.inj found
        have open' : nextCommand? ('{' :: rest) = none := nextCommand?_unclosed rfl unclosed
        rw [open']
        exact nextCommand?_nil
    next => contradiction

private theorem nextCommand?_behind (command : Command) : nextCommand? command.behind = nextCommand? command.rest := by
  unfold Command.behind
  split
  · exact nextCommand?_skipArgument command.rest
  · rfl

end level

namespace Delimiter

def opens : Delimiter → Command → Bool
  | .environment name, command => command.name == "begin" && command.blockName? == some name
  | .commands opening _, command => command.name == opening

def closes : Delimiter → Command → Bool
  | .environment name, command => command.name == "end" && command.blockName? == some name
  | .commands _ closing, command => command.name == closing

/-- The text behind a closing command and its argument. The commands of a pair take none. -/
def resume : Delimiter → Command → List Char
  | .environment _, command => command.behind
  | .commands _ _, command => command.rest

/-- Among the commands there are `ahead` more closing than opening ones. -/
def Exceeds (delimiter : Delimiter) (ahead : Nat) (commands : List Command) : Prop :=
  commands.countP delimiter.closes = commands.countP delimiter.opens + ahead

/-- With `depth` blocks open inside, the shortest run of commands that closes the outermost one ends in `last`. -/
structure ClosedBy (delimiter : Delimiter) (depth : Nat) (commands before : List Command) (last : Command) : Prop where
  among : before ++ [last] <+: commands
  ahead : delimiter.Exceeds (depth + 1) (before ++ [last])
  first : ∀ earlier, earlier <+: before → ¬ delimiter.Exceeds (depth + 1) earlier

/-- The commands leave no block open, and close none that they have not opened. -/
structure Matched (delimiter : Delimiter) (commands : List Command) : Prop where
  within : ∀ earlier, earlier <+: commands → earlier.countP delimiter.closes ≤ earlier.countP delimiter.opens
  level : delimiter.Exceeds 0 commands

instance (delimiter : Delimiter) (ahead : Nat) (commands : List Command) : Decidable (delimiter.Exceeds ahead commands) :=
  inferInstanceAs (Decidable (_ = _))

instance (delimiter : Delimiter) (commands : List Command) : Decidable (delimiter.Matched commands) :=
  decidable_of_iff ((∀ earlier ∈ commands.inits, earlier.countP delimiter.closes ≤ earlier.countP delimiter.opens) ∧
      delimiter.Exceeds 0 commands)
    ⟨fun ⟨within, level⟩ => ⟨fun earlier early => within earlier ((List.mem_inits ..).mpr early), level⟩,
      fun matched => ⟨fun earlier early => matched.within earlier ((List.mem_inits ..).mp early), matched.level⟩⟩

/-- The command that closes a block in which `depth` others are open. -/
def closer? (delimiter : Delimiter) : (depth : Nat) → List Command → Option Command
  | _, [] => none
  | depth, command :: later =>
    if delimiter.opens command then delimiter.closer? (depth + 1) later
    else if delimiter.closes command then
      match depth with
      | 0 => some command
      | depth + 1 => delimiter.closer? depth later
    else delimiter.closer? depth later

section roles

variable (delimiter : Delimiter) (command : Command)

theorem role_eq :
    delimiter.role command =
      (if delimiter.opens command then .opening else if delimiter.closes command then .closing else .neither,
        delimiter.resume command) := by
  cases delimiter with
  | commands opening closing => simp [role, opens, closes, resume]
  | environment name =>
    simp only [role, opens, closes, resume, Command.blockName?, Command.behind, skipArgument]
    by_cases named : command.name = "begin" ∨ command.name = "end"
    · simp only [if_pos named]
      cases argument? Text.isInlineSpace command.rest with
      | none => simp
      | some pair =>
        rcases named with begins | ends
        · by_cases same : Text.trim pair.1.inner = name <;> simp [begins, same]
        · by_cases same : Text.trim pair.1.inner = name <;> simp [ends, same]
    · obtain ⟨noBegin, noEnd⟩ := not_or.mp named
      simp [noBegin, noEnd]

private theorem find?_eq (depth : Nat) (text : List Char) :
    delimiter.find? depth text =
      (delimiter.closer? depth (levelCommands text)).map fun last => (last.start, delimiter.resume last) := by
  have behind (depth : Nat) (command : Command) :
      delimiter.find? depth (delimiter.resume command) = delimiter.find? depth command.behind := by
    cases delimiter with
    | environment => rfl
    | commands => exact find?_congr (nextCommand?_behind command).symm
  fun_induction levelCommands text generalizing depth with
  | case1 text next =>
    rw [find?_none next]
    rfl
  | case2 text command next ih =>
    rw [find?_some next, role_eq, closer?.eq_def]
    simp only [behind, ih]
    cases delimiter.opens command
    · cases delimiter.closes command
      · rfl
      · cases depth <;> rfl
    · rfl

end roles

section counting

variable {delimiter : Delimiter} {ahead depth : Nat} {command last : Command} {before later commands : List Command}

private theorem not_exceeds_nil : ¬ delimiter.Exceeds (ahead + 1) [] := by
  simp [Exceeds]

section proper

variable (distinct : ∀ name, delimiter ≠ .commands name name)
include distinct

private theorem closes_of_opens (opens : delimiter.opens command = true) : delimiter.closes command = false := by
  cases delimiter with
  | environment name =>
    simp only [Delimiter.opens, Bool.and_eq_true, beq_iff_eq] at opens
    simp [closes, opens.1]
  | commands opening closing =>
    simp only [Delimiter.opens, beq_iff_eq] at opens
    simp only [closes, beq_eq_false_iff_ne, opens]
    rintro rfl
    exact distinct _ rfl

private theorem exceeds_opening (opens : delimiter.opens command = true) :
    delimiter.Exceeds ahead (command :: later) ↔ delimiter.Exceeds (ahead + 1) later := by
  simp only [Exceeds, List.countP_cons, opens, closes_of_opens distinct opens]
  simp only [Bool.false_eq_true, if_true, if_false]
  omega

end proper

private theorem exceeds_closing (opens : delimiter.opens command = false) (closes : delimiter.closes command = true) :
    delimiter.Exceeds (ahead + 1) (command :: later) ↔ delimiter.Exceeds ahead later := by
  simp only [Exceeds, List.countP_cons, opens, closes]
  simp only [Bool.false_eq_true, if_true, if_false]
  omega

private theorem exceeds_neither (opens : delimiter.opens command = false) (closes : delimiter.closes command = false) :
    delimiter.Exceeds ahead (command :: later) ↔ delimiter.Exceeds ahead later := by
  simp [Exceeds, opens, closes]

private theorem not_exceeds_of_same {name : String} : ¬ (Delimiter.commands name name).Exceeds (ahead + 1) later := by
  have same : (Delimiter.commands name name).closes = (Delimiter.commands name name).opens := rfl
  simp [Exceeds, same]

private theorem closer?_of_same (name : String) (depth : Nat) (later : List Command) :
    (Delimiter.commands name name).closer? depth later = none := by
  fun_induction closer? (Delimiter.commands name name) depth later with
  | case1 => rfl
  | case2 _ _ _ _ ih | case5 _ _ _ _ _ ih => exact ih
  | case3 command later opens closes | case4 command later opens closes => exact absurd closes opens

/-- The count is carried over a command that does not close the block. -/
theorem closedBy_cons {depth' : Nat}
    (shift : ∀ later, delimiter.Exceeds (depth + 1) (command :: later) ↔ delimiter.Exceeds (depth' + 1) later) :
    delimiter.ClosedBy depth (command :: later) before last ↔
      ∃ between, before = command :: between ∧ delimiter.ClosedBy depth' later between last := by
  constructor
  · rintro ⟨among, ahead, first⟩
    cases before with
    | nil =>
      obtain ⟨rfl, -⟩ := List.cons_prefix_cons.mp among
      exact absurd ((shift []).mp ahead) not_exceeds_nil
    | cons other between =>
      obtain ⟨rfl, within⟩ := List.cons_prefix_cons.mp among
      exact ⟨between, rfl, within, (shift _).mp ahead, fun earlier within exceeds =>
        first (_ :: earlier) (List.cons_prefix_cons.mpr ⟨rfl, within⟩) ((shift earlier).mpr exceeds)⟩
  · rintro ⟨between, rfl, among, ahead, first⟩
    refine ⟨List.cons_prefix_cons.mpr ⟨rfl, among⟩, (shift _).mpr ahead, fun earlier within exceeds => ?_⟩
    cases earlier with
    | nil => exact not_exceeds_nil exceeds
    | cons other earlier =>
      obtain ⟨rfl, inside⟩ := List.cons_prefix_cons.mp within
      exact first earlier inside ((shift earlier).mp exceeds)

private theorem closedBy_closing (opens : delimiter.opens command = false) (closes : delimiter.closes command = true) :
    delimiter.ClosedBy 0 (command :: later) before last ↔ before = [] ∧ command = last := by
  have closed : delimiter.Exceeds (0 + 1) [command] := (exceeds_closing opens closes).mpr (by simp [Exceeds])
  constructor
  · rintro ⟨among, -, first⟩
    cases before with
    | nil => exact ⟨rfl, (List.cons_prefix_cons.mp among).1.symm⟩
    | cons other between =>
      obtain ⟨rfl, -⟩ := List.cons_prefix_cons.mp among
      exact absurd closed (first _ (List.cons_prefix_cons.mpr ⟨rfl, List.nil_prefix⟩))
  · rintro ⟨rfl, rfl⟩
    refine ⟨List.cons_prefix_cons.mpr ⟨rfl, List.nil_prefix⟩, closed, fun earlier within => ?_⟩
    rw [List.prefix_nil.mp within]
    exact not_exceeds_nil

private theorem closer?_eq_some_iff :
    delimiter.closer? depth commands = some last ↔ ∃ before, delimiter.ClosedBy depth commands before last := by
  by_cases same : ∃ name, delimiter = .commands name name
  · obtain ⟨name, rfl⟩ := same
    rw [closer?_of_same]
    exact ⟨fun none => absurd none (by simp), fun ⟨_, closed⟩ => absurd closed.ahead not_exceeds_of_same⟩
  have distinct (name : String) : delimiter ≠ .commands name name := fun eq => same ⟨name, eq⟩
  -- A command in front moves the count by one, or by nothing, and the shortest run with it.
  have passed {command : Command} {later : List Command} {depth depth' : Nat}
      (shift : ∀ later, delimiter.Exceeds (depth + 1) (command :: later) ↔ delimiter.Exceeds (depth' + 1) later) :
      (∃ before, delimiter.ClosedBy depth' later before last) ↔
        ∃ before, delimiter.ClosedBy depth (command :: later) before last := by
    simp [closedBy_cons shift]
  fun_induction closer? delimiter depth commands with
  | case1 =>
    refine ⟨fun none => absurd none (by simp), fun ⟨before, closed⟩ => ?_⟩
    exact absurd (List.prefix_nil.mp closed.among) (by simp)
  | case2 depth command later opens ih => exact ih.trans (passed fun _ => exceeds_opening distinct opens)
  | case3 command later opens closes =>
    have opens : delimiter.opens command = false := Bool.not_eq_true _ ▸ opens
    simp [closedBy_closing opens closes]
  | case4 command later opens closes depth ih =>
    exact ih.trans (passed fun _ => exceeds_closing (Bool.not_eq_true _ ▸ opens) closes)
  | case5 depth command later opens closes ih =>
    exact ih.trans (passed fun _ => exceeds_neither (Bool.not_eq_true _ ▸ opens) (Bool.not_eq_true _ ▸ closes))

private theorem exists_closedBy {run : List Command} (within : run <+: commands)
    (ahead : delimiter.Exceeds (depth + 1) run) :
    ∃ before last, delimiter.ClosedBy depth commands before last := by
  by_cases earliest : ∀ earlier, earlier <+: commands → delimiter.Exceeds (depth + 1) earlier → run.length ≤ earlier.length
  · obtain rfl | ⟨before, last, rfl⟩ := List.eq_nil_or_concat' run
    · exact absurd ahead not_exceeds_nil
    refine ⟨before, last, within, ahead, fun earlier early exceeds => ?_⟩
    have shorter := early.length_le
    have longer := earliest earlier (early.trans ((List.prefix_append before [last]).trans within)) exceeds
    simp only [List.length_append, List.length_singleton] at longer
    omega
  · push Not at earliest
    obtain ⟨earlier, early, exceeds, shorter⟩ := earliest
    exact exists_closedBy early exceeds
termination_by run.length

end counting

end Delimiter

section boundary

variable {text tail : List Char} {command : Command}

private theorem Whole.behind_command {command : Command} (whole : Whole command.rest) : Whole command.behind := by
  unfold Command.behind
  split
  · exact whole.leadsTo (leadsTo_skipArgument _)
  · exact whole

theorem Whole.levelCommands (whole : Whole text) : ∀ command ∈ levelCommands text, Whole command.rest := by
  fun_induction Markup.levelCommands text with
  | case1 => simp
  | case2 text command next ih =>
    have rest := (whole.nextCommand? next).2
    simp only [List.mem_cons, forall_eq_or_imp]
    exact ⟨rest, ih rest.behind_command⟩

variable (opens : OpensCommand tail)
include opens

private theorem blockName?_withTail (whole : Whole command.rest) :
    (command.withTail tail).blockName? = command.blockName? := by
  unfold Command.blockName? Command.withTail
  simp only [argument?_append whole opens (by decide : Text.isInlineSpace '\\' = false) (by decide), Option.map_map]
  rfl

private theorem behind_withTail (whole : Whole command.rest) :
    (command.withTail tail).behind = command.behind ++ tail := by
  unfold Command.behind Command.withTail
  simp only [skipArgument_append whole opens]
  split <;> rfl

private theorem levelCommands_append (whole : Whole text) :
    levelCommands (text ++ tail) = (levelCommands text).map (Command.withTail tail) ++ levelCommands tail := by
  fun_induction Markup.levelCommands text with
  | case1 text none =>
    exact levelCommands_congr ((nextCommand?_boundary whole opens none).trans opens.nextCommand?.symm)
  | case2 text command next ih =>
    have rest := (whole.nextCommand? next).2
    rw [levelCommands_some (nextCommand?_append whole opens next), behind_withTail opens rest, ih rest.behind_command]
    rfl

namespace Delimiter

variable {delimiter : Delimiter} {commands : List Command} (whole : ∀ command ∈ commands, Whole command.rest)
include whole

private theorem countP_withTail (delimiter : Delimiter) :
    (commands.map (Command.withTail tail)).countP delimiter.opens = commands.countP delimiter.opens ∧
      (commands.map (Command.withTail tail)).countP delimiter.closes = commands.countP delimiter.closes := by
  have same (command : Command) (member : command ∈ commands) :
      delimiter.opens (command.withTail tail) = delimiter.opens command ∧
        delimiter.closes (command.withTail tail) = delimiter.closes command := by
    cases delimiter with
    | commands => exact ⟨rfl, rfl⟩
    | environment =>
      simp only [Delimiter.opens, closes, blockName?_withTail opens (whole command member)]
      exact ⟨rfl, rfl⟩
  simp only [List.countP_map]
  refine ⟨List.countP_congr fun command member => ?_, List.countP_congr fun command member => ?_⟩
  · rw [Function.comp_apply, (same command member).1]
  · rw [Function.comp_apply, (same command member).2]

theorem Matched.withTail (matched : delimiter.Matched commands) :
    delimiter.Matched (commands.map (Command.withTail tail)) := by
  obtain ⟨openings, closings⟩ := countP_withTail opens whole delimiter
  refine ⟨fun earlier early => ?_, by rw [Exceeds, openings, closings]; exact matched.level⟩
  rw [List.prefix_iff_eq_take, ← List.map_take] at early
  have part : ∀ command ∈ commands.take earlier.length, Whole command.rest :=
    fun command member => whole command (List.mem_of_mem_take member)
  obtain ⟨openings, closings⟩ := countP_withTail opens part delimiter
  rw [early, openings, closings]
  exact matched.within _ (List.take_prefix _ _)

end Delimiter

end boundary

namespace Delimiter

variable {delimiter : Delimiter} {commands later : List Command} {last : Command}

private theorem Matched.closedBy (matched : delimiter.Matched commands) (opens : delimiter.opens last = false)
    (closes : delimiter.closes last = true) : delimiter.ClosedBy 0 (commands ++ last :: later) commands last := by
  refine ⟨⟨later, by simp⟩, ?_, fun earlier early exceeds => ?_⟩
  · have level := matched.level
    simp only [Exceeds, List.countP_append, List.countP_singleton, opens, closes] at level ⊢
    simp only [Bool.false_eq_true, if_true, if_false]
    omega
  · have within := matched.within earlier early
    unfold Exceeds at exceeds
    omega

end Delimiter

/-- Balanced braces and no backslash at the end: no group and no escape reaches beyond the text. -/
theorem whole_of_balanced {text : List Char} (balanced : braceLevel? 0 text = some 0) (complete : text.getLast? ≠ some '\\') :
    Whole text := by
  have shorten (before : List Char) {after : List Char} (same : text = before ++ after) : after.getLast? ≠ some '\\' := by
    intro last
    refine complete ?_
    rw [same, List.getLast?_append, last]
    rfl
  match text with
  | [] => exact .nil
  | c :: rest =>
    by_cases slash : c = '\\'
    · subst slash
      cases rest with
      | nil => exact absurd rfl complete
      | cons d later => exact .escaped d (whole_of_balanced balanced (shorten ['\\', d] rfl))
    by_cases opening : c = '{'
    -- A group is passed as a whole, so the recursion is on the length of what is left.
    · subst opening
      obtain ⟨after, closes, level⟩ := exists_closingBrace? balanced
      have shorter := length_closingBrace? closes
      obtain ⟨inner, same, -⟩ := exists_of_closingBrace? closes
      exact .group closes (whole_of_balanced level (shorten ('{' :: inner) (by simp [same])))
    by_cases closing : c = '}'
    · subst closing
      exact absurd balanced (by simp [braceLevel?])
    · exact .other slash opening
        (whole_of_balanced ((braceLevel?_cons slash opening closing).symm.trans balanced) (shorten [c] rfl))
termination_by text.length

/-- A body of an environment that is not closed within: its braces are balanced, it does not end in a backslash, and its
own environments of the name match up. -/
structure OpenThroughout (name body : List Char) : Prop where
  balanced : braceLevel? 0 body = some 0
  complete : body.getLast? ≠ some '\\'
  matched : (Delimiter.environment name).Matched (levelCommands body)

instance (name body : List Char) : Decidable (OpenThroughout name body) :=
  decidable_of_iff (braceLevel? 0 body = some 0 ∧ body.getLast? ≠ some '\\' ∧
      (Delimiter.environment name).Matched (levelCommands body))
    ⟨fun ⟨balanced, complete, matched⟩ => ⟨balanced, complete, matched⟩,
      fun stays => ⟨stays.balanced, stays.complete, stays.matched⟩⟩

namespace Delimiter

/-- The command that closes an environment, in front of a tail. -/
def closingCommand (name tail : List Char) : Command :=
  ⟨"end", commandText "end" ++ (braced name ++ tail), braced name ++ tail⟩

section closing

variable {name : List Char} (plain : ∀ c ∈ name, c ≠ '\\' ∧ c ≠ '{' ∧ c ≠ '}') (tail : List Char)
include plain

private theorem argument?_closing :
    argument? Text.isInlineSpace (closingCommand name tail).rest = some (⟨name, true⟩, tail) :=
  argument?_braced (balanced_of_forall plain) (by decide) tail

private theorem behind_closing : (closingCommand name tail).behind = tail := by
  rw [Command.behind, if_pos (.inr rfl), skipArgument, argument?_closing plain]
  rfl

private theorem closes_closing : (environment (Text.trim name)).closes (closingCommand name tail) = true := by
  have carried : (closingCommand name tail).blockName? = some (Text.trim name) := by
    rw [Command.blockName?, if_pos (.inr rfl), argument?_closing plain]
    rfl
  rw [closes, carried]
  simp [closingCommand]

private theorem levelCommands_closing :
    levelCommands (closingCommand name tail).start = closingCommand name tail :: levelCommands tail := by
  have next : nextCommand? (closingCommand name tail).start = some (closingCommand name tail) :=
    nextCommand?_commandText (by decide) (endsName_braced name tail)
  rw [levelCommands_some next, behind_closing plain]

end closing

/-- A block is closed by the first command outside groups that makes the closing commands one more than the opening
ones. So a body whose own environments of the name match up ends at the closing command behind it. -/
theorem find?_level :
    (∀ (delimiter : Delimiter) (text : List Char),
      ((delimiter.find? 0 text).isSome = true ↔ ∃ run, run <+: levelCommands text ∧ delimiter.Exceeds 1 run) ∧
        ∀ start after, delimiter.find? 0 text = some (start, after) ↔
          ∃ before last, delimiter.ClosedBy 0 (levelCommands text) before last ∧
            start = last.start ∧ after = delimiter.resume last) ∧
      ∀ name body : List Char, (∀ c ∈ name, c ≠ '\\' ∧ c ≠ '{' ∧ c ≠ '}') → Text.trim name = name →
        OpenThroughout name body → ∀ tail,
          (environment name).find? 0 (body ++ (commandText "end" ++ (braced name ++ tail))) =
            some (commandText "end" ++ (braced name ++ tail), tail) := by
  have found (delimiter : Delimiter) (text start after : List Char) :
      delimiter.find? 0 text = some (start, after) ↔
        ∃ before last, delimiter.ClosedBy 0 (levelCommands text) before last ∧
          start = last.start ∧ after = delimiter.resume last := by
    rw [find?_eq, Option.map_eq_some_iff]
    constructor
    · rintro ⟨last, closer, same⟩
      obtain ⟨before, closed⟩ := closer?_eq_some_iff.mp closer
      obtain ⟨rfl, rfl⟩ := Prod.mk.inj same
      exact ⟨before, last, closed, rfl, rfl⟩
    · rintro ⟨before, last, closed, rfl, rfl⟩
      exact ⟨last, closer?_eq_some_iff.mpr ⟨before, closed⟩, rfl⟩
  refine ⟨fun delimiter text => ⟨⟨fun some => ?_, fun ⟨run, within, ahead⟩ => ?_⟩, found delimiter text⟩, ?_⟩
  · obtain ⟨⟨start, after⟩, same⟩ := Option.isSome_iff_exists.mp some
    obtain ⟨before, last, closed, -⟩ := (found delimiter text start after).mp same
    exact ⟨_, closed.among, closed.ahead⟩
  · obtain ⟨before, last, closed⟩ := exists_closedBy within ahead
    exact Option.isSome_iff_exists.mpr ⟨_, (found delimiter text _ _).mpr ⟨before, last, closed, rfl, rfl⟩⟩
  · intro name body plain trimmed stays tail
    have whole : Whole body := whole_of_balanced stays.balanced stays.complete
    let last := closingCommand name tail
    have opens : OpensCommand last.start := ⟨_, rfl⟩
    have closes : (environment name).closes last = true := trimmed ▸ closes_closing plain tail
    have closed : (environment name).ClosedBy 0 (levelCommands (body ++ last.start))
        ((levelCommands body).map (Command.withTail last.start)) last := by
      rw [levelCommands_append opens whole, levelCommands_closing plain]
      exact (stays.matched.withTail opens whole.levelCommands).closedBy rfl closes
    exact (found _ _ _ _).mpr ⟨_, last, closed, rfl, (behind_closing plain tail).symm⟩

/-- A list inside is passed over, and so is a closing command in a group. -/
theorem find?_level_nestedList :
    OpenThroughout "itemize".toList "\\begin\x7bitemize\x7d\\end \x7b itemize\x7d \x7b\\end\x7bitemize\x7d\x7d".toList ∧
      (environment "itemize".toList).find? 0
          ("\\begin\x7bitemize\x7d\\end \x7b itemize\x7d \x7b\\end\x7bitemize\x7d\x7d".toList ++
            (commandText "end" ++ (braced "itemize".toList ++ "\\end\x7bitemize\x7d".toList))) =
        some (commandText "end" ++ (braced "itemize".toList ++ "\\end\x7bitemize\x7d".toList),
          "\\end\x7bitemize\x7d".toList) := by
  have stays : OpenThroughout "itemize".toList
      "\\begin\x7bitemize\x7d\\end \x7b itemize\x7d \x7b\\end\x7bitemize\x7d\x7d".toList := by
    decide +kernel
  have plain : ∀ c ∈ "itemize".toList, c ≠ '\\' ∧ c ≠ '{' ∧ c ≠ '}' := plain_of_letters (by decide)
  have trimmed : Text.trim "itemize".toList = "itemize".toList := by decide +kernel
  exact ⟨stays, find?_level.2 _ _ plain trimmed stays _⟩

end Delimiter

end Vitae.Markup
