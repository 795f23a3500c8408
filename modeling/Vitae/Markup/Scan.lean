import Vitae.Markup.Idiom

/-!
Reading markup from the left: brace arguments, bracket options, commands, and the bodies of blocks. Every
reader takes the text from where it stands and answers with the text behind what it read, so a position is
a suffix of the source. A backslash always takes the character after it out of the count of braces.
-/

namespace Vitae.Markup

/-- A stretch of markup between two delimiters; `closed` is false where the text ended first. -/
structure Enclosed where
  inner : List Char
  closed : Bool
deriving DecidableEq, Inhabited

/-- The part of a text before one of its suffixes. -/
def upTo (suffix text : List Char) : List Char :=
  text.take (text.length - suffix.length)

/-- The text behind the brace that closes `depth` inner groups and the one around them. -/
def closingBrace? (depth : Nat) : List Char → Option (List Char)
  | [] => none
  | '\\' :: [] => none
  | '\\' :: _ :: rest => closingBrace? depth rest
  | '{' :: rest => closingBrace? (depth + 1) rest
  | '}' :: rest =>
    match depth with
    | 0 => some rest
    | depth + 1 => closingBrace? depth rest
  | _ :: rest => closingBrace? depth rest

/-- The text behind the first bracket outside braces. -/
def closingBracket? (depth : Nat) : List Char → Option (List Char)
  | [] => none
  | '\\' :: [] => none
  | '\\' :: _ :: rest => closingBracket? depth rest
  | '{' :: rest => closingBracket? (depth + 1) rest
  | '}' :: rest => closingBracket? (depth - 1) rest
  | ']' :: rest => if depth = 0 then some rest else closingBracket? depth rest
  | _ :: rest => closingBracket? depth rest

/-- A brace group; one that is never closed runs to the end. -/
def group? : List Char → Option (Enclosed × List Char)
  | '{' :: rest =>
    match closingBrace? 0 rest with
    | some after => some (⟨rest.take (rest.length - after.length - 1), true⟩, after)
    | none => some (⟨rest, false⟩, [])
  | _ => none

/-- A brace argument with space of the given kind before it. -/
def argument? (skips : Char → Bool) (text : List Char) : Option (Enclosed × List Char) :=
  group? (text.dropWhile skips)

/-- A bracket option with blanks before it; brackets that are never closed are none. -/
def option? (text : List Char) : Option (List Char × List Char) :=
  match dropBlanks text with
  | '[' :: rest => (closingBracket? 0 rest).map fun after => (rest.take (rest.length - after.length - 1), after)
  | _ => none

def skipOption (text : List Char) : List Char :=
  ((option? text).map (·.2)).getD text

def skipArgument (text : List Char) : List Char :=
  ((argument? Text.isInlineSpace text).map (·.2)).getD text

/-- A command: its name without the backslash, the text from the backslash on, and the text behind the
name and the star it may carry. -/
structure Command where
  name : String
  start : List Char
  rest : List Char
deriving Inhabited

/-- A name is a run of letters, or else the one character behind the backslash, if there is one. -/
def command? : List Char → Option Command
  | '\\' :: rest =>
    match rest.takeWhile Char.isAlpha with
    | [] =>
      match rest with
      | [] => some ⟨"", ['\\'], []⟩
      | c :: later => some ⟨c.toString, '\\' :: c :: later, later⟩
    | name =>
      let after := rest.dropWhile Char.isAlpha
      some ⟨.ofList name, '\\' :: rest, (expect? ['*'] after).getD after⟩
  | _ => none

theorem command?_plain {c : Char} (noSlash : c ≠ '\\') (rest : List Char) : command? (c :: rest) = none := by
  rw [command?]
  exact fun _ same => noSlash (List.cons.inj same).1

theorem command?_slash (rest : List Char) : ∃ command, command? ('\\' :: rest) = some command := by
  unfold command?
  simp only
  split
  · cases rest <;> exact ⟨_, rfl⟩
  · exact ⟨_, rfl⟩

theorem length_closingBrace? {depth : Nat} {text after : List Char}
    (found : closingBrace? depth text = some after) : after.length < text.length := by
  fun_induction closingBrace? depth text with
  | case1 | case2 => contradiction
  | case3 _ _ _ ih =>
    have := ih found
    simp only [List.length_cons]
    omega
  | case4 _ _ ih =>
    have := ih found
    simp only [List.length_cons]
    omega
  | case5 rest =>
    cases found
    simp
  | case6 rest _ ih =>
    have := ih found
    simp only [List.length_cons]
    omega
  | case7 _ _ _ _ _ _ _ ih =>
    have := ih found
    simp only [List.length_cons]
    omega

theorem length_closingBracket? {depth : Nat} {text after : List Char}
    (found : closingBracket? depth text = some after) : after.length < text.length := by
  fun_induction closingBracket? depth text <;> grind

theorem length_group? {text after : List Char} {group : Enclosed}
    (found : group? text = some (group, after)) :
    after.length < text.length ∧ group.inner.length < text.length := by
  unfold group? at found
  split at found
  · rename_i rest
    split at found
    · rename_i closing
      have := length_closingBrace? closing
      grind
    · grind
  · contradiction

theorem length_argument? {skips : Char → Bool} {text after : List Char} {group : Enclosed}
    (found : argument? skips text = some (group, after)) :
    after.length < text.length ∧ group.inner.length < text.length := by
  have := length_group? found
  have := length_dropWhile_le skips text
  omega

theorem length_option? {text inner after : List Char} (found : option? text = some (inner, after)) :
    after.length < text.length := by
  have blanks := length_dropBlanks_le text
  unfold option? at found
  split at found
  · rename_i rest same
    simp only [Option.map_eq_some_iff, Prod.mk.injEq] at found
    obtain ⟨closing, found, -, rfl⟩ := found
    have := length_closingBracket? found
    simp only [same, List.length_cons] at blanks
    omega
  · contradiction

theorem length_skipOption_le (text : List Char) : (skipOption text).length ≤ text.length := by
  unfold skipOption
  cases found : option? text with
  | none => simp
  | some pair =>
    have := length_option? found
    simp only [Option.map_some, Option.getD_some]
    omega

theorem length_skipArgument_le (text : List Char) : (skipArgument text).length ≤ text.length := by
  unfold skipArgument
  cases found : argument? Text.isInlineSpace text with
  | none => simp
  | some pair =>
    have := (length_argument? found).1
    simp only [Option.map_some, Option.getD_some]
    omega

theorem length_command? {text : List Char} {command : Command} (found : command? text = some command) :
    command.rest.length < text.length ∧ command.start = text := by
  unfold command? at found
  split at found
  · rename_i rest
    split at found
    · split at found <;> grind
    · have dropped := length_dropWhile_le Char.isAlpha rest
      cases star : expect? ['*'] (rest.dropWhile Char.isAlpha) with
      | none => grind
      | some after =>
        have := length_expect? star
        grind
  · contradiction

/-- The next command outside brace groups, which are stepped over whole. -/
def nextCommand? (text : List Char) : Option Command :=
  match _rest : text.dropWhile fun c => c != '\\' && c != '{' with
  | '{' :: rest =>
    match _closing : closingBrace? 0 rest with
    | some after => nextCommand? after
    | none => none
  | here => command? here
termination_by text.length
decreasing_by
  have := length_closingBrace? _closing
  have dropped := length_dropWhile_le (fun c => c != '\\' && c != '{') text
  rw [_rest] at dropped
  simp only [List.length_cons] at dropped
  omega

theorem nextCommand?_group {text rest after : List Char}
    (same : text.dropWhile (fun c => c != '\\' && c != '{') = '{' :: rest) (closes : closingBrace? 0 rest = some after) :
    nextCommand? text = nextCommand? after := by
  rw [nextCommand?.eq_def]
  split
  next inner here =>
    obtain rfl : rest = inner := (List.cons.inj (same.symm.trans here)).2
    split
    next later found =>
      obtain rfl : after = later := Option.some.inj (closes.symm.trans found)
      rfl
    next none => exact absurd (closes.symm.trans none) (by simp)
  next other => exact absurd same (other _)

theorem nextCommand?_here {text here : List Char}
    (same : text.dropWhile (fun c => c != '\\' && c != '{') = here) (noGroup : ∀ rest, here ≠ '{' :: rest) :
    nextCommand? text = command? here := by
  rw [nextCommand?.eq_def]
  split
  next inner group => exact absurd (same.symm.trans group) (noGroup inner)
  next => rw [same]

theorem length_nextCommand? {text : List Char} {command : Command} (found : nextCommand? text = some command) :
    command.rest.length < command.start.length ∧ command.start.length ≤ text.length := by
  fun_induction nextCommand? text with
  | case1 text rest same after closing ih =>
    have := ih found
    have := length_closingBrace? closing
    have dropped := length_dropWhile_le (fun c => c != '\\' && c != '{') text
    rw [same] at dropped
    simp only [List.length_cons] at dropped
    omega
  | case2 => contradiction
  | case3 text _ =>
    have read := length_command? found
    have dropped := length_dropWhile_le (fun c => c != '\\' && c != '{') text
    rw [read.2]
    omega

/-- What opens and closes a block: an environment of a name, or a pair of commands. -/
inductive Delimiter where
  | environment (name : List Char)
  | commands (opening closing : String)
deriving DecidableEq

inductive Role where
  | opening
  | closing
  | neither
deriving DecidableEq

/-- The part a command plays for a delimiter, and the text behind the command and the environment name it
carries. -/
def Delimiter.role (delimiter : Delimiter) (command : Command) : Role × List Char :=
  match delimiter with
  | .environment name =>
    if command.name = "begin" ∨ command.name = "end" then
      match argument? Text.isInlineSpace command.rest with
      | some (group, after) =>
        if Text.trim group.inner ≠ name then (.neither, after)
        else (if command.name = "begin" then .opening else .closing, after)
      | none => (.neither, command.rest)
    else (.neither, command.rest)
  | .commands opening closing =>
    (if command.name = opening then .opening else if command.name = closing then .closing else .neither,
      command.rest)

theorem length_role_le (delimiter : Delimiter) (command : Command) :
    (delimiter.role command).2.length ≤ command.rest.length := by
  unfold Delimiter.role
  split
  · split
    · split
      · rename_i found
        have := (length_argument? found).1
        split <;> simp only <;> omega
      · simp
    · simp
  · simp

/-- Where the body of a block ends: the text from its closing command on, and the text behind that.
Blocks of the same kind inside are stepped over; `depth` of them are open. -/
def Delimiter.find? (delimiter : Delimiter) (depth : Nat) (text : List Char) :
    Option (List Char × List Char) :=
  match _found : nextCommand? text with
  | none => none
  | some command =>
    match (delimiter.role command).1, depth with
    | .opening, depth => delimiter.find? (depth + 1) (delimiter.role command).2
    | .closing, 0 => some (command.start, (delimiter.role command).2)
    | .closing, depth + 1 => delimiter.find? depth (delimiter.role command).2
    | .neither, depth => delimiter.find? depth (delimiter.role command).2
termination_by text.length
decreasing_by
  all_goals
    have := length_nextCommand? _found
    have := length_role_le delimiter command
    omega

theorem length_find? {delimiter : Delimiter} {depth : Nat} {text start after : List Char}
    (found : delimiter.find? depth text = some (start, after)) :
    after.length < start.length ∧ start.length ≤ text.length := by
  fun_induction Delimiter.find? delimiter depth text with
  | case1 => contradiction
  | _ =>
    have := length_nextCommand? ‹_ = some _›
    have := length_role_le delimiter ‹Command›
    grind

/-- The body of a block whose opening has been read; one that is never closed runs to the end. -/
def Delimiter.body (delimiter : Delimiter) (text : List Char) : Enclosed × List Char :=
  match delimiter.find? 0 text with
  | some (start, after) => (⟨upTo start text, true⟩, after)
  | none => (⟨text, false⟩, [])

theorem length_upTo_le (suffix text : List Char) : (upTo suffix text).length ≤ text.length := by
  simp only [upTo, List.length_take]
  omega

theorem length_body_le (delimiter : Delimiter) (text : List Char) :
    (delimiter.body text).1.inner.length ≤ text.length ∧ (delimiter.body text).2.length ≤ text.length := by
  unfold Delimiter.body
  split
  · have := length_find? ‹_›
    exact ⟨length_upTo_le _ _, by simp only; omega⟩
  · simp

end Vitae.Markup
