import Vitae.Markup.Scan

/-!
The inner layout of blocks: the items of a list body, the minipages of a centered body and what stands
between them. Blocks inside belong to the part they stand in and are stepped over.
-/

namespace Vitae.Markup

def minipageName : List Char := "minipage".toList

def itemList : Delimiter :=
  .commands "resumeItemListStart" "resumeItemListEnd"

/-- The environment that a command opens, its name trimmed, and the text behind the name. -/
def opened? (command : Command) : Option (List Char × List Char) :=
  if command.name = "begin" then
    (argument? Text.isInlineSpace command.rest).map fun (group, after) => (Text.trim group.inner, after)
  else none

/-- The text behind a command and behind the environment it opens, if that is closed. -/
def overEnvironment (command : Command) : List Char :=
  match opened? command with
  | some (name, after) => ((Delimiter.environment name).find? 0 after).elim after (·.2)
  | none => command.rest

/-- The text behind a command and behind the environment or marked list it opens. -/
def overBlock (command : Command) : List Char :=
  if command.name = "resumeItemListStart" then (itemList.find? 0 command.rest).elim command.rest (·.2)
  else overEnvironment command

theorem length_opened? {command : Command} {name after : List Char}
    (found : opened? command = some (name, after)) : after.length ≤ command.rest.length := by
  unfold opened? at found
  split at found
  · simp only [Option.map_eq_some_iff, Prod.mk.injEq] at found
    obtain ⟨pair, found, -, rfl⟩ := found
    have := (length_argument? found).1
    omega
  · contradiction

theorem length_overEnvironment_le (command : Command) :
    (overEnvironment command).length ≤ command.rest.length := by
  unfold overEnvironment
  split
  · rename_i name after found
    have := length_opened? found
    cases same : (Delimiter.environment name).find? 0 after with
    | none => simpa using this
    | some pair =>
      have := length_find? same
      simp only [Option.elim_some]
      omega
  · simp

theorem length_overBlock_le (command : Command) : (overBlock command).length ≤ command.rest.length := by
  unfold overBlock
  split
  · cases same : itemList.find? 0 command.rest with
    | none => simp
    | some pair =>
      have := length_find? same
      simp only [Option.elim_some]
      omega
  · exact length_overEnvironment_le command

/-- The text behind a command that introduces an item, with the label it may carry. -/
def introduced? (command : Command) : Option (List Char) :=
  if command.name = "item" then some (skipOption command.rest)
  else if command.name = "resumeItem" then some command.rest
  else none

/-- The introducers of a list's own items: the text from each on, and the text behind it. -/
def introducers (text : List Char) : List (List Char × List Char) :=
  match _found : nextCommand? text with
  | none => []
  | some command =>
    match _item : introduced? command with
    | some content => (command.start, content) :: introducers content
    | none => introducers (overBlock command)
termination_by text.length
decreasing_by
  · have := length_nextCommand? _found
    have : content.length ≤ command.rest.length := by
      unfold introduced? at _item
      have := length_skipOption_le command.rest
      grind
    omega
  · have := length_nextCommand? _found
    have := length_overBlock_le command
    omega

/-- The content behind each introducer up to the next. -/
def itemContents : List (List Char × List Char) → List (List Char)
  | [] => []
  | [(_, content)] => [content]
  | (_, content) :: (start, next) :: rest => upTo start content :: itemContents ((start, next) :: rest)

/-- A list body: the content before its first item, and its items. -/
structure Items where
  lead : List Char
  items : List (List Char)
deriving DecidableEq

def splitItems (body : List Char) : Items :=
  match introducers body with
  | [] => ⟨body, []⟩
  | (start, content) :: later => ⟨upTo start body, itemContents ((start, content) :: later)⟩

/-- The body of a minipage whose opening has been read; its position and width say nothing. -/
def minipage (text : List Char) : Enclosed × List Char :=
  (Delimiter.environment minipageName).body (skipArgument (skipOption text))

theorem length_minipage_le (text : List Char) :
    (minipage text).1.inner.length ≤ text.length ∧ (minipage text).2.length ≤ text.length := by
  have := length_body_le (.environment minipageName) (skipArgument (skipOption text))
  have := length_skipArgument_le (skipOption text)
  have := length_skipOption_le text
  unfold minipage
  omega

/-- The text behind the opening of a minipage. -/
def openedMinipage? (command : Command) : Option (List Char) :=
  match opened? command with
  | some (name, after) => if name = minipageName then some after else none
  | none => none

theorem length_openedMinipage? {command : Command} {after : List Char}
    (found : openedMinipage? command = some after) : after.length ≤ command.rest.length := by
  unfold openedMinipage? at found
  split at found
  · rename_i opening
    have := length_opened? opening
    grind
  · contradiction

/-- Holds where an environment of the name stands outside all other environments. -/
def holdsEnvironment (name text : List Char) : Bool :=
  match _found : nextCommand? text with
  | none => false
  | some command => (opened? command).any (·.1 = name) || holdsEnvironment name (overEnvironment command)
termination_by text.length
decreasing_by
  have := length_nextCommand? _found
  have := length_overEnvironment_le command
  omega

inductive Column where
  | stray (text : List Char)
  | minipage (body : Enclosed)
deriving DecidableEq

/-- The columns of a body from `text` on; the stray text before them begins at `stray`. -/
def columns (stray text : List Char) : List Column :=
  match _found : nextCommand? text with
  | none => [.stray stray]
  | some command =>
    match _opened : openedMinipage? command with
    | some after =>
      .stray (upTo command.start stray) :: .minipage (minipage after).1 ::
        columns (minipage after).2 (minipage after).2
    | none => columns stray (overEnvironment command)
termination_by text.length
decreasing_by
  · have := length_nextCommand? _found
    have := length_openedMinipage? _opened
    have := length_minipage_le after
    omega
  · have := length_nextCommand? _found
    have := length_overEnvironment_le command
    omega

/-- The text behind white space and the spacing commands that may stand between minipages. -/
def skipColumnSpacing (text : List Char) : List Char :=
  match _found : command? (text.dropWhile Text.isSpace) with
  | some command =>
    if command.name = "hfill" then skipColumnSpacing command.rest
    else if command.name = "hspace" then skipColumnSpacing (skipArgument command.rest)
    else text.dropWhile Text.isSpace
  | none => text.dropWhile Text.isSpace
termination_by text.length
decreasing_by
  all_goals
    have := length_command? _found
    have := length_dropWhile_le Text.isSpace text
    have := length_skipArgument_le command.rest
    omega

theorem length_skipColumnSpacing_le (text : List Char) : (skipColumnSpacing text).length ≤ text.length := by
  fun_induction skipColumnSpacing text with
  | case1 text command found _ ih =>
    have := length_command? found
    have := length_dropWhile_le Text.isSpace text
    omega
  | case2 text command found _ _ ih =>
    have := length_command? found
    have := length_dropWhile_le Text.isSpace text
    have := length_skipArgument_le command.rest
    omega
  | case3 | case4 => exact length_dropWhile_le Text.isSpace _

/-- The bodies of a row of minipages, the first of which has been opened, and the text behind them. -/
def minipages (text : List Char) : List Enclosed × List Char :=
  match _found : command? (skipColumnSpacing (minipage text).2) >>= openedMinipage? with
  | some next => ((minipage text).1 :: (minipages next).1, (minipages next).2)
  | none => ([(minipage text).1], (minipage text).2)
termination_by text.length
decreasing_by
  all_goals
    simp only [Option.bind_eq_bind, Option.bind_eq_some_iff] at _found
    obtain ⟨command, read, opened⟩ := _found
    have := length_command? read
    have := length_openedMinipage? opened
    have := length_skipColumnSpacing_le (minipage text).2
    have := length_minipage_le text
    omega

end Vitae.Markup
