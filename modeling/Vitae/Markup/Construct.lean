import Vitae.Markup.Block
import Vitae.Markup.Normal
import Vitae.Markup.Vocabulary

/-!
Constructs: normalized markup is a sequence of them. Which construct comes next, and how far it reaches,
depends on the text alone; what it means is decided elsewhere. The parts of a construct are still markup,
each shorter than the text it was read from.
-/

namespace Vitae.Markup

inductive Construct where
  | run (text : List Char)
  | symbol (text : String)
  | lineBreak
  | separator
  /-- Markup that leaves no trace. -/
  | silent
  | unmatchedBrace
  | group (content : Enclosed)
  | styled (command : String) (style : SpanStyle) (argument? : Option Enclosed)
  /-- The name banner: the bold argument as a whole, the name in it, and the contacts behind it. -/
  | banner (argument : Enclosed) (name contacts : List Char)
  /-- A declaration styles the rest of the text; a color is declared by an argument. -/
  | declaration (color? : Option Enclosed) (style : SpanStyle) (scope : List Char)
  | color (argument? : Option Enclosed)
  | heading (title? : Option Enclosed)
  | href (target? label? : Option Enclosed)
  | url (target? : Option Enclosed)
  | entry (fields : List Enclosed)
  /-- A run of items outside any list. -/
  | looseItems (items : List (Option Enclosed))
  | list (opening : List Char) (bulleted : Bool) (body : Enclosed)
  | minipages (bodies : List Enclosed)
  | center (body : Enclosed)
  | document (body : Enclosed)
  | environment (name : List Char) (body : Enclosed)
  | unnamedBegin
  | unmatchedEnd (name : List Char)
  | unmatchedListEnd
  | itemOutsideList
  | unknown (command : String) (argument? : Option Enclosed)

/-- An argument that may be missing, and the text behind it. -/
def argumentOr (skips : Char → Bool) (text : List Char) : Option Enclosed × List Char :=
  match argument? skips text with
  | some (group, after) => (some group, after)
  | none => (none, text)

/-- At most `count` arguments in a row. -/
def arguments (count : Nat) (text : List Char) : List Enclosed × List Char :=
  match count with
  | 0 => ([], text)
  | count + 1 =>
    match argument? Text.isSpace text with
    | some (group, after) => (group :: (arguments count after).1, (arguments count after).2)
    | none => ([], text)

/-- The text behind at most `count` arguments, each with the option before it. -/
def skipArguments (count : Nat) (text : List Char) : List Char :=
  match count with
  | 0 => text
  | count + 1 =>
    match argument? Text.isInlineSpace (skipOption text) with
    | some (_, after) => skipArguments count after
    | none => skipOption text

/-- The name in a bold argument that opens with a banner size and small capitals, in any order. -/
def bannerName? (sized smallCaps : Bool) (text : List Char) : Option (List Char) :=
  match _found : command? (text.dropWhile Text.isSpace) with
  | some command =>
    if command.name ∈ bannerSizes then bannerName? true smallCaps command.rest
    else if command.name = "scshape" then bannerName? sized true command.rest
    else if command.name ∈ sizes ∨ (styleDeclaration? command.name).isSome then
      bannerName? sized smallCaps command.rest
    else if sized ∧ smallCaps then some command.start else none
  | none => if sized ∧ smallCaps then some (text.dropWhile Text.isSpace) else none
termination_by text.length
decreasing_by
  all_goals
    have := length_command? _found
    have := length_dropWhile_le Text.isSpace text
    omega

/-- The text from the first structural command on. -/
def fromStructure (text : List Char) : List Char :=
  match _found : nextCommand? text with
  | some command => if command.name ∈ structuralCommands then command.start else fromStructure command.rest
  | none => []
termination_by text.length
decreasing_by
  have := length_nextCommand? _found
  omega

theorem length_argumentOr_le (skips : Char → Bool) (text : List Char) :
    (argumentOr skips text).2.length ≤ text.length := by
  unfold argumentOr
  split
  · rename_i found
    have := (length_argument? found).1
    simp only
    omega
  · simp

/-- The arguments of a run of item commands, the first of which has been read. -/
def looseItems (text : List Char) : List (Option Enclosed) × List Char :=
  match _found : command? ((argumentOr Text.isSpace text).2.dropWhile Text.isSpace) with
  | some command =>
    if command.name = "resumeItem" then
      ((argumentOr Text.isSpace text).1 :: (looseItems command.rest).1, (looseItems command.rest).2)
    else ([(argumentOr Text.isSpace text).1], (argumentOr Text.isSpace text).2)
  | none => ([(argumentOr Text.isSpace text).1], (argumentOr Text.isSpace text).2)
termination_by text.length
decreasing_by
  all_goals
    have := length_command? _found
    have := length_dropWhile_le Text.isSpace (argumentOr Text.isSpace text).2
    have := length_argumentOr_le Text.isSpace text
    omega

/-- A block whose name has been read, and the text behind it. -/
def environment (name text : List Char) : Construct × List Char :=
  if name = "center".toList then
    let (body, after) := (Delimiter.environment name).body text
    (.center body, after)
  else if name = minipageName then
    let (bodies, after) := minipages text
    (.minipages bodies, after)
  else if .ofList name ∈ listEnvironments then
    let bulleted := !((option? text).any fun (options, _) => hidesBullets options)
    let (body, after) := (Delimiter.environment name).body (skipOption text)
    (.list ("\\begin\x7b".toList ++ name ++ ['\x7d']) bulleted body, after)
  else if name = "document".toList then
    let (body, after) := (Delimiter.environment name).body text
    (.document body, after)
  else
    let (body, after) := (Delimiter.environment name).body (skipOption text)
    (.environment name body, after)

/-- A declaration reaches to the end of its group; on the top level there is no group, and it says
nothing. -/
def declared (top : Bool) (color? : Option Enclosed) (style : SpanStyle) (text : List Char) :
    Construct × List Char :=
  if top then (match color? with | some color => .color (some color) | none => .silent, text)
  else (.declaration color? style text, [])

/-- The construct that a command opens, given the text behind its name. -/
def commandConstruct (top : Bool) (name : String) (text : List Char) : Construct × List Char :=
  match styleCommand? name, styleDeclaration? name with
  | some style, _ =>
    let (argument?, after) := argumentOr Text.isInlineSpace text
    match if name = "textbf" then argument? else none with
    | some argument =>
      match bannerName? false false argument.inner with
      | some title => (.banner argument title (upTo (fromStructure after) after), fromStructure after)
      | none => (.styled name style argument?, after)
    | none => (.styled name style argument?, after)
  | none, some style => declared top none style text
  | none, none =>
    match name with
    | "" => (.silent, text)
    | "section" =>
      let (title?, after) := argumentOr Text.isInlineSpace text
      (.heading title?, after)
    | "href" =>
      match argumentOr Text.isInlineSpace text with
      | (none, after) => (.href none none, after)
      | (some target, after) =>
        let (label?, after) := argumentOr Text.isInlineSpace after
        (.href (some target) label?, after)
    | "url" =>
      let (target?, after) := argumentOr Text.isInlineSpace text
      (.url target?, after)
    | "color" =>
      match argumentOr Text.isInlineSpace text with
      | (none, after) => (.color none, after)
      | (some color, after) =>
        match colorStyle? color.inner with
        | some style => declared top (some color) style after
        | none => (.color (some color), after)
    | "resumeSubheading" =>
      let (fields, after) := arguments 4 text
      (.entry fields, after)
    | "resumeItemListStart" =>
      let (body, after) := itemList.body text
      (.list "\\resumeItemListStart".toList true body, after)
    | "resumeItem" =>
      let (items, after) := looseItems text
      (.looseItems items, after)
    | "resumeSubHeadingListStart" => (.silent, text)
    | "resumeSubHeadingListEnd" => (.silent, text)
    | "resumeItemListEnd" => (.unmatchedListEnd, text)
    | "item" => (.itemOutsideList, skipOption text)
    | "begin" =>
      match argument? Text.isInlineSpace text with
      | some (group, after) => environment (Text.trim group.inner) after
      | none => (.unnamedBegin, text)
    | "end" =>
      let (group?, after) := argumentOr Text.isInlineSpace text
      (.unmatchedEnd (group?.elim [] fun group => Text.trim group.inner), after)
    | name =>
      if name ∈ silentCommands then (.silent, text)
      else match droppedArguments? name, symbol? name with
        | some count, _ => (.silent, skipArguments count text)
        | none, some shown => (.symbol shown, text)
        | none, none =>
          let (argument?, after) := argumentOr Text.isInlineSpace (skipOption text)
          (.unknown name argument?, after)

def isPlain (c : Char) : Bool :=
  !(c == '\\' || c == '\x7b' || c == '\x7d' || c == '$' || c == lineBreakMark || c == separatorMark)

/-- The construct at the head of a text that begins with `c`, and the text behind it. `top` holds outside
all groups. -/
def construct (top : Bool) (c : Char) (rest : List Char) : Construct × List Char :=
  if c = '\\' then
    match command? (c :: rest) with
    | some command => commandConstruct top command.name command.rest
    | none => (.silent, rest)
  else if c = '\x7b' then
    match group? (c :: rest) with
    | some (content, after) => (.group content, after)
    | none => (.silent, rest)
  else if c = '\x7d' then (.unmatchedBrace, rest)
  else if c = '$' then (.silent, rest)
  else if c = lineBreakMark then (.lineBreak, rest)
  else if c = separatorMark then (.separator, rest)
  else (.run (c :: rest.takeWhile isPlain), rest.dropWhile isPlain)

theorem length_arguments_le (count : Nat) (text : List Char) :
    (arguments count text).2.length ≤ text.length := by
  induction count generalizing text with
  | zero => simp [arguments]
  | succ count ih =>
    unfold arguments
    split
    · rename_i after found
      have := (length_argument? found).1
      have := ih after
      simp only
      omega
    · simp

theorem length_skipArguments_le (count : Nat) (text : List Char) :
    (skipArguments count text).length ≤ text.length := by
  induction count generalizing text with
  | zero => simp [skipArguments]
  | succ count ih =>
    unfold skipArguments
    have := length_skipOption_le text
    split
    · rename_i after found
      have := (length_argument? found).1
      have := ih after
      omega
    · exact this

theorem length_fromStructure_le (text : List Char) : (fromStructure text).length ≤ text.length := by
  fun_induction fromStructure text with
  | case1 text command found =>
    have := length_nextCommand? found
    omega
  | case2 text command found _ ih =>
    have := length_nextCommand? found
    omega
  | case3 => simp

theorem length_looseItems_le (text : List Char) : (looseItems text).2.length ≤ text.length := by
  fun_induction looseItems text with
  | case1 text command found _ ih =>
    have := length_command? found
    have := length_dropWhile_le Text.isSpace (argumentOr Text.isSpace text).2
    have := length_argumentOr_le Text.isSpace text
    simp only
    omega
  | case2 | case3 => exact length_argumentOr_le Text.isSpace _

theorem length_minipages_le (text : List Char) : (Markup.minipages text).2.length ≤ text.length := by
  fun_induction Markup.minipages text with
  | case1 text next found ih =>
    simp only [Option.bind_eq_bind, Option.bind_eq_some_iff] at found
    obtain ⟨command, read, opened⟩ := found
    have := length_command? read
    have := length_openedMinipage? opened
    have := length_skipColumnSpacing_le (minipage text).2
    have := length_minipage_le text
    simp only
    omega
  | case2 text => exact (length_minipage_le text).2

/-- How a block is read, given its name and the text behind it. -/
inductive EnvironmentReading (name text : List Char) : Construct → List Char → Prop
  | center : EnvironmentReading name text (.center ((Delimiter.environment name).body text).1)
      ((Delimiter.environment name).body text).2
  | minipages : EnvironmentReading name text (.minipages (Markup.minipages text).1) (Markup.minipages text).2
  | list {bulleted} (listed : .ofList name ∈ listEnvironments) :
      EnvironmentReading name text
        (.list ("\\begin\x7b".toList ++ name ++ ['\x7d']) bulleted ((Delimiter.environment name).body (skipOption text)).1)
        ((Delimiter.environment name).body (skipOption text)).2
  | document : EnvironmentReading name text (.document ((Delimiter.environment name).body text).1)
      ((Delimiter.environment name).body text).2
  | unknown : EnvironmentReading name text (.environment name ((Delimiter.environment name).body (skipOption text)).1)
      ((Delimiter.environment name).body (skipOption text)).2

theorem environmentReading (name text : List Char) :
    EnvironmentReading name text (environment name text).1 (environment name text).2 := by
  unfold environment
  split
  next => exact .center
  split
  next => exact .minipages
  split
  next listed => exact .list listed
  split
  next => exact .document
  next => exact .unknown

/-- How a command is read, given its name and the text behind it. -/
inductive CommandReading (top : Bool) (name : String) (text : List Char) : Construct → List Char → Prop
  | silent : CommandReading top name text .silent text
  | styled {style} (styles : styleCommand? name = some style) :
      CommandReading top name text (.styled name style (argumentOr Text.isInlineSpace text).1)
        (argumentOr Text.isInlineSpace text).2
  | banner {argument title} (found : (argumentOr Text.isInlineSpace text).1 = some argument)
      (shown : bannerName? false false argument.inner = some title) :
      CommandReading top name text
        (.banner argument title
          (upTo (fromStructure (argumentOr Text.isInlineSpace text).2) (argumentOr Text.isInlineSpace text).2))
        (fromStructure (argumentOr Text.isInlineSpace text).2)
  | declaration {style} : CommandReading top name text (.declaration none style text) []
  | heading : CommandReading top name text (.heading (argumentOr Text.isInlineSpace text).1)
      (argumentOr Text.isInlineSpace text).2
  | noTarget (missing : (argumentOr Text.isInlineSpace text).1 = none) :
      CommandReading top name text (.href none none) (argumentOr Text.isInlineSpace text).2
  | href {target} (found : (argumentOr Text.isInlineSpace text).1 = some target) :
      CommandReading top name text
        (.href (some target) (argumentOr Text.isInlineSpace (argumentOr Text.isInlineSpace text).2).1)
        (argumentOr Text.isInlineSpace (argumentOr Text.isInlineSpace text).2).2
  | url : CommandReading top name text (.url (argumentOr Text.isInlineSpace text).1) (argumentOr Text.isInlineSpace text).2
  | color {color?} (found : (argumentOr Text.isInlineSpace text).1 = color?) :
      CommandReading top name text (.color color?) (argumentOr Text.isInlineSpace text).2
  | colored {color style} (found : (argumentOr Text.isInlineSpace text).1 = some color) :
      CommandReading top name text (.declaration (some color) style (argumentOr Text.isInlineSpace text).2) []
  | entry : CommandReading top name text (.entry (arguments 4 text).1) (arguments 4 text).2
  | itemList : CommandReading top name text (.list "\\resumeItemListStart".toList true (Markup.itemList.body text).1)
      (Markup.itemList.body text).2
  | looseItems : CommandReading top name text (.looseItems (Markup.looseItems text).1) (Markup.looseItems text).2
  | unmatchedListEnd : CommandReading top name text .unmatchedListEnd text
  | itemOutsideList : CommandReading top name text .itemOutsideList (skipOption text)
  | environment {group between read after} (found : argument? Text.isInlineSpace text = some (group, between))
      (block : EnvironmentReading (Text.trim group.inner) between read after) : CommandReading top name text read after
  | unnamedBegin : CommandReading top name text .unnamedBegin text
  | unmatchedEnd :
      CommandReading top name text
        (.unmatchedEnd ((argumentOr Text.isInlineSpace text).1.elim [] fun group => Text.trim group.inner))
        (argumentOr Text.isInlineSpace text).2
  | dropped {count} (drops : droppedArguments? name = some count) :
      CommandReading top name text .silent (skipArguments count text)
  | symbol {shown} (stands : symbol? name = some shown) : CommandReading top name text (.symbol shown) text
  | unknown : CommandReading top name text (.unknown name (argumentOr Text.isInlineSpace (skipOption text)).1)
      (argumentOr Text.isInlineSpace (skipOption text)).2

theorem commandReading (top : Bool) (name : String) (text : List Char) :
    CommandReading top name text (commandConstruct top name text).1 (commandConstruct top name text).2 := by
  have argument {found? : Option Enclosed} {after : List Char}
      (read : argumentOr Text.isInlineSpace text = (found?, after)) :
      (argumentOr Text.isInlineSpace text).1 = found? ∧ after = (argumentOr Text.isInlineSpace text).2 := by
    simp [read]
  unfold commandConstruct
  split
  next style _ styles =>
    simp only
    split
    next bold chosen =>
      have found : (argumentOr Text.isInlineSpace text).1 = some bold := by
        split at chosen
        · exact chosen
        · contradiction
      split
      next title shown => exact .banner found shown
      next => exact .styled styles
    next => exact .styled styles
  next =>
    -- On the top level a declaration says nothing.
    cases top with
    | true => exact .silent
    | false => exact .declaration
  next =>
    split
    · exact .silent
    · exact .heading
    · split
      next read =>
        obtain ⟨missing, rfl⟩ := argument read
        exact .noTarget missing
      next read =>
        obtain ⟨found, rfl⟩ := argument read
        exact .href found
    · exact .url
    · split
      next read =>
        obtain ⟨missing, rfl⟩ := argument read
        exact .color missing
      next read =>
        obtain ⟨found, rfl⟩ := argument read
        split
        next =>
          cases top with
          | true => exact .color found
          | false => exact .colored found
        next => exact .color found
    · exact .entry
    · exact .itemList
    · exact .looseItems
    · exact .silent
    · exact .silent
    · exact .unmatchedListEnd
    · exact .itemOutsideList
    · split
      next found => exact .environment found (environmentReading _ _)
      next => exact .unnamedBegin
    · exact .unmatchedEnd
    · split
      · exact .silent
      · split
        next drops => exact .dropped drops
        next stands => exact .symbol stands
        next => exact .unknown

/-- How a text that begins with `c` is read. -/
inductive Reading (top : Bool) (c : Char) (rest : List Char) : Construct → List Char → Prop
  | command {command read after} (found : command? (c :: rest) = some command)
      (opened : CommandReading top command.name command.rest read after) : Reading top c rest read after
  | group {content after} (found : group? (c :: rest) = some (content, after)) : Reading top c rest (.group content) after
  | sign {read} (plain : c ≠ '\\' ∧ c ≠ '\x7b') (signs : read ∈ [.silent, .unmatchedBrace, .lineBreak, .separator]) :
      Reading top c rest read rest
  | run (plain : c ≠ '\\' ∧ c ≠ '\x7b') (noMark : c ≠ lineBreakMark ∧ c ≠ separatorMark) :
      Reading top c rest (.run (c :: rest.takeWhile isPlain)) (rest.dropWhile isPlain)

theorem reading (top : Bool) (c : Char) (rest : List Char) :
    Reading top c rest (construct top c rest).1 (construct top c rest).2 := by
  unfold construct
  split
  next slash =>
    subst slash
    obtain ⟨command, found⟩ := command?_slash rest
    rw [found]
    exact .command found (commandReading top command.name command.rest)
  next noSlash =>
    split
    next opening =>
      subst opening
      cases found : group? ('\x7b' :: rest) with
      | none =>
        unfold group? at found
        simp only at found
        split at found <;> contradiction
      | some pair => exact .group found
    next noOpening =>
      have plain := And.intro noSlash noOpening
      split
      · exact .sign plain (by simp)
      split
      · exact .sign plain (by simp)
      split
      · exact .sign plain (by simp)
      split
      · exact .sign plain (by simp)
      next noLineBreak noSeparator => exact .run plain ⟨noLineBreak, noSeparator⟩

section lengths

variable {top : Bool} {read : Construct} {after : List Char}

theorem EnvironmentReading.length_le {name text : List Char} (block : EnvironmentReading name text read after) :
    after.length ≤ text.length := by
  have whole := (length_body_le (.environment name) text).2
  have behind := (length_body_le (.environment name) (skipOption text)).2
  have option := length_skipOption_le text
  cases block with
  | center | document => exact whole
  | minipages => exact length_minipages_le text
  | list | unknown => exact Nat.le_trans behind option

theorem CommandReading.length_le {name : String} {text : List Char} (opened : CommandReading top name text read after) :
    after.length ≤ text.length := by
  have argument := length_argumentOr_le Text.isInlineSpace
  have option := length_skipOption_le text
  cases opened with
  | silent | unmatchedListEnd | unnamedBegin | symbol => exact Nat.le_refl _
  | styled | heading | noTarget | url | color | unmatchedEnd => exact argument text
  | declaration | colored => exact Nat.zero_le _
  | banner => exact Nat.le_trans (length_fromStructure_le _) (argument text)
  | href => exact Nat.le_trans (argument _) (argument text)
  | entry => exact length_arguments_le 4 text
  | itemList => exact (length_body_le Markup.itemList text).2
  | looseItems => exact length_looseItems_le text
  | itemOutsideList => exact option
  | environment found block => exact Nat.le_trans block.length_le (Nat.le_of_lt (length_argument? found).1)
  | dropped => exact length_skipArguments_le _ text
  | unknown => exact Nat.le_trans (argument _) option

theorem Reading.length_le {c : Char} {rest : List Char} (reads : Reading top c rest read after) :
    after.length ≤ rest.length := by
  cases reads with
  | command found opened => exact Nat.le_trans opened.length_le (Nat.le_of_lt_succ (length_command? found).1)
  | group found => exact Nat.le_of_lt_succ (length_group? found).1
  | sign => exact Nat.le_refl _
  | run => exact length_dropWhile_le isPlain rest

theorem length_construct_le (top : Bool) (c : Char) (rest : List Char) :
    (construct top c rest).2.length ≤ rest.length :=
  (reading top c rest).length_le

end lengths

/-- The constructs of a text in order. -/
def constructs (top : Bool) : List Char → List Construct
  | [] => []
  | c :: rest => (construct top c rest).1 :: constructs top (construct top c rest).2
termination_by text => text.length
decreasing_by
  have := length_construct_le top c rest
  simp only [List.length_cons]
  omega

end Vitae.Markup
