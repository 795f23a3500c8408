import Vitae.Proofs.OpenBraces

/-! The construct that runs into a brace without an end: it hands the brace on to the text behind it, has a
part that shows the missing end, or reads over it. -/

namespace Vitae.Markup

/-- Constructs that are warned about for a part without an end, or in any case. -/
def Construct.reports : Construct → Bool
  | .group content => !content.closed
  | .styled _ _ argument? | .color argument? | .heading argument? | .url argument? | .unknown _ argument? =>
    argument?.any (!·.closed)
  | .banner argument _ _ => !argument.closed
  | .declaration color? _ _ => color?.any (!·.closed)
  | .href target? label? => target?.any (!·.closed) || label?.any (!·.closed)
  | .entry fields => fields.any (!·.closed)
  | .looseItems items => items.any (·.any (!·.closed))
  | .list _ _ body | .center body | .document body => !body.closed
  | .minipages bodies => bodies.any (!·.closed)
  | .environment .. | .unmatchedEnd _ => true
  | .run _ | .symbol _ | .lineBreak | .separator | .silent | .unmatchedBrace | .unnamedBegin | .unmatchedListEnd |
    .itemOutsideList => false

/-- Blocks of which no part lacks an end. -/
def Construct.isClosedBlock : Construct → Bool
  | .list _ _ body | .center body | .document body => body.closed
  | .minipages bodies => bodies.all (·.closed)
  | _ => false

/-- The part of a construct that reaches into the text behind its arguments. -/
def Construct.scope? : Construct → Option (List Char)
  | .banner _ _ contacts => some contacts
  | .declaration _ _ scope => some scope
  | _ => none

/-- How a construct can reach to the end of a text over a brace that is never closed. -/
inductive Owns (drops : Prop) : Construct → Prop
  | reporting {read} (told : read.reports = true) : Owns drops read
  | dropping (dropped : drops) : Owns drops .silent
  | ending {read} (closed : read.isClosedBlock = true) : Owns drops read
  | scoping {read scope} (found : read.scope? = some scope) (unclosed : Unclosed scope) : Owns drops read

theorem Owns.imp {drops leaves : Prop} {read : Construct} (owned : Owns drops read) (implied : drops → leaves) :
    Owns leaves read := by
  cases owned with
  | reporting told => exact .reporting told
  | dropping dropped => exact .dropping (implied dropped)
  | ending closed => exact .ending closed
  | scoping found unclosed => exact .scoping found unclosed

/-- A construct leaves the brace to the text behind it, or owns it. -/
def Accounts (drops : Prop) (result : Construct × List Char) : Prop :=
  Unclosed result.2 ∨ result.2 = [] ∧ Owns drops result.1

section owners

variable {drops : Prop} {text : List Char} (unclosed : Unclosed text)

theorem Met.accounts {part : Enclosed} {after : List Char} (met : Met part after) {read : Construct}
    (told : part.closed = false → read.reports = true) : Accounts drops (read, after) :=
  met.imp_right fun ran => ⟨ran.2, .reporting (told ran.1)⟩

include unclosed

private theorem accounts_argumentOr {skips : Char → Bool} (noSlash : skips '\\' = false)
    (noOpening : skips '{' = false) :
    Unclosed (argumentOr skips text).2 ∨
      (argumentOr skips text).2 = [] ∧ (argumentOr skips text).1.any (!·.closed) = true := by
  unfold argumentOr
  split
  next group after found =>
    rcases met_argument? unclosed noSlash noOpening found with ahead | ⟨ran, gone⟩
    · exact .inl ahead
    · exact .inr ⟨gone, by simp [ran]⟩
  next => exact .inl unclosed

private theorem accounts_arguments (count : Nat) :
    Unclosed (arguments count text).2 ∨
      (arguments count text).2 = [] ∧ (arguments count text).1.any (!·.closed) = true := by
  induction count generalizing text with
  | zero => exact .inl unclosed
  | succ count ih =>
    rw [arguments]
    split
    next group after found =>
      rcases met_argument? unclosed (by decide) (by decide) found with ahead | ⟨ran, gone⟩
      · rcases ih ahead with later | ⟨gone, told⟩
        · exact .inl later
        · exact .inr ⟨gone, by simp [told]⟩
      · subst gone
        right
        cases count <;> simp [arguments, argument?, group?, ran]
    next => exact .inl unclosed

private theorem accounts_looseItems :
    Unclosed (looseItems text).2 ∨
      (looseItems text).2 = [] ∧ (looseItems text).1.any (·.any (!·.closed)) = true := by
  have noSlash : Text.isSpace '\\' = false := by decide
  have noOpening : Text.isSpace '{' = false := by decide
  fun_induction looseItems text with
  | case1 text command found _ ih =>
    rcases accounts_argumentOr unclosed noSlash noOpening with ahead | ⟨gone, told⟩
    · have later := unclosed_command? (ahead.dropWhile noSlash noOpening) found
      rcases ih later with behind | ⟨gone, told⟩
      · exact .inl behind
      · exact .inr ⟨gone, by simp [told]⟩
    · simp [gone, command?] at found
  | case2 | case3 =>
    exact (accounts_argumentOr unclosed noSlash noOpening).imp_right (And.imp_right fun told => by simpa using told)

omit unclosed in
private theorem fromStructure_nil : fromStructure [] = [] := by
  rw [fromStructure.eq_def]
  split
  next found => simp [nextCommand?_nil] at found
  next => rfl

omit unclosed

theorem Ahead.accounts {read : Construct} {after : List Char} (ahead : Ahead after)
    (owned : read.reports = true ∨ read.isClosedBlock = true) : Accounts drops (read, after) := by
  rcases ahead with gone | unclosed
  · exact .inr ⟨gone, owned.elim .reporting .ending⟩
  · exact .inl unclosed

private theorem unclosed_or_closed (body : Enclosed) : (!body.closed) = true ∨ body.closed = true := by
  cases body.closed <;> simp

theorem EnvironmentReading.accounts {name text : List Char} {read : Construct} {after : List Char}
    (block : EnvironmentReading name text read after) (ahead : Ahead text) : Accounts drops (read, after) := by
  have pastOption := ahead.leadsTo (leadsTo_skipOption text)
  cases block with
  | center | document => exact (ahead.leadsTo (leadsTo_body _ _)).accounts (unclosed_or_closed _)
  | minipages =>
    refine (ahead.leadsTo (leadsTo_minipages _)).accounts ?_
    simp only [Construct.reports, Construct.isClosedBlock, List.any_eq_true, List.all_eq_true, Bool.not_eq_true']
    by_cases missing : ∃ body ∈ (Markup.minipages text).1, body.closed = false
    · exact .inl missing
    · exact .inr fun body member => by simpa using fun unclosed => missing ⟨body, member, unclosed⟩
  | list => exact (pastOption.leadsTo (leadsTo_body _ _)).accounts (unclosed_or_closed _)
  | unknown => exact (pastOption.leadsTo (leadsTo_body _ _)).accounts (.inl rfl)

include unclosed

private theorem met_argumentOr {skips : Char → Bool} (noSlash : skips '\\' = false) (noOpening : skips '{' = false)
    {part : Enclosed} (found : (argumentOr skips text).1 = some part) : Met part (argumentOr skips text).2 :=
  (accounts_argumentOr unclosed noSlash noOpening).imp_right fun ⟨gone, told⟩ => ⟨by simpa [found] using told, gone⟩

omit unclosed

/-- The contacts of a banner reach up to the next structure, or as far as the brace does. -/
theorem Met.accounts_banner {argument : Enclosed} {after : List Char} (met : Met argument after) (name : List Char) :
    Accounts drops (.banner argument name (upTo (fromStructure after) after), fromStructure after) := by
  rcases met with unclosed | ⟨ran, rfl⟩
  · rcases unclosed.ahead.leadsTo (leadsTo_fromStructure after) with gone | ahead
    · refine .inr ⟨gone, .scoping rfl ?_⟩
      simpa [gone, upTo] using unclosed
    · exact .inl ahead
  · exact .inr ⟨fromStructure_nil, .reporting (by simp [Construct.reports, ran])⟩

private theorem Met.accounts_href {target : Enclosed} {after : List Char} (met : Met target after) :
    Accounts drops
      (.href (some target) (argumentOr Text.isInlineSpace after).1, (argumentOr Text.isInlineSpace after).2) := by
  rcases met with unclosed | ⟨ran, rfl⟩
  · refine (accounts_argumentOr unclosed (by decide) (by decide)).imp_right fun ⟨gone, told⟩ => ⟨gone, .reporting ?_⟩
    simp [Construct.reports, told]
  · exact .inr ⟨rfl, .reporting (by simp [Construct.reports, ran])⟩

private theorem Met.accounts_declaration {color : Enclosed} {after : List Char} (met : Met color after)
    (style : SpanStyle) :
    Accounts drops (.declaration (some color) style after, []) := by
  rcases met with unclosed | ⟨ran, rfl⟩
  · exact .inr ⟨rfl, .scoping rfl unclosed⟩
  · exact .inr ⟨rfl, .reporting (by simp [Construct.reports, ran])⟩

include unclosed

theorem CommandReading.accounts {top : Bool} {name : String} {read : Construct} {after : List Char}
    (opened : CommandReading top name text read after) :
    Accounts ((droppedArguments? name).isSome = true) (read, after) := by
  have noSlash : Text.isInlineSpace '\\' = false := by decide
  have noOpening : Text.isInlineSpace '{' = false := by decide
  have argument := accounts_argumentOr unclosed noSlash noOpening
  have afterOption := accounts_argumentOr (unclosed_skipOption unclosed) noSlash noOpening
  cases opened with
  | silent | unmatchedListEnd | unnamedBegin | symbol => exact .inl unclosed
  | itemOutsideList => exact .inl (unclosed_skipOption unclosed)
  | styled | heading | url => exact argument.imp_right fun ⟨gone, told⟩ => ⟨gone, .reporting told⟩
  | color found => exact argument.imp_right fun ⟨gone, told⟩ => ⟨gone, .reporting (found ▸ told)⟩
  | banner found => exact (met_argumentOr unclosed noSlash noOpening found).accounts_banner _
  | declaration => exact .inr ⟨rfl, .scoping rfl unclosed⟩
  | colored found => exact (met_argumentOr unclosed noSlash noOpening found).accounts_declaration _
  | noTarget missing => exact argument.imp_right fun ⟨_, told⟩ => absurd told (by simp [missing])
  | href found => exact (met_argumentOr unclosed noSlash noOpening found).accounts_href
  | entry => exact (accounts_arguments unclosed 4).imp_right fun ⟨gone, told⟩ => ⟨gone, .reporting told⟩
  | itemList => exact (unclosed.ahead.leadsTo (leadsTo_body Markup.itemList text)).accounts (unclosed_or_closed _)
  | looseItems => exact (accounts_looseItems unclosed).imp_right fun ⟨gone, told⟩ => ⟨gone, .reporting told⟩
  | environment found block => exact block.accounts (met_argument? unclosed noSlash noOpening found).ahead
  | unmatchedEnd => exact argument.imp_right fun ⟨gone, _⟩ => ⟨gone, .reporting rfl⟩
  | @dropped count drops =>
    rcases unclosed.ahead.leadsTo (leadsTo_skipArguments count text) with gone | ahead
    · exact .inr ⟨gone, .dropping (by simp [drops])⟩
    · exact .inl ahead
  | unknown => exact afterOption.imp_right fun ⟨gone, told⟩ => ⟨gone, .reporting told⟩

end owners

theorem Reading.accounts {top : Bool} {c : Char} {rest : List Char} {read : Construct} {after : List Char}
    (reads : Reading top c rest read after) (unclosed : Unclosed (c :: rest)) :
    Accounts (∃ command, command? (c :: rest) = some command ∧ (droppedArguments? command.name).isSome = true)
      (read, after) := by
  cases reads with
  | command found opened =>
    exact (opened.accounts (unclosed_command? unclosed found)).imp_right
      fun ⟨gone, owned⟩ => ⟨gone, owned.imp fun dropped => ⟨_, found, dropped⟩⟩
  | group found => exact (met_group? unclosed found).accounts fun ran => by simp [Construct.reports, ran]
  | sign plain => exact .inl (unclosed.tail plain.1 plain.2)
  | run plain => exact .inl ((unclosed.tail plain.1 plain.2).dropWhile (by decide) (by decide))

/-- A brace without an end is left to the text behind a construct or owned by the construct. -/
theorem accounts_construct (top : Bool) {c : Char} {rest : List Char} (unclosed : Unclosed (c :: rest)) :
    Accounts (∃ command, command? (c :: rest) = some command ∧ (droppedArguments? command.name).isSome = true)
      (construct top c rest) :=
  (reading top c rest).accounts unclosed

end Vitae.Markup
