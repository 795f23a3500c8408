import Vitae.Proofs.Balance
import Vitae.Transpile.Elaborate

/-! A notation for content, which writes every node down as the markup that stands for it, and the trees
that it can express: what is left of a sequence once it is tidy, in sections only on the top level. -/

namespace Vitae.Notation

open Markup

/-- Lists are written as an environment of items or between a pair of commands. -/
inductive ListForm where
  | environment (name : String) (listed : name ∈ listEnvironments)
  | commands

namespace ListForm

def opening : ListForm → List Char
  | .environment name _ => commandText "begin" ++ braced name.toList
  | .commands => commandText "resumeItemListStart"

def item : ListForm → String
  | .environment .. => "item"
  | .commands => "resumeItem"

/-- An empty group keeps a closing command apart from text behind it. -/
def closing : ListForm → List Char
  | .environment name _ => commandText "end" ++ braced name.toList
  | .commands => commandText "resumeItemListEnd" ++ braced []

end ListForm

def styleName : SpanStyle → String
  | .bold => "textbf"
  | .italic => "textit"
  | .underline => "underline"
  | .smallCaps => "textsc"
  | .accent => ""

section

variable (form : ListForm)

mutual

/-- The markup of a node. The members of a fragment stand one behind the other. -/
def written : Node → List Char
  | .text value => value.toList
  | .styled style child => commandText (styleName style) ++ braced (written child)
  | .link href label => commandText "href" ++ braced href.toList ++ braced (written label)
  | .lineBreak => [lineBreakMark]
  | .separator => [separatorMark]
  | .entry primary secondary tertiary quaternary =>
    commandText "resumeSubheading" ++ braced (written primary) ++ braced (written secondary) ++
      braced (written tertiary) ++ braced (written quaternary)
  | .itemList _ items => form.opening ++ (writtenItems items ++ form.closing)
  | .titled title body => commandText "section" ++ braced title.toList ++ writtenAll body
  | .fragment children => writtenAll children
  | .header .. | .columnGroup .. | .centered .. => []
termination_by structural node => node

def writtenAll : List Node → List Char
  | [] => []
  | node :: rest => written node ++ writtenAll rest
termination_by structural nodes => nodes

def writtenItems : List Node → List Char
  | [] => []
  | item :: rest => commandText form.item ++ braced (written item) ++ writtenItems rest
termination_by structural items => items

end

end

mutual

/-- How many groups deep the markup of a node goes. An item is a text of its own and a group in it. -/
def levels : Node → Nat
  | .styled _ child => levels child + 1
  | .link _ label => levels label + 1
  | .entry primary secondary tertiary quaternary =>
    max (max (levels primary) (levels secondary)) (max (levels tertiary) (levels quaternary)) + 1
  | .itemList _ items => max 1 (levelsItems items)
  | .titled _ body => max 1 (levelsAll body)
  | .fragment children => levelsAll children
  | .text _ | .lineBreak | .separator | .header .. | .columnGroup .. | .centered .. => 0
termination_by structural node => node

def levelsAll : List Node → Nat
  | [] => 0
  | node :: rest => max (levels node) (levelsAll rest)
termination_by structural nodes => nodes

def levelsItems : List Node → Nat
  | [] => 0
  | item :: rest => max (levels item + 2) (levelsItems rest)
termination_by structural items => items

end

/-- Of white space, a text holds single spaces only. -/
def SingleSpaced (text : List Char) : Prop :=
  (∀ c ∈ text, Text.isAsciiSpace c → c = ' ') ∧ ¬ [' ', ' '] <:+: text

instance (text : List Char) : Decidable (SingleSpaced text) :=
  haveI : Decidable ([' ', ' '] <:+: text) := List.instDecidableIsInfixOfDecidableEq _ _
  decidable_of_iff ((text.all fun c => !Text.isAsciiSpace c || c == ' ') = true ∧ ¬ [' ', ' '] <:+: text) <| by
    simp [SingleSpaced, Decidable.imp_iff_not_or]

/-- The characters that stand for themselves, with or without `typography`. -/
def Literal (typography : Bool) (text : List Char) : Prop :=
  ∀ c ∈ text, isPlain c ∧ (typography = true → c ∉ ['-', '~', '\x60', '\x27'])

instance (typography : Bool) (text : List Char) : Decidable (Literal typography text) :=
  decidable_of_iff ((text.all fun c => isPlain c && !(typography && ['-', '~', '\x60', '\x27'].contains c)) = true) <| by
    cases typography <;> simp [Literal]

/-- A sequence without headers, sections, columns and centered blocks that is tidy. `flows` tells whether
it stands behind a span or a link. -/
inductive Canonical (typography : Bool) : (flows : Bool) → List Node → Prop
  | nil {flows} : Canonical typography flows []
  | text {flows value rest} (shown : value ≠ "") (literal : Literal typography value.toList)
      (spaced : SingleSpaced value.toList) (start : value.toList.head? = some ' ' → flows = true)
      (stop : value.toList.getLast? = some ' ' → rest.head?.any Node.flowsWithText)
      (apart : ∀ other later, rest ≠ .text other :: later)
      (tail : Canonical typography false rest) : Canonical typography flows (.text value :: rest)
  | styled {flows style child rest} (own : style ≠ .accent) (shown : child ≠ [])
      (inside : Canonical typography false child) (tail : Canonical typography true rest) :
      Canonical typography flows (.styled style (.collapse child) :: rest)
  | link {flows href label rest} (plain : Literal false href.toList) (trimmed : Text.trim href.toList = href.toList)
      (inside : Canonical typography false label) (tail : Canonical typography true rest) :
      Canonical typography flows (.link href (.collapse label) :: rest)
  | lineBreak {flows rest} (tail : Canonical typography false rest) : Canonical typography flows (.lineBreak :: rest)
  | separator {flows rest} (tail : Canonical typography false rest) : Canonical typography flows (.separator :: rest)
  | entry {flows primary secondary tertiary quaternary rest} (first : Canonical typography false primary)
      (second : Canonical typography false secondary) (third : Canonical typography false tertiary)
      (fourth : Canonical typography false quaternary) (tail : Canonical typography false rest) :
      Canonical typography flows
        (.entry (.collapse primary) (.collapse secondary) (.collapse tertiary) (.collapse quaternary) :: rest)
  | list {flows} {items : List (List Node)} {rest} (inside : ∀ item ∈ items, Canonical typography false item)
      (tail : Canonical typography false rest) :
      Canonical typography flows (.itemList true (items.map .collapse) :: rest)

/-- A sequence and then sections, each with a title on one line. -/
inductive CanonicalTree (typography : Bool) : Tree → Prop
  | nodes {nodes} (canonical : Canonical typography false nodes) : CanonicalTree typography nodes
  | titled {before title body} (earlier : CanonicalTree typography before)
      (literal : Literal typography title.toList) (spaced : SingleSpaced title.toList)
      (trimmed : Text.trim title.toList = title.toList) (inside : Canonical typography false body) :
      CanonicalTree typography (before ++ [.titled title body])

end Vitae.Notation
