import Vitae.Proofs.BuiltContent
import Vitae.Proofs.InnerTexts
import Vitae.Proofs.MarkedText

/-! The constructs that the walk over a text comes to, at whatever level. All that the walk has of its source are their
parts, so what it says and what it builds can be traced back to one of them: a warning shows a mark just where one of
them is quoted that holds a mark. -/

namespace Vitae

namespace Markup

namespace Construct

/-- The markup that the warnings about a construct quote. -/
def quoted : Construct → List Char
  | .href (some target) none => (Transpile.target target).toList
  | .environment name _ | .unmatchedEnd name => name
  | .unknown command (some _) => command.toList
  | _ => []

/-- Text of a construct that is not markup has no marks. -/
def Clear : Construct → Prop
  | .run text | .list text _ _ => ¬ Marked text
  | .symbol text | .styled text _ _ => ¬ Marked text.toList
  | _ => True

end Construct

end Markup

namespace Transpile

open Markup

/-- The constructs that are met on the way through a text and, with `levels` levels left, through the texts in them. -/
def met (options : TranspileOptions) : (levels : Nat) → (top : Bool) → List Char → List Construct
  | 0, _, _ => []
  | levels + 1, top, text =>
    (constructs top text).flatMap fun read => read :: (read.inside options).flatMap (met options levels false)

theorem mem_met_succ {options : TranspileOptions} {levels : Nat} {top : Bool} {text : List Char} {read : Construct} :
    read ∈ met options (levels + 1) top text ↔
      ∃ outer ∈ constructs top text, read = outer ∨ ∃ part ∈ outer.inside options, read ∈ met options levels false part := by
  simp [met]

end Transpile

namespace Markup

section shapes

theorem not_marked_symbol {name shown : String} (found : symbol? name = some shown) : ¬ Marked shown.toList := by
  have all (rows : List (String × String)) (clear : ∀ row ∈ rows, ¬ Marked row.2.toList)
      (found : rows.lookup name = some shown) : ¬ Marked shown.toList := clear _ (mem_of_lookup found)
  exact all _ (by decide) found

private theorem not_marked_styleCommand {name : String} {style : SpanStyle} (found : styleCommand? name = some style) :
    ¬ Marked name.toList := by
  have all (rows : List (String × SpanStyle)) (clear : ∀ row ∈ rows, ¬ Marked row.1.toList)
      (found : rows.lookup name = some style) : ¬ Marked name.toList := clear _ (mem_of_lookup found)
  exact all _ (by decide) found

theorem Construct.Shaped.clear {read : Construct} (shaped : read.Shaped) : read.Clear := by
  cases read with
  | run text =>
    rintro ⟨c, member, mark⟩
    obtain ⟨lineBreak, separator⟩ := shaped c member
    exact absurd mark (by simp [isMark, lineBreak, separator])
  | symbol text =>
    obtain ⟨name, found⟩ := shaped
    exact not_marked_symbol found
  | styled command style argument? => exact not_marked_styleCommand shaped
  | list opening bulleted body =>
    rcases shaped with rfl | ⟨name, listed, rfl⟩
    · exact (by decide : ¬ Marked "\\resumeItemListStart".toList)
    · have clear : ∀ name ∈ listEnvironments, ¬ Marked name.toList := by decide
      have free : ¬ Marked name := by simpa using clear _ listed
      have opened : ¬ Marked "\\begin\x7b".toList := by decide
      have closed : ¬ Marked ['\x7d'] := by decide
      simp only [Construct.Clear, marked_append, opened, free, closed, or_self, not_false_eq_true]
  | _ => trivial

theorem clear_of_mem_constructs {top : Bool} {text : List Char} {read : Construct}
    (member : read ∈ constructs top text) : read.Clear :=
  (shaped_of_mem_constructs member).clear

end shapes

end Markup

namespace Transpile

open Markup

section warnings

variable (options : TranspileOptions) (inner : List Char → Noted (List Node))

private theorem quoted_groupFaults (content : Enclosed) : (groupFaults content).flatMap Warning.quoted = [] := by
  unfold groupFaults
  split <;> rfl

private theorem quoted_leadFaults (body : List Char) : (leadFaults inner body).flatMap Warning.quoted = [] := by
  unfold leadFaults
  split <;> rfl

private theorem not_marked_argumentFaults {missing : Warning} (clear : ¬ Marked missing.quoted)
    (argument? : Option Enclosed) :
    ¬ Marked ((argumentFaults missing argument?).flatMap Warning.quoted) := by
  cases argument? with
  | none => simpa [argumentFaults] using clear
  | some argument => simp [argumentFaults, quoted_groupFaults]

private theorem marked_opening {opening : List Char} {body : Enclosed}
    (quoted : Marked ((blockFaults opening body).flatMap Warning.quoted)) : Marked opening := by
  unfold blockFaults at quoted
  split at quoted
  next => exact absurd quoted not_marked_nil
  next => simpa [Warning.quoted] using quoted

private theorem not_marked_columnFaults (column : Column) :
    ¬ Marked ((columnFaults column).flatMap Warning.quoted) := by
  cases column with
  | stray text => simp [columnFaults]
  | minipage body => exact mt marked_opening (by decide)

/-- The faults of a construct show the marks that are quoted of it. -/
theorem marked_faults {read : Construct} (clear : read.Clear) :
    Marked ((faults inner options read).flatMap Warning.quoted) ↔ Marked read.quoted := by
  have unquoted {faults : List Warning} (clear : ¬ Marked (faults.flatMap Warning.quoted)) :
      Marked (faults.flatMap Warning.quoted) ↔ Marked [] :=
    iff_of_false clear not_marked_nil
  have each {α : Type} {items : List α} {own : α → List Warning}
      (clear : ∀ item, ¬ Marked ((own item).flatMap Warning.quoted)) :
      ¬ Marked ((items.flatMap own).flatMap Warning.quoted) := by
    rw [List.flatMap_assoc, marked_flatMap]
    exact fun ⟨item, _, marked⟩ => clear item marked
  cases read with
  | run | symbol | lineBreak | separator | silent | unmatchedBrace | unnamedBegin | unmatchedEnd | unmatchedListEnd |
    itemOutsideList => simp [faults, Warning.quoted, Construct.quoted]
  | group content | banner content => simp [faults, quoted_groupFaults, Construct.quoted]
  | styled command style argument? =>
    have named : ¬ Marked (Warning.withoutArgument command).quoted := clear
    exact unquoted (not_marked_argumentFaults named argument?)
  | declaration color? => cases color? <;> simp [faults, quoted_groupFaults, Construct.quoted]
  | color | heading => exact unquoted (not_marked_argumentFaults (by simp [Warning.quoted]) _)
  | href target? label? =>
    cases target? with
    | none => exact unquoted (by decide : ¬ Marked ([Warning.linkWithoutTarget "href"].flatMap Warning.quoted))
    | some target =>
      cases label? <;> simp [faults, argumentFaults, quoted_groupFaults, Warning.quoted, Construct.quoted]
  | url => exact unquoted (not_marked_argumentFaults (by decide) _)
  | entry fields =>
    refine unquoted ?_
    rw [faults, List.flatMap_append, marked_append, not_or]
    refine ⟨each fun field => by simp [quoted_groupFaults], ?_⟩
    split <;> simp [Warning.quoted]
  | looseItems => exact unquoted (each (not_marked_argumentFaults (by decide)))
  | list opening bulleted body =>
    rw [faults, List.flatMap_append, quoted_leadFaults, List.append_nil]
    exact unquoted (mt marked_opening clear)
  | minipages => exact unquoted (each fun body => mt marked_opening (by decide))
  | center body =>
    refine unquoted ?_
    rw [faults, List.flatMap_append, marked_append, not_or]
    refine ⟨mt marked_opening (by decide), ?_⟩
    split
    next => exact each not_marked_columnFaults
    next => exact not_marked_nil
  | document body => exact unquoted (mt marked_opening (by decide))
  | environment name body =>
    have opening : Marked ("\\begin\x7b".toList ++ name ++ ['\x7d']) → Marked name := by
      have first : ¬ Marked "\\begin\x7b".toList := by decide
      have last : ¬ Marked ['\x7d'] := by decide
      simp only [marked_append, first, last, false_or, or_false, imp_self]
    have named : Marked ([Warning.unknownEnvironment name].flatMap Warning.quoted) ↔ Marked name := by
      simp [Warning.quoted]
    rw [faults, List.flatMap_append, marked_append, named]
    exact or_iff_right_of_imp fun quoted => opening (marked_opening quoted)
  | unknown command argument? =>
    cases argument? <;> simp [faults, quoted_groupFaults, Warning.quoted, Construct.quoted]

/-- Some warning shows a mark. -/
def Tells {α : Type} (noted : Noted α) : Prop :=
  ∃ warning ∈ noted.warnings, Marked warning.message.toList

private theorem tells_elaborated {read : Construct} (clear : read.Clear) :
    Tells (elaborated options inner read) ↔ Marked read.quoted ∨ ∃ text ∈ read.inside options, Tells (inner text) := by
  rw [← marked_faults options inner clear, marked_flatMap]
  simp only [Tells, Warning.marked_message, mem_warnings_elaborated]
  grind

/-- A text tells what is told of the constructs met in it. -/
theorem tells_sequence (levels : Nat) (top : Bool) (text : List Char) :
    Tells (sequence options levels top text) ↔ ∃ read ∈ met options levels top text, Marked read.quoted := by
  induction levels generalizing top text with
  | zero => simp [Tells, sequence, met, Warning.marked_message, Warning.quoted]
  | succ levels ih =>
    have step : Tells (sequence options (levels + 1) top text) ↔
        ∃ read ∈ constructs top text, Tells (elaborated options (sequence options levels false) read) := by
      simp only [Tells, mem_warnings_sequence]
      grind
    simp only [step, mem_met_succ]
    constructor
    · rintro ⟨read, place, told⟩
      rcases (tells_elaborated options _ (clear_of_mem_constructs place)).mp told with own | ⟨part, member, told⟩
      · exact ⟨read, ⟨read, place, .inl rfl⟩, own⟩
      · obtain ⟨other, reached, quoted⟩ := (ih false part).mp told
        exact ⟨other, ⟨read, place, .inr ⟨part, member, reached⟩⟩, quoted⟩
    · rintro ⟨other, ⟨read, place, here⟩, quoted⟩
      refine ⟨read, place, (tells_elaborated options _ (clear_of_mem_constructs place)).mpr ?_⟩
      rcases here with rfl | ⟨part, member, reached⟩
      · exact .inl quoted
      · exact .inr ⟨part, member, (ih false part).mpr ⟨other, reached, quoted⟩⟩

end warnings

end Transpile

end Vitae
