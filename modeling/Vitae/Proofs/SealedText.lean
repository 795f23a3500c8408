import Vitae.Proofs.BraceOwner
import Vitae.Proofs.WholeText

/-! Text that keeps to itself: every group, option and escape that begins in it ends in it. With a section behind
it, each reader takes from such text what it takes from it alone. -/

namespace Vitae.Markup

/-- Text outside all groups in which no brace, bracket or backslash reaches beyond the end. A bracket need not begin
an option, so what is directly behind it is sealed as well. -/
inductive Sealed : List Char → Prop
  | nil : Sealed []
  | escaped (c : Char) {rest : List Char} (behind : Sealed rest) : Sealed ('\\' :: c :: rest)
  | group {rest after : List Char} (closes : closingBrace? 0 rest = some after) (behind : Sealed after) :
      Sealed ('{' :: rest)
  | bracket {rest : List Char} (closes : (closingBracket? 0 rest).isSome = true) (behind : Sealed rest) :
      Sealed ('[' :: rest)
  | other {c : Char} {rest : List Char} (noSlash : c ≠ '\\') (noOpening : c ≠ '{') (noClosing : c ≠ '}')
      (noBracket : c ≠ '[') (behind : Sealed rest) : Sealed (c :: rest)

/-- A text that begins with a section command. -/
def OpensSection (text : List Char) : Prop :=
  ∃ command, command? text = some command ∧ command.name = "section"

/-- A reading of sealed text, alone and in front of a tail. -/
structure Keeps {α : Type} (tail : List Char) (alone whole : α × List Char) : Prop where
  remains : Sealed alone.2
  same : whole = withTail tail alone

theorem Sealed.isWhole {text : List Char} (whole : Sealed text) : Whole text := by
  induction whole with
  | nil => exact .nil
  | escaped c _ ih => exact .escaped c ih
  | group closes _ ih => exact .group closes ih
  | bracket _ _ ih => exact .other (by decide) (by decide) ih
  | other noSlash noOpening _ _ _ ih => exact .other noSlash noOpening ih

theorem Sealed.tail {c : Char} {rest : List Char} (whole : Sealed (c :: rest)) (noSlash : c ≠ '\\')
    (noOpening : c ≠ '{') : Sealed rest := by
  cases whole with
  | escaped => exact absurd rfl noSlash
  | group => exact absurd rfl noOpening
  | bracket _ behind => exact behind
  | other _ _ _ _ behind => exact behind

theorem Sealed.behind {rest after : List Char} (whole : Sealed ('{' :: rest)) (closes : closingBrace? 0 rest = some after) :
    Sealed after := by
  cases whole with
  | group same behind =>
    obtain rfl := Option.some.inj (same.symm.trans closes)
    exact behind
  | other _ noOpening => exact absurd rfl noOpening

/-- Where steps lead, sealed text stays sealed. -/
theorem Sealed.leadsTo {text after : List Char} (whole : Sealed text) (leads : LeadsTo text after) : Sealed after := by
  induction leads with
  | here => exact whole
  | stop => exact .nil
  | char noSlash noOpening _ ih => exact ih (whole.tail noSlash noOpening)
  | escape c _ ih =>
    cases whole with
    | escaped _ behind => exact ih behind
    | other noSlash => exact absurd rfl noSlash
  | group closes _ ih => exact ih (whole.behind closes)

theorem Sealed.dropWhile {drops : Char → Bool} (noSlash : drops '\\' = false) (noOpening : drops '{' = false)
    {text : List Char} (whole : Sealed text) : Sealed (text.dropWhile drops) :=
  whole.leadsTo (leadsTo_dropWhile noSlash noOpening text)

theorem OpensSection.slash {tail : List Char} (opens : OpensSection tail) : OpensCommand tail := by
  obtain ⟨command, read, -⟩ := opens
  unfold command? at read
  split at read
  next rest => exact ⟨rest, rfl⟩
  next => contradiction

section readers

variable {text tail : List Char} (whole : Sealed text) (opens : OpensSection tail)

section groups

variable {after : List Char} {group : Enclosed} {skips : Char → Bool} (noSlash : skips '\\' = false)
  (noOpening : skips '{' = false)
include whole

theorem Sealed.group? (found : group? text = some (group, after)) : Sealed after :=
  whole.leadsTo (leadsTo_group? found)

include noSlash noOpening

theorem Sealed.argument? (found : argument? skips text = some (group, after)) : Sealed after :=
  whole.leadsTo (leadsTo_argument? noSlash noOpening found)

include opens

theorem keeps_argumentOr : Keeps tail (argumentOr skips text) (argumentOr skips (text ++ tail)) := by
  unfold argumentOr
  rw [argument?_append whole.isWhole opens.slash noSlash noOpening]
  split
  next found => exact ⟨whole.argument? noSlash noOpening found, by simp [found, withTail]⟩
  next none => exact ⟨whole, by simp [none, withTail]⟩

end groups

theorem Sealed.skipOption (whole : Sealed text) : Sealed (skipOption text) :=
  whole.leadsTo (leadsTo_skipOption text)

include whole opens

theorem option?_append : option? (text ++ tail) = (option? text).map (withTail tail) := by
  have blanks : Sealed (dropBlanks text) := whole.dropWhile (by decide) (by decide)
  have same : dropBlanks (text ++ tail) = dropBlanks text ++ tail := dropWhile_append opens.slash (by decide) text
  unfold option?
  rw [same]
  cases dropped : dropBlanks text with
  | nil =>
    obtain ⟨rest, rfl⟩ := opens.slash
    rfl
  | cons c rest =>
    by_cases bracket : c = '['
    · subst bracket
      rw [dropped] at blanks
      cases blanks with
      | bracket closes =>
        obtain ⟨after, found⟩ := Option.isSome_iff_exists.mp closes
        simp only [List.cons_append, closingBracket?_append found, found, Option.map_some, withTail,
          take_before (length_closingBracket? found)]
      | other _ _ _ noBracket => exact absurd rfl noBracket
    · split
      next later same => exact absurd (List.cons.inj same).1 bracket
      next =>
        split
        next later same => exact absurd (List.cons.inj same).1 bracket
        next => rfl

theorem keeps_skipOption : Sealed (skipOption text) ∧ skipOption (text ++ tail) = skipOption text ++ tail := by
  refine ⟨whole.skipOption, ?_⟩
  rw [skipOption, option?_append whole opens, skipOption]
  cases option? text <;> rfl

theorem keeps_skipArgument : Sealed (skipArgument text) ∧ skipArgument (text ++ tail) = skipArgument text ++ tail :=
  ⟨whole.leadsTo (leadsTo_skipArgument text), skipArgument_append whole.isWhole opens.slash⟩

omit opens in
theorem Sealed.command? {command : Command} (found : command? text = some command) :
    Sealed command.start ∧ Sealed command.rest :=
  ⟨(length_command? found).2 ▸ whole, whole.leadsTo (leadsTo_command? found)⟩

/-- A command is read at the end of the text only where the section begins. -/
theorem command?_boundary {command : Command} (none : command? text = none)
    (found : command? (text ++ tail) = some command) : command.name = "section" := by
  obtain rfl : text = [] := start_of_boundary whole.isWhole none found
  obtain ⟨own, read, named⟩ := opens
  obtain rfl := Option.some.inj (read.symm.trans found)
  exact named

omit opens in
theorem Sealed.nextCommand? {command : Command} (found : nextCommand? text = some command) :
    Sealed command.start ∧ Sealed command.rest :=
  ⟨whole.leadsTo (leadsTo_nextCommand? found).1, whole.leadsTo (leadsTo_nextCommand? found).2⟩

/-- A block that is closed is closed before the section. -/
theorem keeps_body (delimiter : Delimiter) (closed : (delimiter.body text).1.closed = true) :
    Keeps tail (delimiter.body text) (delimiter.body (text ++ tail)) := by
  unfold Delimiter.body at closed ⊢
  split at closed
  next start after found =>
    rw [find?_append whole.isWhole opens.slash found]
    exact ⟨whole.leadsTo (leadsTo_find? found), by simp only [upTo_append, withTail]⟩
  next => contradiction

end readers

end Vitae.Markup
