import Vitae.Proofs.BraceOwner
import Vitae.Proofs.InnerTexts
import Vitae.Proofs.Walk

/-! Warnings about a brace that is never closed. The construct that runs into it reports it, hands it on to the
text behind it, or swallows it: an argument that leaves no trace is dropped up to the end of the text, and so
is the name of a block in the command that closes it. -/

namespace Vitae.Transpile

open Markup

section reports

variable (options : TranspileOptions) (inner : List Char → Noted (List Node))

private theorem groupFaults_eq_nil {content : Enclosed} : groupFaults content = [] ↔ content.closed = true := by
  simp [groupFaults]

private theorem blockFaults_eq_nil {opening : List Char} {body : Enclosed} :
    blockFaults opening body = [] ↔ body.closed = true := by
  simp [blockFaults]

private theorem not_any_of_argumentFaults {missing : Warning} {argument? : Option Enclosed}
    (none : argumentFaults missing argument? = []) : argument?.any (!·.closed) = false := by
  cases argument? with
  | none => rfl
  | some argument => simpa [argumentFaults, groupFaults_eq_nil] using none

private theorem not_reports_of_faults {read : Construct} (none : faults inner options read = []) :
    read.reports = false := by
  cases read with
  | run | symbol | lineBreak | separator | silent | unmatchedBrace | unnamedBegin | unmatchedListEnd | itemOutsideList =>
    rfl
  | unmatchedEnd => contradiction
  | group content | banner content => simpa [Construct.reports, faults, groupFaults_eq_nil] using none
  | styled command style argument? | color argument? | heading argument? | url argument? =>
    exact not_any_of_argumentFaults none
  | declaration color? =>
    cases color? with
    | none => rfl
    | some color => simpa [Construct.reports, faults, groupFaults_eq_nil] using none
  | href target? label? =>
    cases target? with
    | none => contradiction
    | some target =>
      obtain ⟨own, label⟩ := List.append_eq_nil_iff.mp none
      simp [Construct.reports, groupFaults_eq_nil.mp own, not_any_of_argumentFaults label]
  | entry fields =>
    have own := List.flatMap_eq_nil_iff.mp (List.append_eq_nil_iff.mp none).1
    simpa [Construct.reports, groupFaults_eq_nil] using own
  | looseItems items =>
    have own := List.flatMap_eq_nil_iff.mp none
    exact List.any_eq_false.mpr fun item member => by simp [not_any_of_argumentFaults (own item member)]
  | minipages bodies =>
    have own := List.flatMap_eq_nil_iff.mp none
    simpa [Construct.reports, blockFaults_eq_nil] using own
  | list opening bulleted body | center body =>
    have own := (List.append_eq_nil_iff.mp none).1
    simpa [Construct.reports, blockFaults_eq_nil] using own
  | document body => simpa [Construct.reports, faults, blockFaults_eq_nil] using none
  | environment => simp [faults] at none
  | unknown command argument? =>
    cases argument? with
    | none => rfl
    | some argument => simp [faults] at none

theorem warnings_of_reports {read : Construct} (told : read.reports = true) :
    (elaborated options inner read).warnings ≠ [] := by
  intro quiet
  have sound := ((warnings_elaborated_eq_nil inner options).mp quiet).1
  exact absurd told (by simp [not_reports_of_faults options inner sound])

end reports

section swallowing

variable {options : TranspileOptions} {levels : Nat} {top : Bool}

/-- The walk comes without a warning to a construct that reads over the open brace: a command that drops it with
its arguments, or a block whose name in the closing command is the group that stays open. -/
inductive Swallowed (options : TranspileOptions) : (levels : Nat) → (top : Bool) → List Char → Prop
  | dropped {levels top c rest command} (unclosed : Unclosed (c :: rest)) (read : command? (c :: rest) = some command)
      (drops : (droppedArguments? command.name).isSome = true) (shape : construct top c rest = (.silent, [])) :
      Swallowed options (levels + 1) top (c :: rest)
  | ended {levels top c rest block} (unclosed : Unclosed (c :: rest)) (shape : construct top c rest = (block, []))
      (closed : block.isClosedBlock = true)
      (quiet : (elaborated options (sequence options levels false) block).warnings = []) :
      Swallowed options (levels + 1) top (c :: rest)
  | behind {levels top c rest read after} (shape : construct top c rest = (read, after))
      (quiet : (elaborated options (sequence options levels false) read).warnings = [])
      (later : Swallowed options (levels + 1) top after) : Swallowed options (levels + 1) top (c :: rest)
  | within {levels top c rest read scope} (shape : construct top c rest = (read, []))
      (quiet : (elaborated options (sequence options levels false) read).warnings = [])
      (found : read.scope? = some scope) (inside : Swallowed options levels false scope) :
      Swallowed options (levels + 1) top (c :: rest)

theorem warnings_parts_cons (c : Char) (rest : List Char) :
    (parts options levels top (c :: rest)).warnings =
      (elaborated options (sequence options levels false) (construct top c rest).1).warnings ++
        (parts options levels top (construct top c rest).2).warnings := by
  simp [parts_cons]

theorem Swallowed.quiet {text : List Char} (swallowed : Swallowed options levels top text) :
    (sequence options levels top text).warnings = [] := by
  induction swallowed with
  | dropped _ _ _ shape =>
    rw [sequence_succ, Noted.warnings_map, warnings_parts_cons, shape]
    simp [elaborated]
  | ended _ shape _ quiet =>
    rw [sequence_succ, Noted.warnings_map, warnings_parts_cons, shape]
    simp [quiet]
  | behind shape quiet _ ih =>
    rw [sequence_succ, Noted.warnings_map] at ih ⊢
    rw [warnings_parts_cons, shape, quiet, ih]
    rfl
  | within shape quiet =>
    rw [sequence_succ, Noted.warnings_map, warnings_parts_cons, shape]
    simp [quiet]

private theorem quiet_scope {inner : List Char → Noted (List Node)} {read : Construct} {scope : List Char}
    (found : read.scope? = some scope) (quiet : (elaborated options inner read).warnings = []) :
    (inner scope).warnings = [] := by
  have within : scope ∈ read.inside options := by
    cases read with
    | banner | declaration => simp_all [Construct.scope?, Construct.inside]
    | _ => contradiction
  exact ((warnings_elaborated_eq_nil inner options).mp quiet).2 scope within

private theorem swallowed_of_quietParts
    (inside : ∀ {scope}, Unclosed scope → (sequence options levels false scope).warnings = [] →
      Swallowed options levels false scope)
    (text : List Char) (unclosed : Unclosed text) (quiet : (parts options levels top text).warnings = []) :
    Swallowed options (levels + 1) top text := by
  match text with
  | [] => exact absurd unclosed not_unclosed_nil
  | c :: rest =>
    rw [warnings_parts_cons, List.append_eq_nil_iff] at quiet
    obtain ⟨here, later⟩ := quiet
    have accounts := accounts_construct top unclosed
    rcases shape : construct top c rest with ⟨read, after⟩
    have shorter : after.length ≤ rest.length := by
      have reached := length_construct_le top c rest
      rwa [shape] at reached
    rw [shape] at accounts here later
    rcases accounts with ahead | ⟨gone, owned⟩
    · exact .behind shape here (swallowed_of_quietParts inside after ahead later)
    · obtain rfl : after = [] := gone
      cases owned with
      | reporting told => exact absurd here (warnings_of_reports options _ told)
      | dropping dropped =>
        obtain ⟨command, read, drops⟩ := dropped
        exact .dropped unclosed read drops shape
      | ending closed => exact .ended unclosed shape closed here
      | scoping found open' => exact .within shape here found (inside open' (quiet_scope found here))
termination_by text.length
decreasing_by
  simp only [List.length_cons]
  omega

/-- Text with a brace that is never closed is read without a warning exactly where the brace is swallowed. -/
theorem warnings_sequence_iff {text : List Char} (unclosed : Unclosed text) :
    (sequence options levels top text).warnings = [] ↔ Swallowed options levels top text := by
  refine ⟨fun quiet => ?_, Swallowed.quiet⟩
  induction levels generalizing top text with
  | zero => simp [sequence] at quiet
  | succ levels ih =>
    rw [sequence_succ, Noted.warnings_map] at quiet
    exact swallowed_of_quietParts (fun open' none => ih open' none) text unclosed quiet

end swallowing

end Vitae.Transpile

namespace Vitae

open Markup Transpile

/-- Markup with a brace that is never closed is transpiled without a warning exactly where the walk swallows
the brace: where it belongs to an argument of a command that leaves no trace, or to the closing command of a
block that is otherwise whole. -/
theorem warnings_transpile_iff (options : TranspileOptions) {normal : String} (unclosed : Unclosed normal.toList) :
    (transpile options normal).warnings = [] ↔ Swallowed options (options.maxDepth + 1) true normal.toList := by
  rw [← warnings_sequence_iff unclosed]
  simp [transpile]

example : Unclosed "\\begin\x7bitemize\x7d\\item A\\end\x7bitemize".toList ∧
    (transpile {} "\\begin\x7bitemize\x7d\\item A\\end\x7bitemize").warnings = [] := by
  decide +kernel

/-- A style reports the group that is left open behind it. -/
theorem not_swallowed_unclosedStyle :
    Unclosed "\\textbf\x7bRust".toList ∧
      ¬ Swallowed {} (({} : TranspileOptions).maxDepth + 1) true "\\textbf\x7bRust".toList := by
  have unclosed : Unclosed "\\textbf\x7bRust".toList := by decide
  refine ⟨unclosed, fun swallowed => ?_⟩
  have quiet := (warnings_transpile_iff {} unclosed).mpr swallowed
  exact absurd quiet (by decide +kernel)

/-- A length drops the rest of the text with its open group, in silence. -/
theorem transpile_unclosedLength :
    Markup.normalize {} "\\vspace\x7b1pt Rust" = "\\vspace\x7b1pt Rust" ∧ Unclosed "\\vspace\x7b1pt Rust".toList ∧
      (transpile {} "\\vspace\x7b1pt Rust").tree.isEmpty = true ∧
        (transpile {} "\\vspace\x7b1pt Rust").warnings = [] := by
  refine ⟨?_, ?_, ?_, ?_⟩
  all_goals decide +kernel

end Vitae
