import Vitae.Proofs.InnerTexts

/-! Markup without warnings does not depend on how faults are treated. Wherever the walk looks at the limit of depth, at
the policy for entries or at what becomes of unknown commands, it has warned or is about to, so a walk without a
warning never meets these options. -/

namespace Vitae

/-- Where the first result comes without a warning, the second is the same. -/
def Noted.QuietlySame {α : Type} (first second : Noted α) : Prop :=
  first.warnings = [] → second = first

private theorem Noted.QuietlySame.of_warnings {α : Type} {first second : Noted α} (told : first.warnings ≠ []) :
    QuietlySame first second :=
  fun quiet => absurd quiet told

namespace Transpile

open Markup Noted

variable {options others : TranspileOptions} {inner other : List Char → Noted (List Node)}

private theorem elaborated_policies (typography : others.typography = options.typography) {read : Construct}
    (sound : faults inner options read = []) : elaborated others other read = elaborated options other read := by
  cases read with
  | run text => simp only [elaborated, typography]
  | entry fields =>
    have enough : ¬ fields.length < 4 := by simpa using (List.append_eq_nil_iff.mp sound).2
    -- The policy is asked only where fields are missing.
    exact bind_congr_value (by simp [value_mapM, enough])
  | unknown command argument? =>
    cases argument? with
    | none => rfl
    | some argument => simp [faults] at sound
  | styled command style argument? | color argument? | heading argument? | url argument? => cases argument? <;> rfl
  | href target? label? =>
    cases target? with
    | none => rfl
    | some target => cases label? <;> rfl
  | _ => rfl

private theorem quietlySame_elaborated (inside : ∀ text, QuietlySame (inner text) (other text))
    (typography : others.typography = options.typography) (read : Construct) :
    QuietlySame (elaborated options inner read) (elaborated others other read) := by
  intro quiet
  obtain ⟨sound, silent⟩ := (warnings_elaborated_eq_nil inner options).mp quiet
  calc elaborated others other read
    _ = elaborated options other read := elaborated_policies typography sound
    _ = elaborated options inner read := elaborated_congr fun text member => inside text (silent text member)

private theorem quietlySame_sequence (typography : others.typography = options.typography) {levels more : Nat}
    (deeper : levels ≤ more) (top : Bool) (text : List Char) :
    QuietlySame (sequence options levels top text) (sequence others more top text) := by
  induction levels generalizing more top text with
  | zero => exact QuietlySame.of_warnings (by simp [sequence])
  | succ levels ih =>
    obtain ⟨more, rfl⟩ := Nat.exists_eq_succ_of_ne_zero (Nat.ne_zero_of_lt deeper)
    intro quiet
    have each (read : Construct) (member : read ∈ constructs top text) :=
      quietlySame_elaborated (ih (Nat.le_of_succ_le_succ deeper) false) typography read
        ((warnings_sequence_eq_nil options).mp quiet read member)
    rw [sequence, sequence, mapM_congr each]

end Transpile

/-- Markup that is transpiled without warnings is transpiled to the same tree, again without warnings, whatever becomes
of incomplete entries and of unknown commands and however much deeper groups may be nested. -/
theorem transpile_of_quiet {options others : TranspileOptions} {normal : String}
    (quiet : (transpile options normal).warnings = []) (typography : others.typography = options.typography)
    (deeper : options.maxDepth ≤ others.maxDepth) :
    (transpile others normal).tree = (transpile options normal).tree ∧ (transpile others normal).warnings = [] := by
  have same := Transpile.quietlySame_sequence typography (Nat.succ_le_succ deeper) true normal.toList
    (List.map_eq_nil_iff.mp quiet)
  have whole : transpile others normal = transpile options normal := by
    rw [transpile, transpile, same]
  exact ⟨congrArg Document.tree whole, (congrArg Document.warnings whole).trans quiet⟩

def workHistory : String :=
  "\\section\x7bWork\x7d\\resumeSubheading\x7bEngine\x7d\x7b1843\x7d\x7bNotes \\textit\x7bA -- G\x7d\x7d\x7b\x7d" ++
    "\\resumeItem\x7bNumbers\x7d"

theorem transpile_workHistory :
    (transpile { maxDepth := 2 } workHistory).warnings = [] ∧
      (transpile { malformedEntries := .drop, unwrapUnknown := false, maxDepth := 9 } workHistory).tree =
        (transpile { maxDepth := 2 } workHistory).tree ∧
      (transpile { malformedEntries := .drop, unwrapUnknown := false, maxDepth := 9 } workHistory).warnings = [] := by
  have quiet : (transpile { maxDepth := 2 } workHistory).warnings = [] := by decide +kernel
  exact ⟨quiet, transpile_of_quiet quiet rfl (by decide)⟩

end Vitae
