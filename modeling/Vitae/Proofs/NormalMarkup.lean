import Vitae.Proofs.ComposedText
import Vitae.Proofs.NormalForm

/-! What can be read off normal markup without knowing how it came about: backslashes stand alone, they guard
what would be a comment or a pipe, and blank lines do not pile up. -/

namespace Vitae.Markup

/-- No backslash is doubled, and one stands directly before every percent sign and every pipe. -/
structure IsNormal (text : List Char) : Prop where
  single : ¬ ['\\', '\\'] <:+: text
  percent : ∀ before after, text = before ++ '%' :: after → before.getLast? = some '\\'
  pipe : ∀ before after, text = before ++ pipeSign ++ after → before.getLast? = some '\\'

theorem Steady.from {behind : Bool} {before text : List Char} (steady : Steady behind (before ++ text)) :
    Steady (before.getLast?.elim behind (· == '\\')) text := by
  induction before generalizing behind with
  | nil => exact steady
  | cons c before ih =>
    have later := ih steady.2.2.2
    rw [List.getLast?_cons]
    cases last : before.getLast? with
    | none => simpa [last] using later
    | some d => simpa [last] using later

private theorem Steady.isNormal {text : List Char} (steady : Steady false text) : IsNormal text := by
  have guarded {before : List Char} (behind : before.getLast?.elim false (· == '\\') = true) :
      before.getLast? = some '\\' := by
    cases last : before.getLast? with
    | none => simp [last] at behind
    | some c => simpa [last] using behind
  refine ⟨?_, fun before after whole => ?_, fun before after whole => ?_⟩
  · rintro ⟨before, after, rfl⟩
    rw [List.append_assoc] at steady
    exact absurd (steady.from.2.2.2.1 rfl) (by decide)
  · rw [whole] at steady
    exact guarded (steady.from.2.1 rfl)
  · rw [whole, List.append_assoc] at steady
    exact guarded (steady.from.2.2.1 (List.prefix_append pipeSign after))

/-- Markup is normal once normalized, whatever it was, where composing Unicode text keeps outlines. -/
theorem isNormal_normalizeWith {compose : List Char → List Char} {options : NormalOptions}
    (kept : options.composeUnicode = true → ∀ text, outline (compose text) = outline text) (markup : String) :
    IsNormal (normalizeWith compose options markup).toList ∧
      (options.collapseBlankLines = true → ¬ HasBlankLines (normalizeWith compose options markup).toList) := by
  rw [normalizeWith, String.toList_ofList]
  refine ⟨(steady_normalFormWith_of_outline kept markup.toList).isNormal, fun collapses => ?_⟩
  simp only [normalFormWith, collapses, if_true]
  exact not_hasBlankLines_collapseBlankLines _

theorem isNormal_normalize (options : NormalOptions) (markup : String) : IsNormal (normalize options markup).toList := by
  rw [normalize, normalizeWith, String.toList_ofList]
  exact (steady_normalFormWith_of_outline (fun _ => outline_compose) markup.toList).isNormal

def looseMarkup : String :=
  "e\u0301\\\\[2pt]$|$\\%%x\n \n\n"

theorem isNormal_normalize_looseMarkup :
    (∀ text, outline (Text.compose text) = outline text) ∧
      normalize {} looseMarkup = "\u00E9\uE000\uE001\\%\n\n" ∧
      IsNormal (normalize {} looseMarkup).toList ∧ ¬ HasBlankLines (normalize {} looseMarkup).toList := by
  have kept : ({} : NormalOptions).composeUnicode = true → ∀ text, outline (Text.compose text) = outline text :=
    fun _ => outline_compose
  have normal := isNormal_normalizeWith kept looseMarkup
  exact ⟨outline_compose, by decide +kernel, normal.1, normal.2 rfl⟩

end Vitae.Markup
