import Vitae.Proofs.NormalForm

/-! Inert text, in which no pass towards the normal form finds anything to do: it is one line, percent and dollar signs
stand only behind a backslash, and what a backslash begins is neither a line break nor a word that declares. -/

namespace Vitae.Markup

/-- What stands behind the backslash of every word that declares. -/
def declaringLetters : List Char :=
  ['d', 'u', 'b', 'e']

/-- No pass finds anything in the text; `behind` tells whether it follows a backslash. -/
def Inert : (behind : Bool) → List Char → Prop
  | _, [] => True
  | behind, c :: rest =>
    c ≠ '\n' ∧ (if behind then c ≠ '\\' ∧ c ∉ declaringLetters else c ≠ '%' ∧ c ≠ '$') ∧ Inert (c == '\\') rest

theorem Inert.steady {behind : Bool} {text : List Char} (inert : Inert behind text) : Steady behind text := by
  induction text generalizing behind with
  | nil => trivial
  | cons c rest ih =>
    obtain ⟨-, here, later⟩ := inert
    cases behind with
    | true => exact ⟨fun slash => absurd slash here.1, fun _ => rfl, fun _ => rfl, ih later⟩
    | false =>
      refine ⟨fun _ => rfl, fun percent => absurd percent here.1, fun sign => ?_, ih later⟩
      exact absurd (List.cons_prefix_cons.mp sign).1.symm here.2

/-- What is left of inert text behind a backslash begins with no letter of a declaration. -/
theorem Inert.behind_slash {behind : Bool} {text rest : List Char} {c : Char} (inert : Inert behind text)
    (tail : '\\' :: c :: rest <:+ text) : c ∉ declaringLetters := by
  induction text generalizing behind with
  | nil => exact absurd (List.suffix_nil.mp tail) (by simp)
  | cons d text ih =>
    rcases List.suffix_cons_iff.mp tail with same | later
    · obtain ⟨rfl, rfl⟩ := List.cons.inj same
      exact inert.2.2.2.1.2
    · exact ih inert.2.2 later

theorem declaringLetter_of_read {idiom : Idiom} (listed : idiom ∈ declarations) {text : List Char}
    (read : idiom.after? text ≠ none) : ∃ c ∈ declaringLetters, ∃ rest, text = '\\' :: c :: rest := by
  have spelled {word after : List Char} {c : Char} (found : expect? ('\\' :: c :: word) text = some after) :
      text = '\\' :: c :: (word ++ after) := expect?_eq_some_iff.mp found
  have either {first second after : List Char} {c d : Char} (member : c ∈ declaringLetters ∧ d ∈ declaringLetters)
      (found : (expect? ('\\' :: c :: first) text <|> expect? ('\\' :: d :: second) text) = some after) :
      ∃ c ∈ declaringLetters, ∃ rest, text = '\\' :: c :: rest := by
    simp only [Option.orElse_eq_orElse, Option.orElse_eq_or, Option.or_eq_some_iff] at found
    rcases found with found | ⟨-, found⟩
    · exact ⟨c, member.1, _, spelled found⟩
    · exact ⟨d, member.2, _, spelled found⟩
  obtain ⟨after, found⟩ := Option.ne_none_iff_exists'.mp read
  simp only [declarations, List.mem_cons, List.not_mem_nil, or_false] at listed
  rcases listed with rfl | rfl | rfl
  · simp only [declaration, declaration?, Option.bind_eq_bind, Option.bind_eq_some_iff] at found
    obtain ⟨behind, word, -⟩ := found
    exact either (by decide) word
  · simp only [colorDefinition, colorDefinition?, Option.bind_eq_bind, Option.bind_eq_some_iff] at found
    obtain ⟨behind, word, -⟩ := found
    exact ⟨'d', by decide, _, spelled word⟩
  · simp only [documentBoundary, documentBoundary?, Option.bind_eq_bind, Option.bind_eq_some_iff] at found
    obtain ⟨behind, word, -⟩ := found
    exact either (by decide) word

private theorem Inert.not_declares {text : List Char} (inert : Inert false text) : ¬ Declares text := by
  rintro ⟨idiom, listed, suffix, tail, read⟩
  obtain ⟨c, letter, rest, rfl⟩ := declaringLetter_of_read listed read
  exact inert.behind_slash tail letter

theorem Inert.collapseBlankLines {behind : Bool} {text : List Char} (inert : Inert behind text) :
    collapseBlankLines text = text := by
  induction text generalizing behind with
  | nil => rw [Markup.collapseBlankLines]
  | cons c rest ih => rw [Markup.collapseBlankLines.eq_3 _ _ inert.1, ih inert.2.2]

/-- Inert text is in normal form, if it is composed where that is asked for. -/
theorem normalizeWith_of_inert {compose : List Char → List Char} {options : NormalOptions} {text : String}
    (inert : Inert false text.toList) (composed : options.composeUnicode = true → compose text.toList = text.toList) :
    normalizeWith compose options text = text := by
  have same := normalFormWith_of_steady inert.steady composed (fun _ => inert.collapseBlankLines)
    (body_of_not_declares inert.not_declares)
  rw [normalizeWith, same, String.ofList_toList]

end Vitae.Markup
