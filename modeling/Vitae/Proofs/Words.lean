import Vitae.Text.Blank

/-! Words and the white space around them. A text is cut into words at its white space, so the words of a text that is
cut there are those of its parts, and trimming takes white space and nothing else. -/

namespace Vitae.Text

section words

variable {separates : Char → Bool}

theorem words_cons_space {c : Char} (space : separates c = true) (text : List Char) :
    words separates (c :: text) = words separates text := by
  conv => lhs; unfold words
  rw [if_pos space]

theorem words_gap {c d : Char} (shown : separates c = false) (space : separates d = true) (text : List Char) :
    words separates (c :: d :: text) = [c] :: words separates text := by
  conv => lhs; unfold words
  rw [if_neg (by simp [shown]), words_cons_space space]
  cases words separates text <;> simp [space]

theorem words_joined {c d : Char} (shown : separates c = false) (joined : separates d = false) (text : List Char) :
    ∃ word later, words separates (d :: text) = word :: later ∧
      words separates (c :: d :: text) = (c :: word) :: later := by
  have some : ∃ word later, words separates (d :: text) = word :: later := by
    conv => enter [1, word, 1, later]; unfold words
    rw [if_neg (by simp [joined])]
    split
    · split <;> simp
    · simp
  obtain ⟨word, later, same⟩ := some
  refine ⟨word, later, same, ?_⟩
  conv => lhs; unfold words
  rw [if_neg (by simp [shown]), same]
  simp [joined]

/-- All that is said of words follows from this. -/
theorem words_append_space {c : Char} (space : separates c = true) (before after : List Char) :
    words separates (before ++ c :: after) = words separates before ++ words separates after := by
  induction before with
  | nil => exact words_cons_space space after
  | cons d before ih =>
    cases shown : separates d with
    | true => rw [List.cons_append, words_cons_space shown, words_cons_space shown, ih]
    | false =>
      cases before with
      | nil =>
        have one : words separates [d] = [[d]] := by simp [words, shown]
        rw [one, List.singleton_append, words_gap shown space, List.singleton_append]
      | cons e before =>
        cases gap : separates e with
        | true =>
          rw [List.cons_append, words_cons_space gap, words_cons_space gap] at ih
          rw [List.cons_append, List.cons_append, words_gap shown gap, words_gap shown gap, ih, List.cons_append]
        | false =>
          obtain ⟨word, later, first, same⟩ := words_joined shown gap before
          obtain ⟨longer, others, second, whole⟩ := words_joined shown gap (before ++ c :: after)
          rw [List.cons_append, second, first, List.cons_append] at ih
          obtain ⟨rfl, rfl⟩ := List.cons.inj ih
          rw [List.cons_append, List.cons_append, whole, same, List.cons_append]

theorem words_blank {text : List Char} (blank : ∀ c ∈ text, separates c = true) : words separates text = [] := by
  induction text with
  | nil => rfl
  | cons c text ih =>
    rw [List.forall_mem_cons] at blank
    rw [words_cons_space blank.1, ih blank.2]

theorem words_blank_append {blanks : List Char} (blank : ∀ c ∈ blanks, separates c = true) (text : List Char) :
    words separates (blanks ++ text) = words separates text := by
  induction blanks with
  | nil => rfl
  | cons c blanks ih =>
    rw [List.forall_mem_cons] at blank
    rw [List.cons_append, words_cons_space blank.1, ih blank.2]

theorem words_append_blank {blanks : List Char} (blank : ∀ c ∈ blanks, separates c = true) (text : List Char) :
    words separates (text ++ blanks) = words separates text := by
  cases blanks with
  | nil => rw [List.append_nil]
  | cons c blanks =>
    rw [List.forall_mem_cons] at blank
    rw [words_append_space blank.1, words_blank blank.2, List.append_nil]

/-- Behind white space, or at the start, a new word begins. -/
theorem words_append {before : List Char} (ends : ∀ c ∈ before.getLast?, separates c = true) (after : List Char) :
    words separates (before ++ after) = words separates before ++ words separates after := by
  rcases List.eq_nil_or_concat before with rfl | ⟨first, c, rfl⟩
  · rfl
  · have space : separates c = true := ends c (by simp)
    rw [List.concat_eq_append, List.append_assoc, List.singleton_append, words_append_space space,
      words_append_space space, List.append_assoc]
    rfl

/-- A text without white space is one word. -/
theorem words_word {word : List Char} (some : word ≠ []) (shown : ∀ c ∈ word, separates c = false) :
    words separates word = [word] := by
  induction word with
  | nil => exact absurd rfl some
  | cons c word ih =>
    rw [List.forall_mem_cons] at shown
    cases word with
    | nil => simp [words, shown.1]
    | cons d word =>
      obtain ⟨first, later, same, whole⟩ := words_joined shown.1 (shown.2 d (by simp)) word
      rw [ih (by simp) shown.2] at same
      obtain ⟨rfl, rfl⟩ := List.cons.inj same
      exact whole

section drops

variable {drops : Char → Bool} (blank : ∀ c, drops c = true → separates c = true)
include blank

theorem words_dropWhile (text : List Char) : words separates (text.dropWhile drops) = words separates text := by
  have dropped : ∀ c ∈ text.takeWhile drops, separates c = true := by
    intro c member
    exact blank c (List.all_eq_true.mp List.all_takeWhile c member)
  calc
    words separates (text.dropWhile drops) = words separates (text.takeWhile drops ++ text.dropWhile drops) :=
      (words_blank_append dropped _).symm
    _ = words separates text := by rw [List.takeWhile_append_dropWhile]

theorem words_dropTrailing (text : List Char) : words separates (dropTrailing drops text) = words separates text := by
  have dropped : ∀ c ∈ (text.reverse.takeWhile drops).reverse, separates c = true := by
    intro c member
    exact blank c (List.all_eq_true.mp List.all_takeWhile c (List.mem_reverse.mp member))
  calc
    words separates (dropTrailing drops text) =
        words separates (dropTrailing drops text ++ (text.reverse.takeWhile drops).reverse) :=
      (words_append_blank dropped _).symm
    _ = words separates text := by
      rw [dropTrailing, ← List.reverse_append, List.takeWhile_append_dropWhile, List.reverse_reverse]

end drops

/-- The words of a text are made of all its characters that do not separate. -/
theorem flatten_words (text : List Char) : (words separates text).flatten = text.filter (!separates ·) := by
  fun_induction words separates text with
  | case1 => rfl
  | case2 c rest space ih => rw [ih, List.filter_cons_of_neg (by simp [space])]
  | case3 c shown d behind word later space same ih =>
    rw [same] at ih
    simp only [same, if_pos space]
    rw [List.filter_cons_of_pos (by simp [shown]), ← ih, List.flatten_cons, List.singleton_append]
  | case4 c shown d behind word later joined same ih =>
    rw [same] at ih
    simp only [same, if_neg joined]
    rw [List.filter_cons_of_pos (by simp [shown]), ← ih, List.flatten_cons, List.flatten_cons, List.cons_append]
  | case5 c rest shown apart ih =>
    split
    next d behind word later same => exact absurd same (apart d behind word later rfl)
    next => rw [List.filter_cons_of_pos (by simp [shown]), ← ih, List.flatten_cons, List.singleton_append]

end words

theorem forall_mem_words (separates : Char → Bool) (text : List Char) :
    ∀ word ∈ words separates text, word ≠ [] ∧ ∀ c ∈ word, separates c = false := by
  have single {c : Char} (shown : ¬ separates c = true) : [c] ≠ [] ∧ ∀ d ∈ [c], separates d = false :=
    ⟨by simp, by simpa using shown⟩
  fun_induction words separates text with
  | case1 => simp
  | case2 c rest space ih => exact ih
  | case3 c shown d behind word later space same ih =>
    rw [same] at ih
    simp only [same, if_pos space]
    exact List.forall_mem_cons.mpr ⟨single shown, ih⟩
  | case4 c shown d behind word later joined same ih =>
    rw [same] at ih
    simp only [same, if_neg joined]
    obtain ⟨first, others⟩ := List.forall_mem_cons.mp ih
    refine List.forall_mem_cons.mpr ⟨⟨by simp, ?_⟩, others⟩
    exact List.forall_mem_cons.mpr ⟨by simpa using shown, first.2⟩
  | case5 c rest shown apart ih =>
    split
    next d behind word later same => exact absurd same (apart d behind word later rfl)
    next => exact List.forall_mem_cons.mpr ⟨single shown, ih⟩

theorem words_subset (separates : Char → Bool) (text : List Char) : ∀ word ∈ words separates text, word ⊆ text := by
  have single (c : Char) (rest : List Char) : [c] ⊆ c :: rest := by simp
  have wider {c : Char} {rest : List Char} {found : List (List Char)} (each : ∀ word ∈ found, word ⊆ rest) :
      ∀ word ∈ found, word ⊆ c :: rest :=
    fun word member => List.subset_cons_of_subset c (each word member)
  fun_induction words separates text with
  | case1 => simp
  | case2 c rest space ih => exact wider ih
  | case3 c shown d behind word later space same ih =>
    rw [same] at ih
    simp only [same, if_pos space]
    exact List.forall_mem_cons.mpr ⟨single c _, wider ih⟩
  | case4 c shown d behind word later joined same ih =>
    rw [same] at ih
    simp only [same, if_neg joined]
    obtain ⟨first, others⟩ := List.forall_mem_cons.mp ih
    exact List.forall_mem_cons.mpr ⟨List.cons_subset_cons c first, wider others⟩
  | case5 c rest shown apart ih =>
    split
    next d behind word later same => exact absurd same (apart d behind word later rfl)
    next => exact List.forall_mem_cons.mpr ⟨single c _, wider ih⟩

/-- What holds of the last character of two texts, if they have one, holds of that of both. -/
theorem forall_getLast?_append {holds : Char → Prop} {first second : List Char} (one : ∀ c ∈ first.getLast?, holds c)
    (two : ∀ c ∈ second.getLast?, holds c) : ∀ c ∈ (first ++ second).getLast?, holds c := by
  intro c last
  rw [List.getLast?_append] at last
  cases found : second.getLast? with
  | none => exact one c (by simpa [found] using last)
  | some d => exact two c (by simpa [found] using last)

section trim

/-- The white space that a text begins with. -/
def leading (text : List Char) : List Char :=
  text.takeWhile isSpace

/-- The white space that a text ends in. -/
def trailing (text : List Char) : List Char :=
  (text.reverse.takeWhile isSpace).reverse

theorem isSpace_of_mem_leading {text : List Char} {c : Char} (member : c ∈ leading text) : isSpace c = true :=
  List.all_eq_true.mp List.all_takeWhile c member

theorem isSpace_of_mem_trailing {text : List Char} {c : Char} (member : c ∈ trailing text) : isSpace c = true :=
  List.all_eq_true.mp List.all_takeWhile c (List.mem_reverse.mp member)

theorem leading_append_dropWhile (text : List Char) : leading text ++ text.dropWhile isSpace = text :=
  List.takeWhile_append_dropWhile

theorem dropTrailing_append_trailing (text : List Char) : dropTrailing isSpace text ++ trailing text = text := by
  rw [dropTrailing, trailing, ← List.reverse_append, List.takeWhile_append_dropWhile, List.reverse_reverse]

theorem words_trim (text : List Char) : words isSpace (trim text) = words isSpace text := by
  rw [trim, words_dropTrailing fun _ => id, words_dropWhile fun _ => id]

end trim

end Vitae.Text
