import Vitae.Proofs.Tidiness
import Vitae.Proofs.Words

/-! The form of sibling sequences. Tidying gives it to every sequence without fragments: texts stand apart, none is
empty, white space is single spaces, and a text keeps one at an end only next to a styled span or a link. -/

namespace Vitae

namespace Text

theorem intercalate_cons_cons (word next : List Char) (later : List (List Char)) :
    [' '].intercalate (word :: next :: later) = word ++ ' ' :: [' '].intercalate (next :: later) := by
  simp [List.intercalate]

private theorem forall_of_dropWhile_eq_nil {drops : Char → Bool} {text : List Char}
    (nothing : text.dropWhile drops = []) :
    ∀ c ∈ text, drops c = true := by
  have whole : text.takeWhile drops ++ text.dropWhile drops = text := List.takeWhile_append_dropWhile
  rw [nothing, List.append_nil] at whole
  rw [← whole]
  exact List.all_eq_true.mp List.all_takeWhile

/-- Trimming leaves nothing only of white space. -/
theorem all_isSpace_of_trim {text : List Char} (nothing : trim text = []) : text.all isSpace = true := by
  rw [trim, dropTrailing, List.reverse_eq_nil_iff] at nothing
  have behind : ∀ c ∈ text.dropWhile isSpace, isSpace c = true := fun c member =>
    forall_of_dropWhile_eq_nil nothing c (List.mem_reverse.mpr member)
  have whole : text.all isSpace = ((text.takeWhile isSpace).all isSpace && (text.dropWhile isSpace).all isSpace) := by
    rw [← List.all_append, List.takeWhile_append_dropWhile]
  rw [whole, List.all_takeWhile, List.all_eq_true.mpr behind]
  rfl

end Text

namespace Notation

section spacing

private theorem singleSpaced_nil : SingleSpaced [] :=
  ⟨fun _ none => absurd none (by simp), fun double => absurd (List.IsInfix.length_le double) (by decide)⟩

theorem SingleSpaced.part {part text : List Char} (spaced : SingleSpaced text) (inside : part <:+: text) :
    SingleSpaced part :=
  ⟨fun c member => spaced.1 c (inside.subset member), fun double => spaced.2 (double.trans inside)⟩

private theorem infix_cons_iff {first second c : Char} {rest : List Char} :
    [first, second] <:+: c :: rest ↔ (c = first ∧ rest.head? = some second) ∨ [first, second] <:+: rest := by
  rw [List.infix_cons_iff]
  refine or_congr_left ⟨?_, ?_⟩
  · rintro ⟨later, same⟩
    obtain ⟨rfl, rfl⟩ := List.cons.inj same
    exact ⟨rfl, rfl⟩
  · rintro ⟨rfl, next⟩
    obtain ⟨later, rfl⟩ := List.head?_eq_some_iff.mp next
    exact ⟨later, rfl⟩

private theorem singleSpaced_cons {c : Char} {rest : List Char} (spaced : SingleSpaced rest)
    (shown : Text.isAsciiSpace c = true → c = ' ') (next : c = ' ' → rest.head? ≠ some ' ') :
    SingleSpaced (c :: rest) := by
  refine ⟨fun d member space => ?_, fun double => ?_⟩
  · rcases List.mem_cons.mp member with rfl | later
    · exact shown space
    · exact spaced.1 d later space
  · rcases infix_cons_iff.mp double with ⟨same, behind⟩ | later
    · exact next same behind
    · exact spaced.2 later

private theorem singleSpaced_collapseSpaces (inside : Bool) (text : List Char) :
    SingleSpaced (Text.collapseSpaces inside text) ∧
      (inside = true → (Text.collapseSpaces inside text).head? ≠ some ' ') := by
  induction text generalizing inside with
  | nil => exact ⟨singleSpaced_nil, by simp [Text.collapseSpaces]⟩
  | cons c text ih =>
    rw [Text.collapseSpaces]
    split
    next space =>
      obtain ⟨spaced, next⟩ := ih true
      split
      next => exact ⟨spaced, fun _ => next rfl⟩
      next outside => exact ⟨singleSpaced_cons spaced (fun _ => rfl) fun _ => next rfl, fun within => absurd within outside⟩
    next shown =>
      have other : c ≠ ' ' := by
        rintro rfl
        exact shown rfl
      refine ⟨singleSpaced_cons (ih false).1 (fun space => absurd space shown) fun same => absurd same other, fun _ => ?_⟩
      simpa using other

private theorem singleSpaced_word {word rest : List Char} (shown : ∀ c ∈ word, Text.isAsciiSpace c = false)
    (spaced : SingleSpaced rest) : SingleSpaced (word ++ rest) := by
  induction word with
  | nil => exact spaced
  | cons c word ih =>
    have first := shown c (by simp)
    refine singleSpaced_cons (ih fun d member => shown d (by simp [member])) (fun space => ?_) ?_
    · rw [first] at space
      contradiction
    · rintro rfl
      exact absurd first (by decide)

theorem spaced_words {words : List (List Char)} (some : words ≠ [])
    (each : ∀ word ∈ words, word ≠ [] ∧ ∀ c ∈ word, Text.isAsciiSpace c = false) :
    SingleSpaced ([' '].intercalate words) ∧ [' '].intercalate words ≠ [] ∧
      ([' '].intercalate words).head? ≠ .some ' ' ∧ ([' '].intercalate words).getLast? ≠ .some ' ' := by
  have noSpace {word : List Char} (shown : ∀ c ∈ word, Text.isAsciiSpace c = false) : ' ' ∉ word :=
    fun member => absurd (shown ' ' member) (by decide)
  induction words with
  | nil => exact absurd rfl some
  | cons word words ih =>
    obtain ⟨filled, shown⟩ := each word (by simp)
    have first : word.head? ≠ .some ' ' := fun same => noSpace shown (List.mem_of_head? same)
    cases words with
    | nil =>
      have whole : [' '].intercalate [word] = word := by simp [List.intercalate]
      rw [whole]
      refine ⟨?_, filled, first, fun same => noSpace shown (List.mem_of_getLast? same)⟩
      simpa using singleSpaced_word shown singleSpaced_nil
    | cons second words =>
      obtain ⟨spaced, more, start, stop⟩ := ih (by simp) fun other member => each other (by simp [member])
      rw [Text.intercalate_cons_cons]
      refine ⟨singleSpaced_word shown (singleSpaced_cons spaced (fun _ => rfl) fun _ => start), by simp, ?_, ?_⟩
      · obtain ⟨c, later, rfl⟩ := List.exists_cons_of_ne_nil filled
        exact first
      · rw [List.getLast?_append, List.getLast?_cons_of_ne_nil more, Option.or_of_isSome]
        · exact stop
        · simpa using more

theorem tidyText_form (before after : Bool) (value : List Char) :
    SingleSpaced (Node.tidyText before after value) ∧
      ((Node.tidyText before after value).head? = some ' ' → before = true) ∧
      ((Node.tidyText before after value).getLast? = some ' ' → after = true) := by
  let shortened := if after then Text.collapseSpaces false value
    else Text.dropTrailing (· == ' ') (Text.collapseSpaces false value)
  have spaced : SingleSpaced shortened := by
    have collapsed := (singleSpaced_collapseSpaces false value).1
    simp only [shortened]
    split
    · exact collapsed
    · refine collapsed.part ?_
      rw [Text.dropTrailing, ← List.reverse_infix, List.reverse_reverse]
      exact (List.dropWhile_suffix _).isInfix
  have stop : shortened.getLast? = some ' ' → after = true := by
    simp only [shortened]
    split
    next flows => exact fun _ => flows
    next => exact fun last => absurd (Text.getLast?_dropTrailing _ _ last) (by simp)
  have whole : Node.tidyText before after value = if before then shortened else shortened.dropWhile (· == ' ') := rfl
  rw [whole]
  split
  next flows => exact ⟨spaced, fun _ => flows, stop⟩
  next =>
    have suffix := List.dropWhile_suffix (· == ' ') (l := shortened)
    refine ⟨spaced.part suffix.isInfix, fun first => ?_, fun last => ?_⟩
    · have head := List.head?_dropWhile_not (· == ' ') shortened
      rw [first] at head
      exact absurd head (by simp)
    · obtain ⟨front, same⟩ := suffix
      refine stop ?_
      rw [← same, List.getLast?_append, last]
      rfl

end spacing

end Notation

namespace Node

/-- The form of a sequence of siblings: it is tidy, and no fragment stands in it. `spanned` tells whether the node in
front takes space. -/
structure Siblings (spanned : Bool) (nodes : List Node) : Prop where
  tidied : Tidied spanned nodes
  whole : ∀ node ∈ nodes, node.kind ≠ .fragment

private theorem tidied_of_titled {spanned : Bool} {sections : List Node}
    (titled : ∀ node ∈ sections, node.kind = .titled) :
    Tidied spanned sections := by
  induction sections generalizing spanned with
  | nil => exact .nil
  | cons node rest ih =>
    rw [List.forall_mem_cons] at titled
    exact .other (by simp [titled.1]) (ih titled.2)

/-- Sections may follow a tidy sequence, at the end of which no text keeps space. -/
theorem Tidied.append_titled {spanned : Bool} {nodes : List Node} (tidied : Tidied spanned nodes)
    {sections : List Node} (titled : ∀ node ∈ sections, node.kind = .titled) : Tidied spanned (nodes ++ sections) := by
  induction tidied with
  | nil => exact tidied_of_titled titled
  | @text spanned value rest shown spaced start stop apart tail ih =>
    refine .text shown spaced start (fun last => ?_) (fun other later same => ?_) ih
    · cases rest with
      | nil => exact absurd (stop last) (by simp)
      | cons node rest => exact stop last
    · cases rest with
      | nil =>
        have member : .text other ∈ sections := by
          rw [show sections = .text other :: later from same]
          exact List.mem_cons_self
        exact absurd (titled _ member) (by simp [kind])
      | cons node rest =>
        obtain rfl := (List.cons.inj same).1
        exact apart other rest rfl
  | other noText _ ih => exact .other noText ih

theorem Siblings.append_titled {spanned : Bool} {nodes : List Node} (siblings : Siblings spanned nodes)
    {sections : List Node} (titled : ∀ node ∈ sections, node.kind = .titled) : Siblings spanned (nodes ++ sections) := by
  refine ⟨siblings.tidied.append_titled titled, List.forall_mem_append.mpr ⟨siblings.whole, ?_⟩⟩
  intro node member
  simp [titled node member]

section tidying

/-- No two texts stand next to each other. -/
inductive Apart : List Node → Prop
  | nil : Apart []
  | text {value rest} (next : ∀ other later, rest ≠ .text other :: later) (tail : Apart rest) :
      Apart (.text value :: rest)
  | other {node rest} (noText : ∀ value, node = .text value → False) (tail : Apart rest) : Apart (node :: rest)

theorem apart_mergeTexts (nodes : List Node) : Apart (mergeTexts nodes) := by
  fun_induction mergeTexts nodes with
  | case1 => exact .nil
  | case2 value rest next later merged ih =>
    rw [merged] at ih
    cases ih with
    | text next tail => exact .text next tail
    | other noText => exact absurd rfl (noText next)
  | case3 value rest next ih => exact .text (fun other later same => next other later same) ih
  | case4 node rest noText ih => exact .other noText ih

/-- Nodes other than texts stay as they are. -/
theorem mem_mergeTexts {nodes : List Node} {node : Node} (member : node ∈ mergeTexts nodes) :
    node.kind = .text ∨ node ∈ nodes := by
  fun_induction mergeTexts nodes with
  | case1 => exact absurd member (by simp)
  | case2 value rest next later merged ih =>
    rcases List.mem_cons.mp member with rfl | behind
    · exact .inl rfl
    · exact (ih (by simp [merged, behind])).imp_right (List.mem_cons_of_mem _)
  | case3 value rest next ih =>
    rcases List.mem_cons.mp member with rfl | behind
    · exact .inl rfl
    · exact (ih behind).imp_right (List.mem_cons_of_mem _)
  | case4 other rest noText ih =>
    rcases List.mem_cons.mp member with rfl | behind
    · exact .inr (by simp)
    · exact (ih behind).imp_right (List.mem_cons_of_mem _)

private theorem mem_tidyTexts {before : Bool} {nodes : List Node} {node : Node}
    (member : node ∈ tidyTexts before nodes) :
    node.kind = .text ∨ node ∈ nodes := by
  fun_induction tidyTexts before nodes with
  | case1 => exact absurd member (by simp)
  | case2 before value rest nothing ih => exact (ih member).imp_right (List.mem_cons_of_mem _)
  | case3 before value rest shown ih =>
    rcases List.mem_cons.mp member with rfl | behind
    · exact .inl rfl
    · exact (ih behind).imp_right (List.mem_cons_of_mem _)
  | case4 before other rest noText ih =>
    rcases List.mem_cons.mp member with rfl | behind
    · exact .inr (by simp)
    · exact (ih behind).imp_right (List.mem_cons_of_mem _)

theorem mem_tidy {nodes : List Node} {node : Node} (member : node ∈ tidy nodes) : node.kind = .text ∨ node ∈ nodes := by
  rcases mem_tidyTexts member with text | merged
  · exact .inl text
  · exact mem_mergeTexts merged

/-- Tidying changes nothing but texts. -/
theorem mem_tidy_of_kind {nodes : List Node} {node : Node} (noText : node.kind ≠ .text) (member : node ∈ nodes) :
    node ∈ tidy nodes := by
  have later {value : String} {rest : List Node} (member : node ∈ .text value :: rest) : node ∈ rest :=
    (List.mem_cons.mp member).resolve_left (by rintro rfl; exact noText rfl)
  have other {first : Node} {rest changed : List Node} (member : node ∈ first :: rest)
      (ih : node ∈ rest → node ∈ changed) : node ∈ first :: changed := by
    rcases List.mem_cons.mp member with rfl | behind
    · exact List.mem_cons_self
    · exact .tail _ (ih behind)
  have merged : node ∈ mergeTexts nodes := by
    fun_induction mergeTexts nodes with
    | case1 => exact member
    | case2 value rest next behind same ih =>
      have kept := ih (later member)
      rw [same] at kept
      exact .tail _ (later kept)
    | case3 value rest next ih => exact .tail _ (ih (later member))
    | case4 first rest _ ih => exact other member ih
  unfold tidy
  generalize mergeTexts nodes = nodes, false = before at merged ⊢
  fun_induction tidyTexts before nodes with
  | case1 => exact merged
  | case2 before value rest nothing ih => exact ih (later merged)
  | case3 before value rest shown ih => exact .tail _ (ih (later merged))
  | case4 before first rest _ ih => exact other merged ih

/-- What follows a text is the same after tidying, and no text. -/
theorem head?_tidyTexts {rest : List Node} (apart : Apart rest) (next : ∀ other later, rest ≠ .text other :: later) :
    (tidyTexts true rest).head?.any takesSpace = rest.head?.any flowsWithText ∧
      ∀ other later, tidyTexts true rest ≠ .text other :: later := by
  cases apart with
  | nil => exact ⟨rfl, fun _ _ same => absurd same (by simp [tidyTexts])⟩
  | text => exact absurd rfl (next _ _)
  | other noText =>
    rw [tidyTexts]
    · refine ⟨(flowsWithText_eq_takesSpace (kind_ne_text noText)).symm, fun other later same => ?_⟩
      exact noText other (List.cons.inj same).1
    · exact noText

private theorem tidied_tidyTexts {before : Bool} {nodes : List Node} (apart : Apart nodes) :
    Tidied before (tidyTexts before nodes) := by
  induction apart generalizing before with
  | nil => exact .nil
  | @text value rest next tail ih =>
    -- What stands before `rest` counts only for a text at its head.
    have behind (before : Bool) : Tidied before (tidyTexts true rest) := by
      cases before with
      | true => exact ih
      | false =>
        rw [Notation.tidyTexts_flows next]
        exact ih
    obtain ⟨spaced, start, stop⟩ := Notation.tidyText_form before (rest.head?.any flowsWithText) value.toList
    obtain ⟨same, noText⟩ := head?_tidyTexts tail next
    rw [tidyTexts]
    split
    next => exact behind before
    next shown =>
      refine .text ?_ ?_ ?_ ?_ noText (behind false)
      · simpa using shown
      · rwa [String.toList_ofList]
      · rwa [String.toList_ofList]
      · rwa [String.toList_ofList, same]
  | @other node rest noText tail ih =>
    rw [tidyTexts]
    · refine .other (kind_ne_text noText) ?_
      rw [flowsWithText_eq_takesSpace (kind_ne_text noText)]
      exact ih
    · exact noText

/-- Tidying gives every sequence its form. -/
theorem tidied_tidy (nodes : List Node) : Tidied false (tidy nodes) :=
  tidied_tidyTexts (apart_mergeTexts nodes)

theorem siblings_tidy {nodes : List Node} (whole : ∀ node ∈ nodes, node.kind ≠ .fragment) :
    Siblings false (tidy nodes) := by
  refine ⟨tidied_tidy nodes, ?_⟩
  intro node member
  rcases mem_tidy member with text | kept
  · simp [text]
  · exact whole node kept

end tidying

end Node

end Vitae
