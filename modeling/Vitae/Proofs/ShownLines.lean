import Mathlib.Data.List.DropRight
import Mathlib.Data.List.Induction
import Mathlib.Data.List.TakeWhile
import Vitae.Proofs.Words

/-! The lines of a text that show anything, each without the white space around it. A line feed parts the lines before
it from those behind it, and white space at the ends of a text shows nothing. -/

namespace Vitae.Text

section trim

/-- A text that shows something keeps what stands before it. -/
theorem dropTrailing_append_of_any {text : List Char} (shown : text.any (!isSpace ·)) (before : List Char) :
    dropTrailing isSpace (before ++ text) = before ++ dropTrailing isSpace text := by
  obtain ⟨c, member, stays⟩ := List.any_eq_true.mp shown
  have some : (text.reverse.dropWhile isSpace).isEmpty = false := by
    rw [List.isEmpty_eq_false_iff]
    intro none
    rw [List.dropWhile_eq_nil_iff] at none
    simp [none c (List.mem_reverse.mpr member)] at stays
  rw [dropTrailing, dropTrailing, List.reverse_append, List.dropWhile_append, some, if_neg (by simp),
    List.reverse_append, List.reverse_reverse]

theorem dropTrailing_append_blank {blanks : List Char} (blank : ∀ c ∈ blanks, isSpace c = true) (text : List Char) :
    dropTrailing isSpace (text ++ blanks) = dropTrailing isSpace text := by
  rw [dropTrailing, dropTrailing, List.reverse_append,
    List.dropWhile_append_of_pos fun c member => blank c (List.mem_reverse.mp member)]

theorem trim_blank {blanks : List Char} (blank : ∀ c ∈ blanks, isSpace c = true) : trim blanks = [] := by
  rw [trim, List.dropWhile_eq_nil_iff.mpr blank]
  rfl

theorem trim_blank_append {blanks : List Char} (blank : ∀ c ∈ blanks, isSpace c = true) (text : List Char) :
    trim (blanks ++ text) = trim text := by
  rw [trim, trim, List.dropWhile_append_of_pos blank]

theorem trim_append_blank {blanks : List Char} (blank : ∀ c ∈ blanks, isSpace c = true) (text : List Char) :
    trim (text ++ blanks) = trim text := by
  rw [trim, trim, List.dropWhile_append]
  split
  next none =>
    rw [List.isEmpty_iff.mp none, List.dropWhile_eq_nil_iff.mpr blank]
  next => exact dropTrailing_append_blank blank _

/-- White space that nothing is dropped from. -/
theorem trailing_append_blank {blanks : List Char} (blank : ∀ c ∈ blanks, isSpace c = true) (text : List Char) :
    trailing (text ++ blanks) = trailing text ++ blanks := by
  rw [trailing, trailing, List.reverse_append,
    List.takeWhile_append_of_pos fun c member => blank c (List.mem_reverse.mp member), List.reverse_append,
    List.reverse_reverse]

theorem trailing_append_of_any {text : List Char} (shown : text.any (!isSpace ·)) (before : List Char) :
    trailing (before ++ text) = trailing text := by
  have whole := dropTrailing_append_trailing (before ++ text)
  have later := dropTrailing_append_trailing text
  rw [dropTrailing_append_of_any shown, List.append_assoc] at whole
  exact List.append_cancel_left (List.append_cancel_left (whole.trans (by rw [later])))

theorem any_of_isBlank {text : String} (shown : text.isBlank = false) : text.toList.any (!isSpace ·) = true := by
  rw [← List.not_all_eq_any_not, ← String.isBlank, shown]
  rfl

private theorem any_of_blank {blanks : List Char} (blank : ∀ c ∈ blanks, isSpace c = true) :
    blanks.any (!isSpace ·) = false := by
  simpa using blank

private theorem any_dropWhile {text : List Char} (shown : text.any (!isSpace ·)) :
    (text.dropWhile isSpace).any (!isSpace ·) := by
  rwa [← leading_append_dropWhile text, List.any_append, any_of_blank fun _ => isSpace_of_mem_leading,
    Bool.false_or] at shown

theorem any_dropTrailing {text : List Char} (shown : text.any (!isSpace ·)) :
    (dropTrailing isSpace text).any (!isSpace ·) := by
  rwa [← dropTrailing_append_trailing text, List.any_append, any_of_blank fun _ => isSpace_of_mem_trailing,
    Bool.or_false] at shown

theorem any_trim {text : List Char} (shown : text.any (!isSpace ·)) : (trim text).any (!isSpace ·) :=
  any_dropTrailing (any_dropWhile shown)

/-- A trimmed text begins with what is no white space. -/
theorem trim_eq_cons {text : List Char} (shown : text.any (!isSpace ·)) :
    ∃ c rest, isSpace c = false ∧ trim text = c :: rest := by
  cases found : trim text with
  | nil =>
    have inside := any_trim shown
    rw [found] at inside
    exact absurd inside Bool.false_ne_true
  | cons c rest =>
    have first := List.head?_dropWhile_not isSpace text
    rw [← dropTrailing_append_trailing (text.dropWhile isSpace), ← trim, found] at first
    exact ⟨c, rest, by simpa using first, rfl⟩

theorem dropTrailing_trim (text : List Char) : dropTrailing isSpace (trim text) = trim text := by
  rw [trim, dropTrailing, dropTrailing, List.reverse_reverse, List.dropWhile_idempotent]

theorem dropWhile_trim_append {text : List Char} (shown : text.any (!isSpace ·)) (behind : List Char) :
    (trim text ++ behind).dropWhile isSpace = trim text ++ behind := by
  obtain ⟨c, rest, stays, whole⟩ := trim_eq_cons shown
  rw [whole]
  exact List.dropWhile_cons_of_neg (by simp [stays])

/-- The ends of a text may be trimmed in either order. -/
theorem dropWhile_dropTrailing {text : List Char} (shown : text.any (!isSpace ·)) :
    (dropTrailing isSpace text).dropWhile isSpace = trim text := by
  conv => lhs; rw [← leading_append_dropWhile text, dropTrailing_append_of_any (any_dropWhile shown), ← trim]
  rw [List.dropWhile_append_of_pos fun _ => isSpace_of_mem_leading, ← List.append_nil (trim text),
    dropWhile_trim_append shown]

/-- Trimming two texts that show something keeps the white space between them. -/
theorem trim_append_of_any {first second : List Char} (one : first.any (!isSpace ·)) (two : second.any (!isSpace ·)) :
    trim (first ++ second) = trim first ++ (trailing first ++ leading second) ++ trim second := by
  have some : (first.dropWhile isSpace).isEmpty = false := by
    rw [List.isEmpty_eq_false_iff]
    intro none
    have shown := any_dropWhile one
    rw [none] at shown
    exact Bool.false_ne_true shown
  have start : first.dropWhile isSpace = trim first ++ trailing first := by
    have same := trailing_append_of_any (any_dropWhile one) (leading first)
    rw [leading_append_dropWhile] at same
    rw [same, trim, dropTrailing_append_trailing]
  have finish : dropTrailing isSpace second = leading second ++ trim second := by
    rw [trim, ← dropTrailing_append_of_any (any_dropWhile two), leading_append_dropWhile]
  rw [trim, List.dropWhile_append, some, if_neg Bool.false_ne_true, dropTrailing_append_of_any two, start, finish]
  simp only [List.append_assoc]

theorem leading_trim_trailing (text : List Char) :
    leading text ++ trim text ++ trailing (text.dropWhile isSpace) = text := by
  rw [trim, List.append_assoc, dropTrailing_append_trailing, leading_append_dropWhile]

theorem trim_infix_self (text : List Char) : trim text <:+: text :=
  ⟨_, _, leading_trim_trailing text⟩

/-- What a part of a text shows, the text shows when it is trimmed. -/
theorem trim_infix_trim {part text : List Char} (inside : part <:+: text) : trim part <:+: trim text := by
  have front (first second : List Char) : trim first <:+: trim (first ++ second) := by
    by_cases blank : ∀ c ∈ second, isSpace c = true
    · simp only [trim_append_blank blank, List.infix_rfl]
    · by_cases none : ∀ c ∈ first, isSpace c = true
      · exact trim_blank none ▸ List.nil_infix
      · rw [trim_append_of_any (by simpa using none) (by simpa using blank), List.append_assoc]
        exact (List.prefix_append _ _).isInfix
  have back (first second : List Char) : trim second <:+: trim (first ++ second) := by
    by_cases blank : ∀ c ∈ first, isSpace c = true
    · simp only [trim_blank_append blank, List.infix_rfl]
    · by_cases none : ∀ c ∈ second, isSpace c = true
      · exact trim_blank none ▸ List.nil_infix
      · rw [trim_append_of_any (by simpa using blank) (by simpa using none)]
        exact (List.suffix_append _ _).isInfix
  obtain ⟨before, after, rfl⟩ := inside
  exact (back before part).trans (front (before ++ part) after)

theorem trim_trim (text : List Char) : trim (trim text) = trim text := by
  by_cases blank : ∀ c ∈ text, isSpace c = true
  · rw [trim_blank blank]
    rfl
  · have same := dropWhile_trim_append (by simpa using blank : text.any (!isSpace ·) = true) []
    rw [List.append_nil] at same
    conv => lhs; rw [trim, same, dropTrailing_trim]

end trim

section split

variable {separator : Char}

theorem splitOnChar_ne_nil (text : List Char) : splitOnChar separator text ≠ [] := by
  cases text with
  | nil => simp [splitOnChar]
  | cons c rest =>
    rw [splitOnChar]
    split
    · simp
    · split <;> simp

private theorem splitOnChar_cons_of_ne {c : Char} (other : c ≠ separator) (text : List Char) :
    ∃ piece later, splitOnChar separator text = piece :: later ∧
      splitOnChar separator (c :: text) = (c :: piece) :: later := by
  have some : splitOnChar separator text ≠ [] := splitOnChar_ne_nil text
  obtain ⟨piece, later, same⟩ := List.exists_cons_of_ne_nil some
  refine ⟨piece, later, same, ?_⟩
  rw [splitOnChar, if_neg other, same]

theorem splitOnChar_append_separator (before after : List Char) :
    splitOnChar separator (before ++ separator :: after) =
      splitOnChar separator before ++ splitOnChar separator after := by
  induction before with
  | nil => simp [splitOnChar]
  | cons c before ih =>
    rw [List.cons_append]
    by_cases same : c = separator
    · rw [splitOnChar, if_pos same, splitOnChar, if_pos same, ih, List.cons_append]
    · obtain ⟨piece, later, first, whole⟩ := splitOnChar_cons_of_ne same before
      obtain ⟨longer, others, second, wider⟩ := splitOnChar_cons_of_ne same (before ++ separator :: after)
      rw [ih, first, List.cons_append] at second
      obtain ⟨rfl, rfl⟩ := List.cons.inj second
      rw [wider, whole, List.cons_append]

private theorem splitOnChar_concat_of_ne {c : Char} (other : c ≠ separator) (text : List Char) :
    ∃ earlier piece, splitOnChar separator text = earlier ++ [piece] ∧
      splitOnChar separator (text ++ [c]) = earlier ++ [piece ++ [c]] := by
  induction text with
  | nil => exact ⟨[], [], rfl, by simp [splitOnChar, other]⟩
  | cons d text ih =>
    obtain ⟨earlier, piece, same, longer⟩ := ih
    by_cases parts : d = separator
    · refine ⟨[] :: earlier, piece, ?_, ?_⟩
      · rw [splitOnChar, if_pos parts, same, List.cons_append]
      · rw [List.cons_append, splitOnChar, if_pos parts, longer, List.cons_append]
    · cases earlier with
      | nil =>
        refine ⟨[], d :: piece, ?_, ?_⟩
        · rw [splitOnChar, if_neg parts, same]
          rfl
        · rw [List.cons_append, splitOnChar, if_neg parts, longer]
          rfl
      | cons first earlier =>
        refine ⟨(d :: first) :: earlier, piece, ?_, ?_⟩
        · rw [splitOnChar, if_neg parts, same]
          rfl
        · rw [List.cons_append, splitOnChar, if_neg parts, longer]
          rfl

end split

section lines

/-- A line without the carriage return that ends it. -/
def dropReturn (line : List Char) : List Char :=
  if line.getLast? = some '\r' then line.dropLast else line

theorem lines_eq (text : List Char) :
    ∃ earlier last, splitOnChar '\n' text = earlier ++ [last] ∧
      lines text = earlier.map dropReturn ++ [last].filter (· ≠ []) := by
  rcases List.eq_nil_or_concat (splitOnChar '\n' text) with none | ⟨earlier, last, whole⟩
  · exact absurd none (splitOnChar_ne_nil text)
  · rw [List.concat_eq_append] at whole
    refine ⟨earlier, last, whole, ?_⟩
    rw [lines, whole, List.dropLast_concat, List.getLast?_concat]
    rfl

end lines

section shown

/-- The lines of some that show anything, trimmed. -/
def shownOf (lines : List (List Char)) : List (List Char) :=
  (lines.filter fun line => !line.all isSpace).map trim

def shownLines (text : List Char) : List (List Char) :=
  shownOf (lines text)

private theorem shownOf_append (first second : List (List Char)) :
    shownOf (first ++ second) = shownOf first ++ shownOf second := by
  rw [shownOf, List.filter_append, List.map_append]
  rfl

private theorem shownOf_blank {line : List Char} (blank : line.all isSpace = true) : shownOf [line] = [] := by
  simp [shownOf, blank]

/-- Lines that differ in the white space around them are shown alike. -/
theorem shownOf_congr {line other : List Char} (blank : line.all isSpace = other.all isSpace)
    (same : trim line = trim other) : shownOf [line] = shownOf [other] := by
  cases shows : other.all isSpace with
  | true => rw [shownOf_blank shows, shownOf_blank (blank.trans shows)]
  | false => simp [shownOf, shows, blank.trans shows, same]

private theorem shownOf_dropReturn (lines : List (List Char)) :
    shownOf (lines.map dropReturn) = shownOf lines := by
  induction lines with
  | nil => rfl
  | cons line lines ih =>
    rw [List.map_cons, ← List.singleton_append, shownOf_append, ih, ← List.singleton_append (l := lines), shownOf_append]
    congr 1
    unfold dropReturn
    split
    next last =>
      obtain ⟨before, rfl⟩ := List.getLast?_eq_some_iff.mp last
      rw [List.dropLast_concat]
      exact shownOf_congr (by simp [isSpace]) (trim_append_blank (by simp [isSpace]) before).symm
    next => rfl

/-- Line endings and an empty last line show nothing. -/
theorem shownLines_eq (text : List Char) : shownLines text = shownOf (splitOnChar '\n' text) := by
  obtain ⟨earlier, last, whole, same⟩ := lines_eq text
  rw [shownLines, same, whole, shownOf_append, shownOf_append, shownOf_dropReturn]
  congr 1
  by_cases empty : last = []
  · subst empty
    rfl
  · simp [empty]

theorem shownLines_newline (before after : List Char) :
    shownLines (before ++ '\n' :: after) = shownLines before ++ shownLines after := by
  rw [shownLines_eq, shownLines_eq, shownLines_eq, splitOnChar_append_separator, shownOf_append]

theorem shownLines_append_blank {blanks : List Char} (blank : ∀ c ∈ blanks, isSpace c = true) (text : List Char) :
    shownLines (text ++ blanks) = shownLines text := by
  induction blanks using List.reverseRecOn with
  | nil => rw [List.append_nil]
  | append_singleton blanks c ih =>
    rw [List.forall_mem_append] at blank
    have space : isSpace c = true := blank.2 c (by simp)
    rw [← ih blank.1, ← List.append_assoc]
    by_cases line : c = '\n'
    · rw [line, shownLines_newline]
      exact List.append_nil _
    · obtain ⟨earlier, piece, same, longer⟩ := splitOnChar_concat_of_ne line (text ++ blanks)
      rw [shownLines_eq, shownLines_eq, same, longer, shownOf_append, shownOf_append]
      congr 1
      exact shownOf_congr (by simp [space]) (trim_append_blank (List.forall_mem_singleton.mpr space) piece)

theorem shownLines_blank_append {blanks : List Char} (blank : ∀ c ∈ blanks, isSpace c = true) (text : List Char) :
    shownLines (blanks ++ text) = shownLines text := by
  induction blanks with
  | nil => rfl
  | cons c blanks ih =>
    rw [List.forall_mem_cons] at blank
    rw [← ih blank.2, List.cons_append]
    by_cases line : c = '\n'
    · rw [line]
      exact shownLines_newline [] (blanks ++ text)
    · obtain ⟨piece, later, same, longer⟩ := splitOnChar_cons_of_ne line (blanks ++ text)
      rw [shownLines_eq, shownLines_eq, same, longer, ← List.singleton_append, shownOf_append,
        ← List.singleton_append (l := later), shownOf_append]
      congr 1
      have space : ∀ d ∈ [c], isSpace d = true := List.forall_mem_singleton.mpr blank.1
      exact shownOf_congr (by simp [blank.1]) (trim_blank_append space piece)

end shown

end Vitae.Text
