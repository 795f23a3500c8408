import Vitae.Proofs.HtmlGrammar

/-! Reading HTML back: without its tags, with every entity read as the character it stands for, and without white
space. In the grammar of rendered HTML no tag and no entity is cut where texts are joined, so what a text shows is
what its parts show, and trimming takes nothing from it. -/

namespace Vitae.Html

/-- The characters outside tags; `inside` holds within a tag. -/
def withoutTags (inside : Bool) : List Char → List Char
  | [] => []
  | c :: rest =>
    if inside then withoutTags (c != '>') rest
    else if c = '<' then withoutTags true rest
    else c :: withoutTags false rest

/-- Every entity becomes the character it stands for. -/
def decoded : List Char → List Char
  | '&' :: 'a' :: 'm' :: 'p' :: ';' :: rest => '&' :: decoded rest
  | '&' :: 'l' :: 't' :: ';' :: rest => '<' :: decoded rest
  | '&' :: 'g' :: 't' :: ';' :: rest => '>' :: decoded rest
  | '&' :: 'q' :: 'u' :: 'o' :: 't' :: ';' :: rest => '"' :: decoded rest
  | '&' :: '#' :: '3' :: '9' :: ';' :: rest => '\x27' :: decoded rest
  | c :: rest => c :: decoded rest
  | [] => []

def withoutSpace (text : List Char) : List Char :=
  text.filter (!Text.isSpace ·)

/-- What HTML shows, white space aside. -/
def shownText (html : List Char) : List Char :=
  withoutSpace (decoded (withoutTags false html))

@[simp] theorem withoutSpace_append (first second : List Char) :
    withoutSpace (first ++ second) = withoutSpace first ++ withoutSpace second :=
  List.filter_append first second

@[simp] theorem shownText_nil : shownText [] = [] :=
  rfl

section tags

theorem withoutTags_cons {c : Char} (noTag : c ≠ '<') (rest : List Char) :
    withoutTags false (c :: rest) = c :: withoutTags false rest := by
  simp [withoutTags, noTag]

private theorem withoutTags_inside {text : List Char} (within : ∀ c ∈ text, c ≠ '>') (rest : List Char) :
    withoutTags true (text ++ '>' :: rest) = withoutTags false rest := by
  induction text with
  | nil => rfl
  | cons c text ih =>
    have other : (c != '>') = true := by simpa using within c (by simp)
    rw [List.cons_append, withoutTags, if_pos rfl, other]
    exact ih fun d member => within d (by simp [member])

/-- The only special characters of data begin its entities. -/
theorem Data.eq_of_isSpecial {value : List Char} (data : Data value) :
    ∀ c ∈ value, isSpecial c = true → c = '&' := by
  induction data with
  | nil => simp
  | @character c rest plain _ ih =>
    rw [List.forall_mem_cons]
    exact ⟨by simp [plain], ih⟩
  | @entity name rest known _ ih =>
    have spelled : ∀ name ∈ entityNames, (Html.entity name).filter isSpecial = ['&'] := by decide
    rw [List.forall_mem_append]
    refine ⟨fun c member special => ?_, ih⟩
    have left : c ∈ (Html.entity name).filter isSpecial := List.mem_filter.mpr ⟨member, special⟩
    rw [spelled name known] at left
    exact List.mem_singleton.mp left

theorem Data.not_mem {value : List Char} (data : Data value) {c : Char} (special : isSpecial c = true)
    (other : c ≠ '&') : c ∉ value :=
  fun member => other (data.eq_of_isSpecial c member special)

theorem Attributes.within {name : String} {attributes : List Char} (own : Attributes name attributes) :
    ∀ c ∈ name.toList ++ attributes, c ≠ '>' := by
  cases own with
  | bare own =>
    have names : ∀ name ∈ bareElements, '>' ∉ name.toList ++ [] := by decide
    rintro c member rfl
    exact names name own member
  | classed own =>
    have names : ∀ own ∈ classedElements, '>' ∉ own.1.toList ++ (" class=\"".toList ++ own.2.toList ++ ['"']) := by
      decide
    rintro c member rfl
    exact names _ own member
  | target data =>
    rintro c member rfl
    simp only [List.mem_append] at member
    rcases member with name | (start | value) | quote
    · exact absurd name (by decide)
    · exact absurd start (by decide)
    · exact data.not_mem (by decide) (by decide) value
    · exact absurd quote (by decide)

private theorem withoutTags_openingTag {name : String} {attributes : List Char} (own : Attributes name attributes)
    (rest : List Char) : withoutTags false (openingTag name attributes ++ rest) = withoutTags false rest := by
  have whole : openingTag name attributes ++ rest = '<' :: (name.toList ++ attributes ++ '>' :: rest) := by
    simp [openingTag]
  rw [whole, withoutTags, if_neg (by simp), if_pos rfl]
  exact withoutTags_inside own.within rest

private theorem withoutTags_closingTag {name : String} {attributes : List Char} (own : Attributes name attributes)
    (rest : List Char) : withoutTags false (closingTag name ++ rest) = withoutTags false rest := by
  have whole : closingTag name ++ rest = '<' :: ('/' :: name.toList ++ '>' :: rest) := by simp [closingTag]
  rw [whole, withoutTags, if_neg (by simp), if_pos rfl]
  refine withoutTags_inside (fun c member => ?_) rest
  rcases List.mem_cons.mp member with rfl | named
  · decide
  · exact own.within c (List.mem_append_left _ named)

theorem withoutTags_entity {name : String} (known : name ∈ entityNames) (rest : List Char) :
    withoutTags false (entity name ++ rest) = entity name ++ withoutTags false rest := by
  simp only [entityNames, List.mem_cons, List.not_mem_nil, or_false] at known
  rcases known with rfl | rfl | rfl | rfl | rfl
  all_goals rfl

/-- No tag reaches out of a text in the grammar. -/
theorem WellFormed.withoutTags_append {text : List Char} (wellFormed : WellFormed text) (rest : List Char) :
    withoutTags false (text ++ rest) = withoutTags false text ++ withoutTags false rest := by
  induction wellFormed generalizing rest with
  | nil => rfl
  | @character c text plain _ ih =>
    have noTag : c ≠ '<' := by
      rintro rfl
      exact absurd plain (by decide)
    rw [List.cons_append, withoutTags_cons noTag, withoutTags_cons noTag, ih, List.cons_append]
  | entity known _ ih =>
    rw [List.append_assoc, withoutTags_entity known, withoutTags_entity known, ih, List.append_assoc]
  | lineBreak _ ih => exact ih rest
  | @element name attributes inner text own _ _ insideIh ih =>
    simp only [List.append_assoc]
    rw [withoutTags_openingTag own, withoutTags_openingTag own, insideIh, insideIh, withoutTags_closingTag own,
      withoutTags_closingTag own, ih, List.append_assoc]

end tags

section entities

theorem decoded_cons {c : Char} (noEntity : c ≠ '&') (rest : List Char) : decoded (c :: rest) = c :: decoded rest := by
  rw [decoded]
  all_goals simp_all

private theorem decoded_entity {name : String} (known : name ∈ entityNames) (rest : List Char) :
    decoded (entity name ++ rest) = decoded (entity name) ++ decoded rest := by
  simp only [entityNames, List.mem_cons, List.not_mem_nil, or_false] at known
  rcases known with rfl | rfl | rfl | rfl | rfl
  all_goals rfl

theorem Data.append {first second : List Char} (one : Data first) (two : Data second) : Data (first ++ second) := by
  induction one with
  | nil => exact two
  | character plain _ ih => exact .character plain ih
  | entity known _ ih =>
    rw [List.append_assoc]
    exact .entity known ih

/-- Between tags there are only characters and whole entities. -/
theorem WellFormed.data_withoutTags {text : List Char} (wellFormed : WellFormed text) :
    Data (withoutTags false text) := by
  induction wellFormed with
  | nil => exact .nil
  | @character c text plain _ ih =>
    have noTag : c ≠ '<' := by
      rintro rfl
      exact absurd plain (by decide)
    rw [withoutTags_cons noTag]
    exact .character plain ih
  | entity known _ ih =>
    rw [withoutTags_entity known]
    exact .entity known ih
  | lineBreak _ ih => exact ih
  | element own inside _ insideIh ih =>
    rw [List.append_assoc, List.append_assoc, withoutTags_openingTag own, inside.withoutTags_append,
      withoutTags_closingTag own]
    exact insideIh.append ih

private theorem Data.decoded_append {text : List Char} (data : Data text) (rest : List Char) :
    decoded (text ++ rest) = decoded text ++ decoded rest := by
  induction data with
  | nil => rfl
  | @character c text plain _ ih =>
    have noEntity : c ≠ '&' := by
      rintro rfl
      exact absurd plain (by decide)
    rw [List.cons_append, decoded_cons noEntity, decoded_cons noEntity, ih, List.cons_append]
  | @entity name text known _ ih =>
    rw [List.append_assoc, decoded_entity known, decoded_entity known text, ih, List.append_assoc]

end entities

section text

theorem shownText_append {first : List Char} (wellFormed : WellFormed first) (second : List Char) :
    shownText (first ++ second) = shownText first ++ shownText second := by
  rw [shownText, wellFormed.withoutTags_append, wellFormed.data_withoutTags.decoded_append, withoutSpace_append]
  rfl

theorem shownText_element {name : String} {attributes inner : List Char} (own : Attributes name attributes)
    (inside : WellFormed inner) :
    shownText (openingTag name attributes ++ inner ++ closingTag name) = shownText inner := by
  have tag : withoutTags false (closingTag name) = [] := by
    have behind := withoutTags_closingTag own []
    rwa [List.append_nil] at behind
  rw [shownText, List.append_assoc, withoutTags_openingTag own, inside.withoutTags_append, tag, List.append_nil]
  rfl

private theorem shownText_cons_space {c : Char} (space : Text.isSpace c = true) (rest : List Char) :
    shownText (c :: rest) = shownText rest := by
  have noTag : c ≠ '<' := by
    rintro rfl
    exact absurd space (by decide)
  have noEntity : c ≠ '&' := by
    rintro rfl
    exact absurd space (by decide)
  rw [shownText, withoutTags_cons noTag, decoded_cons noEntity, withoutSpace,
    List.filter_cons_of_neg (by simp [space])]
  rfl

private theorem shownText_dropSpaces (text : List Char) : shownText (text.dropWhile Text.isSpace) = shownText text := by
  induction text with
  | nil => rfl
  | cons c text ih =>
    by_cases space : Text.isSpace c
    · rw [List.dropWhile_cons_of_pos space, ih, shownText_cons_space space]
    · rw [List.dropWhile_cons_of_neg space]

theorem shownText_spaces {text : List Char} (spaces : ∀ c ∈ text, Text.isSpace c = true) : shownText text = [] := by
  induction text with
  | nil => rfl
  | cons c text ih =>
    rw [shownText_cons_space (spaces c (by simp))]
    exact ih fun d member => spaces d (by simp [member])

/-- White space at the end of a text in the grammar stands outside its tags. -/
theorem shownText_dropTrailing {text : List Char} (wellFormed : WellFormed text) :
    shownText (Text.dropTrailing Text.isSpace text) = shownText text := by
  have split : text = Text.dropTrailing Text.isSpace text ++ (text.reverse.takeWhile Text.isSpace).reverse := by
    rw [Text.dropTrailing, ← List.reverse_append, List.takeWhile_append_dropWhile, List.reverse_reverse]
  have spaces : shownText (text.reverse.takeWhile Text.isSpace).reverse = [] :=
    shownText_spaces fun c member => List.all_eq_true.mp List.all_takeWhile c (List.mem_reverse.mp member)
  calc
    shownText (Text.dropTrailing Text.isSpace text)
      = shownText (Text.dropTrailing Text.isSpace text) ++ shownText (text.reverse.takeWhile Text.isSpace).reverse := by
        rw [spaces, List.append_nil]
    _ = shownText (Text.dropTrailing Text.isSpace text ++ (text.reverse.takeWhile Text.isSpace).reverse) :=
        (shownText_append wellFormed.dropTrailing _).symm
    _ = shownText text := by rw [← split]

theorem shownText_trim {text : List Char} (wellFormed : WellFormed text) : shownText (Text.trim text) = shownText text := by
  rw [Text.trim, shownText_dropTrailing wellFormed.dropSpaces, shownText_dropSpaces]

end text

end Vitae.Html
