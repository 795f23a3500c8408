import Vitae.Render.Html

/-! The grammar of rendered HTML: character data, line breaks and elements that are closed where they were
opened, each with a name and attributes of its own. It survives joining and trimming. -/

namespace Vitae.Html

open Render

/-- The characters that never stand for themselves. -/
def isSpecial (c : Char) : Bool :=
  c == '<' || c == '>' || c == '&' || c == '"' || c == '\x27'

def entityNames : List String :=
  ["amp", "lt", "gt", "quot", "#39"]

def entity (name : String) : List Char :=
  '&' :: name.toList ++ [';']

/-- The value of an attribute. -/
inductive Data : List Char → Prop
  | nil : Data []
  | character {c rest} (plain : isSpecial c = false) (tail : Data rest) : Data (c :: rest)
  | entity {name rest} (known : name ∈ entityNames) (tail : Data rest) : Data (entity name ++ rest)

def bareElements : List String :=
  ["p", "li", "strong", "em", "u"]

def classedElements : List (String × String) :=
  [("header", "center-text"), ("h1", "name small-caps"), ("h2", "section-title"), ("section", "resume-section"),
   ("div", "contacts"), ("div", "resume-group"), ("div", "resume-entry"), ("div", "entry-header"),
   ("div", "entry-details"), ("div", "center-grid"), ("div", "minipage-col"), ("div", "center-text"),
   ("ul", "resume-list"), ("ul", "resume-list no-bullet"), ("span", "pipe"), ("span", "small-caps"),
   ("span", "accent"), ("span", "entry-arg1"), ("span", "entry-arg2"), ("span", "entry-arg3"), ("span", "entry-arg4")]

/-- The attributes that an element of the name may have, as they stand in its tag. -/
inductive Attributes : (name : String) → List Char → Prop
  | bare {name} (own : name ∈ bareElements) : Attributes name []
  | classed {name style} (own : (name, style) ∈ classedElements) :
      Attributes name (" class=\"".toList ++ style.toList ++ ['"'])
  | target {value} (data : Data value) : Attributes "a" (" href=\"".toList ++ value ++ ['"'])

def openingTag (name : String) (attributes : List Char) : List Char :=
  '<' :: name.toList ++ attributes ++ ['>']

def closingTag (name : String) : List Char :=
  '<' :: '/' :: name.toList ++ ['>']

inductive WellFormed : List Char → Prop
  | nil : WellFormed []
  | character {c rest} (plain : isSpecial c = false) (tail : WellFormed rest) : WellFormed (c :: rest)
  | entity {name rest} (known : name ∈ entityNames) (tail : WellFormed rest) : WellFormed (entity name ++ rest)
  | lineBreak {rest} (tail : WellFormed rest) : WellFormed ("<br/>".toList ++ rest)
  | element {name attributes inner rest} (own : Attributes name attributes) (inside : WellFormed inner)
      (tail : WellFormed rest) : WellFormed (openingTag name attributes ++ inner ++ closingTag name ++ rest)

theorem WellFormed.append {first second : List Char} (one : WellFormed first) (two : WellFormed second) :
    WellFormed (first ++ second) := by
  induction one with
  | nil => exact two
  | character plain _ ih => exact .character plain ih
  | entity known _ ih =>
    rw [List.append_assoc]
    exact .entity known ih
  | lineBreak _ ih =>
    rw [List.append_assoc]
    exact .lineBreak ih
  | element own inside _ _ ih =>
    rw [List.append_assoc]
    exact .element own inside ih

theorem Data.wellFormed {text : List Char} (data : Data text) : WellFormed text := by
  induction data with
  | nil => exact .nil
  | character plain _ ih => exact .character plain ih
  | entity known _ ih => exact .entity known ih

section trimming

theorem WellFormed.dropSpaces {text : List Char} (wellFormed : WellFormed text) :
    WellFormed (text.dropWhile Text.isSpace) := by
  induction wellFormed with
  | nil => exact .nil
  | @character c rest plain tail ih =>
    by_cases space : Text.isSpace c
    · rwa [List.dropWhile_cons_of_pos space]
    · rw [List.dropWhile_cons_of_neg space]
      exact .character plain tail
  | entity known tail => exact .entity known tail
  | lineBreak tail => exact .lineBreak tail
  | element own inside tail => exact .element own inside tail

/-- Trailing characters are dropped behind the last one that stays. -/
theorem dropTrailing_append {drops : Char → Bool} {c : Char} (stays : drops c = false) (before rest : List Char) :
    Text.dropTrailing drops (before ++ [c] ++ rest) = before ++ [c] ++ Text.dropTrailing drops rest := by
  have whole : (before ++ [c] ++ rest).reverse = rest.reverse ++ c :: before.reverse := by simp
  rw [Text.dropTrailing, Text.dropTrailing, whole, List.dropWhile_append]
  split
  next none =>
    rw [List.dropWhile_cons_of_neg (by simp [stays])]
    simp [List.isEmpty_iff.mp none]
  next => simp

theorem WellFormed.dropTrailing {text : List Char} (wellFormed : WellFormed text) :
    WellFormed (Text.dropTrailing Text.isSpace text) := by
  induction wellFormed with
  | nil => exact .nil
  | character plain _ ih =>
    rw [Text.dropTrailing_cons]
    split
    · exact .nil
    · exact .character plain ih
  | @entity name rest known tail ih =>
    have whole := dropTrailing_append (show Text.isSpace ';' = false by decide) ('&' :: name.toList) rest
    exact whole ▸ .entity known ih
  | @lineBreak rest tail ih =>
    have whole := dropTrailing_append (show Text.isSpace '>' = false by decide) "<br/".toList rest
    exact whole ▸ .lineBreak ih
  | @element name attributes inner rest own inside tail _ ih =>
    have split : openingTag name attributes ++ inner ++ closingTag name =
        (openingTag name attributes ++ inner ++ '<' :: '/' :: name.toList) ++ ['>'] := by
      simp [closingTag]
    have whole := dropTrailing_append (show Text.isSpace '>' = false by decide)
      (openingTag name attributes ++ inner ++ '<' :: '/' :: name.toList) rest
    rw [← split] at whole
    rw [whole]
    exact .element own inside ih

theorem WellFormed.trim {text : List Char} (wellFormed : WellFormed text) : WellFormed (Text.trim text) :=
  wellFormed.dropSpaces.dropTrailing

end trimming

end Vitae.Html
