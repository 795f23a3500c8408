import Vitae.Markup.Idiom

/-!
Comments and preamble, the parts of markup that carry no content. A comment runs from an unescaped `%`
to the end of its line. The preamble runs from the document class to the opening of the document;
declarations and document boundaries that remain elsewhere are removed one by one.
-/

namespace Vitae.Markup

/-- Where the removal of comments stands in a line. -/
inductive Place where
  | content (escaped : Bool)
  | comment

def withoutComments : Place → List Char → List Char
  | _, [] => []
  | _, '\n' :: rest => '\n' :: withoutComments (.content false) rest
  | .comment, _ :: rest => withoutComments .comment rest
  | .content escaped, c :: rest =>
    if c = '%' ∧ ¬escaped then withoutComments .comment rest
    else c :: withoutComments (.content (escapes escaped c)) rest

def classWord : List Char := "\\documentclass".toList

def packageWord : List Char := "\\usepackage".toList

def colorWord : List Char := "\\definecolor".toList

def beginWord : List Char := "\\begin".toList

def endWord : List Char := "\\end".toList

def braces? (text : List Char) : Option (List Char) :=
  enclosed? '{' '}' (dropBlanks text)

def declaration? (text : List Char) : Option (List Char) := do
  let afterWord ← expect? classWord text <|> expect? packageWord text
  let options := dropBlanks afterWord
  braces? ((enclosed? '[' ']' options).getD options)

def colorDefinition? (text : List Char) : Option (List Char) := do
  braces? (← braces? (← braces? (← expect? colorWord text)))

def documentName? (text : List Char) : Option (List Char) :=
  expect? "\x7bdocument\x7d".toList (dropBlanks text)

def documentBoundary? (text : List Char) : Option (List Char) := do
  documentName? (← expect? beginWord text <|> expect? endWord text)

/-- The text after the first opening of the document. -/
def afterOpening? : List Char → Option (List Char)
  | [] => none
  | c :: rest => (expect? beginWord (c :: rest) >>= documentName?) <|> afterOpening? rest

def preamble? (text : List Char) : Option (List Char) := do
  afterOpening? (← expect? classWord text)

theorem length_braces? {text after : List Char} (found : braces? text = some after) :
    after.length < text.length :=
  Nat.lt_of_lt_of_le (length_enclosed? found) (length_dropBlanks_le text)

theorem length_documentName? {text after : List Char} (found : documentName? text = some after) :
    after.length < text.length := by
  have shorter := length_expect? found
  have blanks := length_dropBlanks_le text
  have name : "\x7bdocument\x7d".toList.length = 10 := rfl
  omega

private theorem length_eitherWord {first second text after : List Char}
    (found : (expect? first text <|> expect? second text) = some after) : after.length ≤ text.length := by
  cases same : expect? first text with
  | none =>
    simp only [same, Option.orElse_eq_orElse, Option.orElse_none] at found
    have := length_expect? found
    omega
  | some rest =>
    simp only [same, Option.orElse_eq_orElse, Option.orElse_some, Option.some.injEq] at found
    subst found
    have := length_expect? same
    omega

def declaration : Idiom where
  after? := declaration?
  shrinks := by
    intro text after found
    simp only [declaration?, Option.bind_eq_bind, Option.bind_eq_some_iff] at found
    obtain ⟨afterWord, word, found⟩ := found
    have whole := length_eitherWord word
    have blanks := length_dropBlanks_le afterWord
    have last := length_braces? found
    cases options : enclosed? '[' ']' (dropBlanks afterWord) with
    | none =>
      simp only [options, Option.getD_none] at last
      omega
    | some rest =>
      have inner := length_enclosed? options
      simp only [options, Option.getD_some] at last
      omega

def colorDefinition : Idiom where
  after? := colorDefinition?
  shrinks := by
    intro text after found
    simp only [colorDefinition?, Option.bind_eq_bind, Option.bind_eq_some_iff] at found
    obtain ⟨first, word, second, name, third, model, value⟩ := found
    have := length_expect? word
    have := length_braces? name
    have := length_braces? model
    have := length_braces? value
    omega

def documentBoundary : Idiom where
  after? := documentBoundary?
  shrinks := by
    intro text after found
    simp only [documentBoundary?, Option.bind_eq_bind, Option.bind_eq_some_iff] at found
    obtain ⟨afterWord, word, name⟩ := found
    have := length_eitherWord word
    have := length_documentName? name
    omega

/-- Removes the first preamble whose document class is not escaped. -/
def withoutPreamble (escaped : Bool) : List Char → List Char
  | [] => []
  | c :: rest =>
    match if escaped then none else preamble? (c :: rest) with
    | some after => after
    | none => c :: withoutPreamble (escapes escaped c) rest

/-- What is removed wherever it is not escaped, in this order. -/
def declarations : List Idiom :=
  [declaration, colorDefinition, documentBoundary]

def body (text : List Char) : List Char :=
  declarations.foldl (fun text idiom => settled (idiom.erase false) text) (withoutPreamble false text)

end Vitae.Markup
