/-!
White space in the two senses a resume needs, the Unicode property and the five ASCII characters, with
trimming and splitting into words. Everything works on lists of characters; the functions on `String`
only unpack and repack.
-/

namespace Vitae.Text

/-- Holds for the characters with the Unicode property White_Space. -/
def isSpace (c : Char) : Bool :=
  ('\t' ≤ c && c ≤ '\r') || c == ' ' || c == '\u0085' || c == '\u00A0' || c == '\u1680' ||
    ('\u2000' ≤ c && c ≤ '\u200A') || c == '\u2028' || c == '\u2029' || c == '\u202F' || c == '\u205F' ||
    c == '\u3000'

/-- Holds for tab, line feed, form feed, carriage return and space. -/
def isAsciiSpace (c : Char) : Bool :=
  c == ' ' || c == '\t' || c == '\n' || c == '\x0c' || c == '\r'

/-- Holds for space and tab, the blanks that stay on a line. -/
def isInlineSpace (c : Char) : Bool :=
  c == ' ' || c == '\t'

def dropTrailing (drops : Char → Bool) (characters : List Char) : List Char :=
  (characters.reverse.dropWhile drops).reverse

theorem dropTrailing_cons (drops : Char → Bool) (c : Char) (text : List Char) :
    dropTrailing drops (c :: text) =
      if drops c = true ∧ dropTrailing drops text = [] then [] else c :: dropTrailing drops text := by
  rw [dropTrailing, List.reverse_cons, List.dropWhile_append]
  cases same : text.reverse.dropWhile drops with
  | nil => cases dropped : drops c <;> simp [dropTrailing, same, dropped]
  | cons d rest => simp [dropTrailing, same]

def trim (characters : List Char) : List Char :=
  dropTrailing isSpace (characters.dropWhile isSpace)

/-- The maximal runs of characters that do not separate. -/
def words (separates : Char → Bool) : List Char → List (List Char)
  | [] => []
  | c :: rest =>
    if separates c then words separates rest
    else match rest, words separates rest with
      | d :: _, word :: later => if separates d then [c] :: word :: later else (c :: word) :: later
      | _, later => [c] :: later

/-- Each maximal run of ASCII white space becomes one space; `inside` tells that a run has begun. -/
def collapseSpaces (inside : Bool) : List Char → List Char
  | [] => []
  | c :: rest =>
    if isAsciiSpace c then
      if inside then collapseSpaces true rest else ' ' :: collapseSpaces true rest
    else c :: collapseSpaces false rest

/-- The pieces between the occurrences of a character. -/
def splitOnChar (separator : Char) : List Char → List (List Char)
  | [] => [[]]
  | c :: rest =>
    if c = separator then [] :: splitOnChar separator rest
    else match splitOnChar separator rest with
      | [] => [[c]]
      | piece :: later => (c :: piece) :: later

/-- The lines of a text: a line feed ends a line, a carriage return before it goes too, and an empty
last line is none. -/
def lines (characters : List Char) : List (List Char) :=
  let pieces := splitOnChar '\n' characters
  let dropReturn : List Char → List Char := fun line =>
    if line.getLast? = some '\r' then line.dropLast else line
  pieces.dropLast.map dropReturn ++ pieces.getLast?.toList.filter (· ≠ [])

end Vitae.Text

namespace String

def trimmed (text : String) : String :=
  .ofList (Vitae.Text.trim text.toList)

theorem toList_trimmed (text : String) : text.trimmed.toList = Vitae.Text.trim text.toList :=
  toList_ofList

/-- Holds for a text of white space only. -/
def isBlank (text : String) : Bool :=
  text.toList.all Vitae.Text.isSpace

end String
