import Vitae.Text.CaseTable

/-!
Upper and lower case by the Unicode mappings, where one character may become several. Lower case knows
one rule of context: a capital sigma that ends a word becomes the final form.
-/

namespace Vitae.Text

def CaseRun.image? (run : CaseRun) (code : Nat) : Option Nat :=
  if run.first ≤ code ∧ code ≤ run.last ∧ (code - run.first) % run.step = 0 then
    some (code - run.first + run.image)
  else none

def inRanges (ranges : List (Nat × Nat)) (c : Char) : Bool :=
  ranges.any fun range => range.1 ≤ c.toNat && c.toNat ≤ range.2

def mapped (runs : List CaseRun) (strings : List (Nat × List Nat)) (c : Char) : List Char :=
  match strings.lookup c.toNat with
  | some image => image.map Char.ofNat
  | none => [((runs.findSome? (·.image? c.toNat)).map Char.ofNat).getD c]

def upperChar (c : Char) : List Char :=
  if c < '\u0080' then [c.toUpper] else mapped CaseTable.upperRuns CaseTable.upperStrings c

def lowerChar (c : Char) : List Char :=
  if c < '\u0080' then [c.toLower] else mapped CaseTable.lowerRuns CaseTable.lowerStrings c

/-- Holds where the first character that is not case-ignorable is cased. -/
def reachesCased (characters : List Char) : Bool :=
  ((characters.dropWhile (inRanges CaseTable.caseIgnorable)).head?.map (inRanges CaseTable.cased)).getD false

def upper (characters : List Char) : List Char :=
  characters.flatMap upperChar

/-- Lower case of a text whose preceding characters are `before`, nearest first. -/
def lowerAfter (before : List Char) : List Char → List Char
  | [] => []
  | 'Σ' :: rest =>
    (if reachesCased before && !reachesCased rest then 'ς' else 'σ') :: lowerAfter ('Σ' :: before) rest
  | c :: rest => lowerChar c ++ lowerAfter (c :: before) rest

def lower (characters : List Char) : List Char :=
  lowerAfter [] characters

end Vitae.Text

namespace String

def inUpperCase (text : String) : String :=
  .ofList (Vitae.Text.upper text.toList)

def inLowerCase (text : String) : String :=
  .ofList (Vitae.Text.lower text.toList)

end String
