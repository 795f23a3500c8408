import Vitae.Decimal.Shortest
import Vitae.Failure
import Vitae.Text.Blank

/-!
The print stylesheet of a resume: paper, margin and type can be chosen, the layout rules are fixed.
-/

namespace Vitae

inductive PageSize where
  | letter
  | a4
deriving DecidableEq, Inhabited

namespace PageSize

def name : PageSize → String
  | .letter => "letter"
  | .a4 => "A4"

def width : PageSize → String
  | .letter => "8.5in"
  | .a4 => "210mm"

def height : PageSize → String
  | .letter => "11in"
  | .a4 => "297mm"

end PageSize

/-- An option as it is compared: trimmed, ASCII letters in lower case. -/
def optionKey (text : String) : String :=
  text.trimmed.map Char.toLower

def PageSize.ofText (text : String) : Except Failure PageSize :=
  match optionKey text with
  | "letter" | "us-letter" => .ok .letter
  | "a4" => .ok .a4
  | other => .error (.unknownPageSize other)

structure Stylesheet where
  pageSize : PageSize := .letter
  /-- In inches. -/
  margin : Float32 := 0.5
  fontFamily : String := "'Lato', sans-serif"
  /-- In points. -/
  fontSize : Float32 := 11
  /-- Links have the color of the text where none is set. -/
  linkColor : Option String := none

namespace Stylesheet

/-- The bound itself stands for what is not above it. -/
def atLeast (bound value : Float32) : Float32 :=
  if bound < value then value else bound

def withMargin (sheet : Stylesheet) (inches : Float32) : Stylesheet :=
  { sheet with margin := atLeast 0 inches }

def withFontSize (sheet : Stylesheet) (points : Float32) : Stylesheet :=
  { sheet with fontSize := atLeast 1 points }

/-- A selector with its properties in order. -/
structure Rule where
  selector : String
  properties : List (String × String)

def Rule.text (rule : Rule) : String :=
  rule.selector ++ " \x7b " ++
    String.join (rule.properties.map fun (name, value) => name ++ ": " ++ value ++ "; ") ++ "\x7d\n"

def pageRules (sheet : Stylesheet) : List Rule :=
  let margin := Decimal.single sheet.margin ++ "in"
  [⟨"@page", [("size", sheet.pageSize.name), ("margin", margin)]⟩,
   ⟨"*", [("box-sizing", "border-box"), ("margin", "0"), ("padding", "0")]⟩,
   ⟨"body",
    [("font-family", sheet.fontFamily), ("font-size", Decimal.single sheet.fontSize ++ "pt"),
     ("line-height", "1.4"), ("color", "#000"), ("background", "white"), ("padding", margin),
     ("width", sheet.pageSize.width), ("min-height", sheet.pageSize.height),
     ("-webkit-print-color-adjust", "exact"), ("print-color-adjust", "exact")]⟩,
   ⟨"a", [("color", sheet.linkColor.getD "inherit"), ("text-decoration", "none")]⟩]

def layoutRules : List Rule :=
  [⟨".small-caps", [("font-variant", "small-caps")]⟩,
   ⟨".accent", [("color", "#000080")]⟩,
   ⟨"strong", [("font-weight", "700")]⟩,
   ⟨"em", [("font-style", "italic")]⟩,
   ⟨".center-text", [("text-align", "center"), ("width", "100%"), ("margin-bottom", "10px")]⟩,
   ⟨".center-text p", [("margin", "0"), ("line-height", "1.3")]⟩,
   ⟨".name",
    [("font-size", "24pt"), ("margin", "0 0 4pt 0"), ("line-height", "1"), ("text-align", "center"),
     ("font-weight", "bold"), ("font-variant", "small-caps")]⟩,
   ⟨".contacts", [("text-align", "center"), ("margin-bottom", "10px")]⟩,
   ⟨".pipe", [("margin", "0 8px"), ("vertical-align", "middle")]⟩,
   ⟨".center-grid",
    [("width", "100%"), ("display", "flex"), ("flex-wrap", "wrap"), ("justify-content", "space-between"),
     ("gap", "15px"), ("align-items", "flex-start"), ("margin-top", "10px"), ("break-inside", "avoid")]⟩,
   ⟨".minipage-col",
    [("flex", "1"), ("min-width", "30%"), ("text-align", "left"), ("font-size", "10.5pt"),
     ("break-inside", "avoid")]⟩,
   ⟨".section-title",
    [("font-size", "14pt"), ("font-weight", "700"), ("text-transform", "uppercase"),
     ("border-bottom", "1px solid #000"), ("margin", "14pt 0 6pt 0"), ("padding-bottom", "2pt"),
     ("width", "100%"), ("break-after", "avoid")]⟩,
   ⟨".resume-section", [("break-inside", "auto")]⟩,
   ⟨".resume-group", [("break-inside", "avoid")]⟩,
   ⟨".resume-entry", [("margin-bottom", "2pt"), ("break-inside", "avoid")]⟩,
   ⟨".entry-header, .entry-details",
    [("display", "flex"), ("justify-content", "space-between"), ("width", "100%")]⟩,
   ⟨".entry-arg2, .entry-arg3, .entry-arg4", [("font-style", "italic")]⟩,
   ⟨"ul.resume-list", [("margin", "2pt 0 8pt 0"), ("padding-left", "18pt"), ("break-inside", "avoid")]⟩,
   ⟨"ul.resume-list li", [("margin-bottom", "2pt"), ("text-align", "left")]⟩,
   ⟨"ul.no-bullet", [("list-style-type", "none"), ("padding-left", "0"), ("margin-left", "0")]⟩,
   ⟨"ul.no-bullet li", [("margin-bottom", "4pt")]⟩]

def printRules : List Rule :=
  [⟨".section-title", [("page-break-after", "avoid")]⟩,
   ⟨".resume-group, .resume-entry, .center-grid, ul.resume-list", [("page-break-inside", "avoid")]⟩]

def toCss (sheet : Stylesheet) : String :=
  String.join ((sheet.pageRules ++ layoutRules).map (·.text)) ++ "@media print \x7b\n" ++
    String.join (printRules.map fun rule => "  " ++ rule.text) ++ "\x7d\n"

end Stylesheet

end Vitae
