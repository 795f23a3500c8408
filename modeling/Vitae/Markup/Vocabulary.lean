import Vitae.Content.Node
import Vitae.Text.Blank

/-!
The commands that markup gives a meaning to, and what each means.
-/

namespace Vitae.Markup

/-- The style of a command that styles its one argument. -/
def styleCommand? (name : String) : Option SpanStyle :=
  [("textbf", .bold), ("textit", .italic), ("emph", .italic), ("textsl", .italic), ("underline", .underline),
   ("textsc", .smallCaps)].lookup name

/-- The style of a command that styles the rest of its group. -/
def styleDeclaration? (name : String) : Option SpanStyle :=
  [("bfseries", .bold), ("itshape", .italic), ("em", .italic), ("slshape", .italic),
   ("scshape", .smallCaps)].lookup name

/-- Sizes large enough for the name banner. -/
def bannerSizes : List String :=
  ["Huge", "huge", "LARGE", "Large"]

def sizes : List String :=
  bannerSizes ++ ["large", "normalsize", "small", "footnotesize", "scriptsize", "tiny"]

/-- Commands without arguments that leave no trace. -/
def silentCommands : List String :=
  ["hfill", "centering", "raggedright", "raggedleft", "noindent", "indent", "hline", "smallskip", "medskip",
   "bigskip", "normalfont", "mdseries", "upshape", "rmfamily", "sffamily", "ttfamily", "newline", "newpage",
   "clearpage", "pagebreak", "linebreak", "nopagebreak", "par", "maketitle", "tableofcontents", "quad",
   "qquad"] ++ sizes

/-- Commands that leave no trace and take one argument with them. -/
def unaryCommands : List String :=
  ["vspace", "hspace", "pagestyle", "thispagestyle", "label", "titleformat", "titlespacing", "addtocounter",
   "setcounter", "input", "include", "pdfgentounicode", "urlstyle"]

def binaryCommands : List String :=
  ["setlength", "addtolength", "fontsize", "renewcommand", "newcommand"]

/-- How many arguments a command without a trace takes with it. -/
def droppedArguments? (name : String) : Option Nat :=
  if name ∈ unaryCommands then some 1 else if name ∈ binaryCommands then some 2 else none

/-- Only the color of links means anything. -/
def colorStyle? (name : List Char) : Option SpanStyle :=
  if Text.trim name = "linkblue".toList then some .accent else none

/-- The text that a command stands for. -/
def symbol? (name : String) : Option String :=
  [("&", "&"), ("%", "%"), ("$", "$"), ("#", "#"), ("_", "_"), ("\x7b", "\x7b"), ("\x7d", "\x7d"), ("|", "|"),
   (" ", " "), ("\t", " "), ("\n", " "), (",", " "), (";", " "), (":", " "), ("/", ""), ("-", ""), ("@", ""),
   ("textbackslash", "\\"), ("textbar", "|"), ("textbullet", "•"), ("ldots", "…"), ("dots", "…"),
   ("textellipsis", "…"), ("LaTeX", "LaTeX"), ("TeX", "TeX"), ("today", "")].lookup name

/-- Commands that end the contacts of a header. -/
def structuralCommands : List String :=
  ["section", "begin", "end", "resumeSubHeadingListStart", "resumeSubHeadingListEnd", "resumeSubheading",
   "resumeItemListStart", "resumeItemListEnd", "resumeItem", "item"]

def listEnvironments : List String :=
  ["itemize", "enumerate", "description"]

/-- Holds where a list option sets an empty label. -/
def hidesBullets (options : List Char) : Bool :=
  (Text.splitOnChar ',' options).any fun option =>
    Text.trim (option.takeWhile (· ≠ '=')) == "label".toList &&
      (option.dropWhile (· ≠ '=')).tail?.any fun value =>
        Text.trim value == [] || Text.trim value == ['\x7b', '\x7d']

end Vitae.Markup
