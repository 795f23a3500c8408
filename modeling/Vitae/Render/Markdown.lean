import Vitae.Content.Tree
import Vitae.Render.Basic

/-!
Resumes as Markdown. Sections are headings and entries two lines; a list item is one line of its inline
content, with the blocks inside it on indented lines below.
-/

namespace Vitae.Markdown

open Render

/-- Characters that could be read as Markdown. -/
def isSpecial (c : Char) : Bool :=
  c == '\\' || c == '\x60' || c == '*' || c == '_' || c == '[' || c == ']' || c == '|'

def escape (options : RenderOptions) (text : String) : String :=
  if options.escapeSpecialChars then
    .ofList (text.toList.flatMap fun c => if isSpecial c then ['\\', c] else [c])
  else text

def mark : SpanStyle → String → String
  | .bold, text => "**" ++ text ++ "**"
  | .italic, text => "*" ++ text ++ "*"
  | .underline, text => "<u>" ++ text ++ "</u>"
  | .smallCaps, text | .accent, text => text

/-- Marks hug the text, so white space at its ends stays outside. -/
def styledText (style : SpanStyle) (text : String) : String :=
  if text.isBlank then text
  else
    let lead := text.toList.takeWhile Text.isSpace
    let tail := (text.toList.reverse.takeWhile Text.isSpace).reverse
    .ofList lead ++ mark style text.trimmed ++ .ofList tail

def linkText (href label : String) : String :=
  if isSafeHref href then "[" ++ label.trimmed ++ "](" ++ href ++ ")" else label.trimmed

def paragraph (run : String) : String :=
  if run.isBlank then "" else run.trimmed ++ "\n\n"

def flowLayout (pieces : List Piece) : String :=
  layout paragraph "" pieces

/-- The two fields of a row that show anything. -/
def joinRow (left right : String) : String :=
  if left.isBlank then right.trimmed
  else if right.isBlank then left.trimmed
  else left.trimmed ++ " | " ++ right.trimmed

def joinRows (first second : String) : String :=
  if first.isEmpty then (if second.isEmpty then "" else second ++ "\n\n")
  else if second.isEmpty then first ++ "\n\n"
  else first ++ "  \n" ++ second ++ "\n\n"

def padding (indent : Nat) : String :=
  .ofList (List.replicate (2 * indent) ' ')

/-- The line of a list item at a level; an item without a marker shows nothing where its line is empty. -/
def itemText (options : RenderOptions) (bulleted : Bool) (indent : Nat) (line : String) : String :=
  if bulleted then padding indent ++ options.listMarker.toString ++ " " ++ line.trimmed ++ "\n"
  else if line.isBlank then ""
  else padding indent ++ line.trimmed ++ "  \n"

/-- The lines of a block inside a list item, indented below it. -/
def indented (indent : Nat) (block : String) : String :=
  String.join (((Text.lines block.toList).filter fun line => !line.all Text.isSpace).map fun line =>
    padding (indent + 1) ++ .ofList (Text.trim line) ++ "\n")

/-- Where blocks are rendered: among other blocks, or inside the items of a list at a level. -/
inductive Context where
  | flow
  | item (indent : Nat)

namespace Context

/-- The level of the lists in a context. -/
def listIndent : Context → Nat
  | .flow => 0
  | .item indent => indent + 1

/-- A list among blocks is followed by an empty line. -/
def listEnd : Context → String
  | .flow => "\n"
  | .item _ => ""

def place : Context → String → String
  | .flow, block => block
  | .item indent, block => indented indent block

end Context

section

variable {σ : Type} (options : RenderOptions) (visitor : Visitor σ)

mutual

/-- A node inside a line; a block there is only its plain text. -/
def inline : Node → Walk σ String
  | .fragment children => consult options visitor (.fragment children) (inlineAll children)
  | .styled style child => consult options visitor (.styled style child) do
    return styledText style (← inline child)
  | .link href label => consult options visitor (.link href label) do
    return linkText href (← inline label)
  | .lineBreak => consult options visitor .lineBreak (pure "  \n")
  | .separator => consult options visitor .separator (pure " | ")
  | .text value => consult options visitor (.text value) (pure (escape options value))
  | block => consult options visitor block
    (pure (escape options (block.plainText.map fun c => if c = '\n' then ' ' else c)))
termination_by structural node => node

def inlineAll : List Node → Walk σ String
  | [] => pure ""
  | node :: rest => do
    let first ← inline node
    return first ++ (← inlineAll rest)
termination_by structural nodes => nodes

end

mutual

/-- The line of a list item: its inline nodes, those of fragments too. -/
def itemLine : Node → Walk σ String
  | .fragment children => itemLines children
  | node => if node.isInline then inline options visitor node else pure ""
termination_by structural node => node

def itemLines : List Node → Walk σ String
  | [] => pure ""
  | node :: rest => do
    let first ← itemLine node
    return first ++ (← itemLines rest)
termination_by structural nodes => nodes

end

/-- A field of a row in its style, nothing for an empty one. -/
def fieldText (style? : Option SpanStyle) (field : Node) : Walk σ String :=
  if field.isEmpty then pure ""
  else inline options visitor (match style? with
    | some style => .styled style field
    | none => field)

def row (style : SpanStyle) (left right : Node) : Walk σ String := do
  let first ← fieldText options visitor (some style) left
  return joinRow first (← fieldText options visitor none right)

def contactTexts : List Node → Walk σ (List String)
  | [] => pure []
  | contact :: rest => do
    let first ← inline options visitor contact
    return first.trimmed :: (← contactTexts rest)

/-- An inline node counts in a flow; in an item its line has it already. -/
def inlinePieces (context : Context) (node : Node) : Walk σ (List Piece) :=
  match context with
  | .flow => return [.inline (← inline options visitor node)]
  | .item _ => return []

def blockPiece (context : Context) (node : Node) (content : Walk σ String) : Walk σ (List Piece) :=
  return [.block (context.place (← consult options visitor node content))]

mutual

def pieces (context : Context) : Node → Walk σ (List Piece)
  | .fragment children => allPieces context children
  | .header name lines contacts => blockPiece options visitor context (.header name lines contacts) do
    let shown ← contactTexts options visitor contacts
    let line := if shown.isEmpty then "" else " | ".intercalate shown ++ "\n\n"
    return "# " ++ escape options name ++ "\n\n" ++ line
  | .titled title body => blockPiece options visitor context (.titled title body) do
    return "## " ++ escape options title ++ "\n\n" ++ flowLayout (← allPieces .flow body)
  | .entry primary secondary tertiary quaternary =>
    blockPiece options visitor context (.entry primary secondary tertiary quaternary) do
      let first ← row options visitor .bold primary secondary
      return joinRows first (← row options visitor .italic tertiary quaternary)
  | .itemList bulleted items => do
    let text ← consult options visitor (.itemList bulleted items) do
      return (← itemTexts bulleted context.listIndent items) ++ context.listEnd
    return [.block text]
  | .columnGroup columns => blockPiece options visitor context (.columnGroup columns) do
    return flowLayout (← allPieces .flow columns)
  | .centered body => blockPiece options visitor context (.centered body) do
    return flowLayout (← allPieces .flow body)
  | node => inlinePieces options visitor context node
termination_by structural node => node

def allPieces (context : Context) : List Node → Walk σ (List Piece)
  | [] => pure []
  | node :: rest => do
    let first ← pieces context node
    return first ++ (← allPieces context rest)
termination_by structural nodes => nodes

/-- The items of a list at a level, each its line and then the blocks inside it. -/
def itemTexts (bulleted : Bool) (indent : Nat) : List Node → Walk σ String
  | [] => pure ""
  | item :: rest => do
    let line ← itemLine options visitor item
    let blocks ← pieces (.item indent) item
    return itemText options bulleted indent line ++ layout id "" blocks ++ (← itemTexts bulleted indent rest)
termination_by structural items => items

end

def content (tree : Tree) : Walk σ String :=
  return (flowLayout (← allPieces options visitor .flow tree)).trimmed

end

variable {σ : Type}

/-- The Markdown of a tree, and what the visitor and the counts have come to. -/
def run (options : RenderOptions) (visitor : Visitor σ) (memory : σ) (tree : Tree) : String × Session σ :=
  (content options visitor tree).run { memory }

def render (options : RenderOptions) (visitor : Visitor Unit) (tree : Tree) : String :=
  (run options visitor () tree).1

/-- Renders and counts what was rendered. -/
def runWithStats (options : RenderOptions) (visitor : Visitor σ) (memory : σ) (document : Document) :
    Rendered × Session σ :=
  let (content, session) := run { options with collectStats := true } visitor memory document.tree
  (⟨content, { session.stats with warningCount := document.warnings.length }, document.warnings⟩, session)

def renderWithStats (options : RenderOptions) (visitor : Visitor Unit) (document : Document) : Rendered :=
  (runWithStats options visitor () document).1

end Vitae.Markdown
